import RuntimeSupport.Proofs.Log.Line
import RuntimeSupport.Proofs.Program.Outcome

/-!
# What a program cannot see

A program writes to standard output and standard error and never looks at what has become of it.  So
two programs that differ in nothing else give the same answers and end alike (`Action.Respects`).
What else they have in common is up to a relation that the changes of a program do not break
(`Program.Congruence`); `perform_respects` then says that no step breaks it.

A step that does not change memory does not break a relation either that only changes of memory do
(`Program.OuterCongruence`).  What holds of a program whatever it writes and however its logging and
its settings stand is such a relation, of a program with itself; so it still holds after a step of
this kind, even if the process has ended there (`final_of_respects`).
-/

namespace RuntimeSupport

/-! ## Records are plain -/

lemma Memory.Event.plain_describe (e : Memory.Event) : Text.Plain e.describe := by
  cases e with
  | allocated n =>
    exact .append (.append (by decide) (Text.plain_numeral .decimal _)) (by decide)
  | reallocated old new =>
    exact .append (.append (.append (.append (by decide) (Text.plain_numeral .decimal _))
      (by decide)) (Text.plain_numeral .decimal _)) (by decide)
  | freed n => exact .append (.append (by decide) (Text.plain_numeral .decimal _)) (by decide)

lemma Settings.Error.plain_message (e : Settings.Error) : Text.Plain e.message := by
  cases e with
  | unknownAbortPolicy value =>
    exact .append (.append (by decide) (Text.plain_quote value)) (by decide)
  | invalidExitCode value =>
    exact .append (.append (by decide) (Text.plain_quote value)) (by decide)
  | exitCodeOutOfRange code =>
    exact .append (.append (by decide) (Text.plain_signedDecimal _)) (by decide)

lemma Settings.plain_describe (s : Settings) : Text.Plain s.describe := by
  have hpolicy : Text.Plain (describePolicy s.abort) := by
    cases s.abort with
    | exit code => exact .append (.append (by decide) (Text.plain_signedDecimal _)) (by decide)
    | trap => exact (by decide)
  unfold describe
  refine .append (.append (.append (.append (by decide) hpolicy) (by decide)) ?_) (by decide)
  cases s.logFilter with
  | none => exact (by decide)
  | some f => exact .append (.append (by decide) (Text.plain_quote f)) (by decide)

/-! ## Relations between programs -/

namespace Program

variable {R E : Program → Program → Prop} {p q : Program}

/-- A relation between programs that differ at most in what has been written, and that neither a
record nor the loading of settings breaks. -/
structure Stable (R : Program → Program → Prop) : Prop where
  same : ∀ {p q}, R p q → ∃ sink errors, q = { p with sink, errors }
  log : ∀ {p q}, R p q → ∀ r : Log.Record, Text.Plain r.message → R (p.log r) (q.log r)
  settings : ∀ {p q}, R p q → ∀ s, R { p with settings := some s } { q with settings := some s }

lemma Stable.foldl_log (h : Stable R) (hpq : R p q) {rs : List Log.Record}
    (hrs : ∀ r ∈ rs, Text.Plain r.message) :
    R (rs.foldl Program.log p) (rs.foldl Program.log q) := by
  induction rs generalizing p q with
  | nil => exact hpq
  | cons r rs ih =>
    rw [List.forall_mem_cons] at hrs
    exact ih (h.log hpq r hrs.1) hrs.2

/-- What is said when settings are loaded. -/
lemma plain_loading (lookup : Settings.Lookup) :
    ∀ r ∈ ((Settings.loadLenient lookup).2.map ignoring) ++
      [loaded (Settings.loadLenient lookup).1], Text.Plain r.message := by
  intro r hr
  rcases List.mem_append.1 hr with hr | hr
  · obtain ⟨e, -, rfl⟩ := List.mem_map.1 hr
    exact .append (by decide) e.plain_message
  · obtain rfl := List.mem_singleton.1 hr
    exact .append (by decide) (Settings.plain_describe _)

lemma Stable.loadSettings (h : Stable R) (hpq : R p q) :
    q.loadSettings.1 = p.loadSettings.1 ∧ R p.loadSettings.2 q.loadSettings.2 := by
  obtain ⟨sink, errors, hq⟩ := h.same hpq
  have hsettings : q.settings = p.settings := by rw [hq]
  have hlookup : q.environment = p.environment := by rw [hq]
  unfold Program.loadSettings
  rw [hsettings, hlookup]
  cases p.settings with
  | some s => exact ⟨rfl, hpq⟩
  | none => exact ⟨rfl, h.settings (h.foldl_log hpq (plain_loading _)) _⟩

/-- Two programs that have answered alike are in one relation, and two that have ended alike in
another. -/
inductive Alike {α : Type} (R E : Program → Program → Prop) :
    EStateM.Result Ending Program α → EStateM.Result Ending Program α → Prop
  | answered (a : α) {p q : Program} (h : R p q) : Alike R E (.ok a p) (.ok a q)
  | ended (e : Ending) {p q : Program} (h : E p q) : Alike R E (.error e p) (.error e q)

/-- A relation between programs that go on, and one between programs that have ended, which no
change of a program outside its memory breaks. -/
structure OuterCongruence (R E : Program → Program → Prop) : Prop where
  stable : Stable R
  ended : Stable E
  weaken : ∀ {p q}, R p q → E p q
  lastWords : ∀ {p q}, R p q → ∀ words, E (Action.lastWords p words) (Action.lastWords q words)
  print : ∀ {p q}, R p q → ∀ bs, Alike R E (Action.print bs p) (Action.print bs q)
  complaints : ∀ {p q}, R p q → R (p.report p.readFilter.2) (q.report q.readFilter.2)
  filter : ∀ {p q}, R p q →
    R { p with filter := some p.readFilter.1 } { q with filter := some q.readFilter.1 }

/-- A relation between programs that go on, and one between programs that have ended, which the
changes of a program do not break. -/
structure Congruence (R E : Program → Program → Prop) : Prop extends OuterCongruence R E where
  heap : ∀ {p q}, R p q → ∀ heap, R { p with heap } { q with heap }
  pointers : ∀ {p q}, R p q → ∀ pointers, R { p with pointers } { q with pointers }

lemma OuterCongruence.startLogging (h : OuterCongruence R E) (hpq : R p q) :
    R p.startLogging q.startLogging := by
  have hreported := h.complaints hpq
  have hfilter : q.filter = p.filter := by
    obtain ⟨sink, errors, hq⟩ := h.stable.same hpq
    rw [hq]
  have htext : q.filterText = p.filterText := by
    obtain ⟨sink, errors, hq⟩ := h.stable.same hpq
    rw [hq, filterText, filterText]
  rw [startLogging_def, startLogging_def, hfilter, htext]
  refine (h.stable.loadSettings ?_).2
  cases p.filter with
  | some f => exact hreported
  | none =>
    have hplain : Text.Plain (loggingStarted p.filterText).message :=
      .append (by decide) (Text.plain_quote p.filterText)
    exact h.stable.log (h.filter hreported) _ hplain

end Program

namespace Action

open Program

variable {α β : Type} {R E : Program → Program → Prop} {act : Action α} {next : α → Action β}

/-- What comes after the fatal path is never reached. -/
lemma abort_bind (words : Bytes) (next : α → Action β) : abort words >>= next = abort words := rfl

/-- The state that an action leaves, whether it answers or ends the process. -/
def final (act : Action α) (p : Program) : Program :=
  match act p with
  | .ok _ q => q
  | .error _ q => q

lemma final_of_ok {p q : Program} {a : α} (h : act p = .ok a q) : act.final p = q := by
  rw [final, h]

lemma final_of_error {p q : Program} {e : Ending} (h : act p = .error e q) : act.final p = q := by
  rw [final, h]

/-- An action does the same to related programs. -/
def Respects (R E : Program → Program → Prop) (act : Action α) : Prop :=
  ∀ ⦃p q⦄, R p q → Alike R E (act p) (act q)

lemma respects_pure (a : α) : Respects R E (pure a) := fun _ _ h => .answered a h

lemma Respects.bind (hact : act.Respects R E) (hnext : ∀ a, (next a).Respects R E) :
    (act >>= next).Respects R E := by
  intro p q hpq
  have hfirst := hact hpq
  generalize hp : act p = r at hfirst
  generalize hq : act q = r' at hfirst
  cases hfirst with
  | answered a h =>
    rw [bind_of_ok hp, bind_of_ok hq]
    exact hnext a h
  | ended e h =>
    rw [bind_of_error hp, bind_of_error hq]
    exact .ended e h

lemma respects_modify {f : Program → Program} (h : ∀ {p q}, R p q → R (f p) (f q)) :
    Respects R E (modify f) :=
  fun _ _ hpq => .answered () (h hpq)

/-- What goes on with the state does not look at what has been written. -/
lemma respects_get {next : Program → Action β} (hR : OuterCongruence R E)
    (hsame : ∀ (p : Program) sink errors, next { p with sink, errors } = next p)
    (hnext : ∀ p, (next p).Respects R E) : (get >>= next).Respects R E := by
  intro p q hpq
  obtain ⟨sink, errors, hq⟩ := hR.stable.same hpq
  show Alike R E (next p p) (next q q)
  have hnextq : next q = next p := by rw [hq, hsame]
  rw [hnextq]
  exact hnext p hpq

section

variable (hR : OuterCongruence R E)

include hR

/-! ## The fatal path -/

lemma respects_abort (words : Bytes) : Respects R E (abort words : Action α) := by
  intro p q hpq
  obtain ⟨hsettings, hlast⟩ := hR.ended.loadSettings (hR.lastWords hpq words)
  unfold abort
  simp only [hsettings]
  exact .ended _ hlast

lemma respects_orAbort (r : Except Fault α) : (orAbort r).Respects R E := by
  cases r with
  | ok a => exact respects_pure a
  | error f => exact respects_abort hR f.words

/-! ## Arguments -/

lemma respects_captured : captured.Respects R E := by
  refine respects_get hR (fun _ _ _ => rfl) fun p => ?_
  cases p.arguments <;> exact respects_pure _

lemma respects_argumentCount : argumentCount.Respects R E :=
  (respects_captured hR).bind fun _ => (respects_orAbort hR _).bind fun _ => respects_pure _

lemma respects_argument (n : Nat) : (argument n).Respects R E :=
  (respects_captured hR).bind fun _ => respects_orAbort hR _

/-- Arguments may be captured if the relation allows for that. -/
lemma respects_capture {a : Arguments}
    (h : ∀ {p q}, R p q → R { p with arguments := some a } { q with arguments := some a }) :
    (capture a).Respects R E := by
  intro p q hpq
  have harguments : q.arguments = p.arguments := by
    obtain ⟨sink, errors, hq⟩ := hR.stable.same hpq
    rw [hq]
  unfold capture
  rw [harguments]
  cases p.arguments with
  | some b => exact .answered _ hpq
  | none =>
    have hplain : Text.Plain (argumentsCaptured a).message :=
      .append (.append (by decide) (Text.plain_numeral .decimal _)) (by decide)
    exact .answered _ (hR.stable.log (h hpq) _ hplain)

lemma respects_startLogging : startLogging.Respects R E :=
  respects_modify fun h => hR.startLogging h

lemma respects_storeArguments {raw : RawArguments}
    (h : ∀ a, Arguments.ofRaw raw = .ok a → (capture a).Respects R E) :
    (storeArguments raw).Respects R E := by
  refine (respects_startLogging hR).bind fun _ => ?_
  cases hraw : Arguments.ofRaw raw with
  | error f =>
    rw [orAbort, abortWith, abort_bind]
    exact respects_abort hR f.words
  | ok a => exact (h a hraw).bind fun _ => (respects_orAbort hR _).bind fun _ => respects_pure _

/-! ## Counters -/

lemma respects_counters (room : Bool) : (counters room).Respects R E := by
  cases room with
  | true => exact respects_get hR (fun _ _ _ => rfl) fun _ => respects_pure _
  | false => exact respects_abort hR (Fault.words _)

/-! ## Printing -/

lemma respects_print (bs : Bytes) : (print bs).Respects R E := fun _ _ h => hR.print h bs

lemma respects_printOrAbort (result : Except Bytes Bytes) :
    (printOrAbort result).Respects R E := by
  cases result with
  | ok out => exact respects_print hR out
  | error words => exact respects_abort hR words

lemma respects_printFormatted (fmt : Bytes) (args : List Format.Argument) :
    (printFormatted fmt args).Respects R E := by
  unfold printFormatted
  split
  · exact (respects_print hR _).bind fun _ => respects_pure _
  · exact respects_pure _

lemma respects_printArray (a : PassedArray) : (printArray a).Respects R E := by
  unfold printArray
  split
  · exact respects_abort hR (Fault.words _)
  · exact respects_print hR _

lemma respects_printArguments (fmt : Option Bytes) (args : Option (List Format.RawArgument))
    (count : UInt64) : (printArguments fmt args count).Respects R E := by
  cases fmt with
  | none => exact respects_abort hR (Fault.words _)
  | some fmt =>
    cases h : args.isNone && count > 0 with
    | true =>
      rw [printArguments]
      simp only [h]
      exact respects_abort hR (Fault.words _)
    | false =>
      rw [printArguments_eq fmt h]
      exact respects_printOrAbort hR _

lemma respects_printThrough {Arguments : Type} (host : Variadic.Host Arguments)
    (fmt : Option Bytes) (args : Arguments) : (printThrough host fmt args).Respects R E := by
  cases fmt with
  | none => exact respects_abort hR _
  | some fmt =>
    rw [printThrough_eq]
    exact respects_printOrAbort hR _

lemma respects_printVariadic (fmt : Option Bytes) (args : List Variadic.Argument) :
    (printVariadic fmt args).Respects R E :=
  respects_get hR (fun _ _ _ => rfl) fun p => respects_printThrough hR p.platform.formatter fmt args

end

section

variable (hR : Congruence R E)

include hR

/-! ## Memory -/

lemma respects_changeHeap (heap : Memory.Heap) (e : Memory.Event) :
    (changeHeap heap e).Respects R E :=
  respects_modify fun h => hR.stable.log (hR.heap h heap) _ e.plain_describe

lemma respects_handOut (r : Except Fault (Memory.Block × Memory.Heap)) :
    (handOut r).Respects R E := by
  cases r with
  | ok b => exact (respects_changeHeap hR _ _).bind fun _ => respects_pure _
  | error f => exact respects_abort hR.toOuterCongruence f.words

lemma respects_allocate (size count : UInt64) : (allocate size count).Respects R E :=
  respects_get hR.toOuterCongruence (fun _ _ _ => rfl) fun _ => respects_handOut hR _

lemma respects_reallocate (x : Option Memory.Handle) (length : UInt64) :
    (reallocate x length).Respects R E := by
  refine respects_get hR.toOuterCongruence (fun _ _ _ => rfl) fun p => ?_
  cases x with
  | none => exact respects_handOut hR _
  | some x =>
    simp only
    rcases p.heap.reallocate (p.heap.ofRaw x) length with ⟨f | b, heap⟩
    · exact (respects_changeHeap hR _ _).bind fun _ => respects_abort hR.toOuterCongruence f.words
    · exact (respects_changeHeap hR _ _).bind fun _ => respects_pure _

lemma respects_free (x : Option Memory.Handle) : (free x).Respects R E := by
  cases x with
  | none => exact respects_pure ()
  | some x =>
    exact respects_get hR.toOuterCongruence (fun _ _ _ => rfl) fun p => respects_changeHeap hR _ _

/-- The heap may change in a way that depends on nothing but itself. -/
lemma respects_modifyHeap (f : Memory.Heap → Memory.Heap) :
    Respects R E (modify fun p => { p with heap := f p.heap }) := by
  refine respects_modify fun {p q} hpq => ?_
  obtain ⟨sink, errors, rfl⟩ := hR.stable.same hpq
  exact hR.heap hpq (f p.heap)

lemma respects_modifyPointers (f : Table Nat Memory.Handle → Table Nat Memory.Handle) :
    Respects R E (modify fun p => { p with pointers := f p.pointers }) := by
  refine respects_modify fun {p q} hpq => ?_
  obtain ⟨sink, errors, rfl⟩ := hR.stable.same hpq
  exact hR.pointers hpq (f p.pointers)

lemma respects_transfer (t : Transfer) (dest source : Option Memory.Location) (count : UInt64) :
    (transfer t dest source count).Respects R E := by
  unfold transfer
  split
  · exact respects_pure _
  · split
    · exact respects_abort hR.toOuterCongruence (Fault.words _)
    · exact respects_abort hR.toOuterCongruence (Fault.words _)
    · next d s => exact (respects_modifyHeap hR (t.apply · d s count)).bind fun _ => respects_pure _

end

end Action

namespace Program

open RuntimeSupport.Action Memory

variable {R E : Program → Program → Prop}

/-- The arguments that a step offers to capture.  A vector that does not keep what its count
promises offers none. -/
def Step.offered? (systemArguments : List Bytes) : Step → Option Arguments
  | .storeArguments raw => (Arguments.ofRaw raw).toOption
  | .capture args => some ⟨args⟩
  | .captureSystem => some ⟨systemArguments⟩
  | _ => none

/-- A step that may change memory or what a variable points at. -/
def Step.ChangesMemory : Step → Prop
  | .allocate _ _ _ | .reallocate _ _ | .free _ | .poke _ _ _ | .transfer _ _ _ _
  | .storeAt _ _ _ _ => True
  | _ => False

section

variable (hR : OuterCongruence R E)

include hR

lemma respects_withVariable {id : Nat} {missing : Refusal} {act : Handle → Action Answer}
    (h : ∀ x, (act x).Respects R E) : (withVariable id missing act).Respects R E := by
  refine respects_get hR (fun _ _ _ => rfl) fun p => ?_
  cases p.pointee? id with
  | none => exact respects_pure _
  | some x => exact h x

lemma respects_withArray {array : ArraySource} {act : PassedArray → Action Answer}
    (h : ∀ a, (act a).Respects R E) : (withArray array act).Respects R E := by
  refine respects_get hR (fun _ _ _ => by cases array <;> rfl) fun p => ?_
  cases p.array? array with
  | none => exact respects_pure _
  | some a => exact h a

end

section

variable (hR : Congruence R E)

include hR

lemma respects_point (id : Nat) (x : Handle) : (point id x).Respects R E :=
  (respects_modifyPointers hR (·.set id x)).bind fun _ =>
    respects_get hR.toOuterCongruence (fun _ _ _ => rfl) fun _ => respects_pure _

lemma respects_store (x : Handle) (offset : UInt64) (bs : Bytes) :
    (store x offset bs).Respects R E :=
  (respects_modifyHeap hR (·.write ⟨x, offset⟩ bs)).bind fun _ =>
    respects_get hR.toOuterCongruence (fun _ _ _ => rfl) fun _ => respects_pure _

lemma respects_stepTransfer (t : Action.Transfer) (dest source : Option Place) (count : UInt64) :
    (transfer t dest source count).Respects R E := by
  refine respects_get hR.toOuterCongruence
    (fun _ _ _ => by cases dest <;> cases source <;> rfl) fun p => ?_
  split
  · split
    · exact respects_pure _
    · split
      · exact respects_pure _
      · exact (respects_transfer hR _ _ _ _).bind fun _ =>
          respects_get hR.toOuterCongruence (fun _ _ _ => rfl) fun _ => respects_pure _
  · exact respects_pure _

end

/-- A step does the same to related programs, as long as the relation allows for what the step may
do to memory and for the capture of the arguments that it offers. -/
theorem perform_respects_of (hR : OuterCongruence R E) (s : Step)
    (hmemory : s.ChangesMemory → Congruence R E)
    (hcapture : ∀ system a, s.offered? system = some a → ∀ {p q}, R p q →
      R { p with arguments := some a } { q with arguments := some a }) :
    s.perform.Respects R E := by
  cases s with
  | storeArguments raw =>
    refine (respects_storeArguments hR fun a ha => ?_).bind fun _ => respects_pure _
    refine respects_capture hR (hcapture [] a ?_)
    rw [Step.offered?, ha]
    rfl
  | argumentCount => exact (respects_argumentCount hR).bind fun _ => respects_pure _
  | argument n => exact (respects_argument hR n).bind fun _ => respects_pure _
  | captured => exact (respects_captured hR).bind fun _ => respects_pure _
  | capture args =>
    exact (respects_capture hR (hcapture [] ⟨args⟩ rfl)).bind fun _ => respects_pure _
  | captureSystem =>
    have hsystem : captureSystem.Respects R E :=
      respects_get hR (fun _ _ _ => rfl) fun p =>
        respects_capture hR (hcapture p.systemArguments _ rfl)
    exact hsystem.bind fun _ => respects_pure _
  | allocate id size count =>
    have hM := hmemory trivial
    exact (respects_allocate hM size count).bind fun x => respects_point hM id x
  | reallocate id length =>
    have hM := hmemory trivial
    exact respects_get hR (fun _ _ _ => rfl) fun _ =>
      (respects_reallocate hM _ length).bind fun x => respects_point hM id x
  | free id =>
    have hM := hmemory trivial
    exact respects_get hR (fun _ _ _ => rfl) fun _ => (respects_free hM _).bind fun _ =>
      (respects_modifyPointers hM (·.erase id)).bind fun _ => respects_pure _
  | poke id offset bs =>
    refine respects_withVariable hR fun x => respects_get hR (fun _ _ _ => rfl) fun p => ?_
    split
    · exact respects_store (hmemory trivial) x offset bs
    · exact respects_pure _
  | read id =>
    exact respects_withVariable hR fun x =>
      respects_get hR (fun _ _ _ => rfl) fun _ => respects_pure _
  | transfer t dest source count =>
    exact respects_stepTransfer (hmemory trivial) t dest source count
  | counters room => exact (respects_counters hR room).bind fun _ => respects_pure _
  | index array i elemSize =>
    exact respects_withArray hR fun a => (respects_orAbort hR _).bind fun _ => respects_pure _
  | storeAt id i elemSize byte =>
    exact respects_withVariable hR fun x => respects_get hR (fun _ _ _ => rfl) fun p =>
      (respects_orAbort hR _).bind fun _ => respects_store (hmemory trivial) _ _ _
  | makeView v => exact respects_pure _
  | printArray array =>
    exact respects_withArray hR fun a => (respects_printArray hR a).bind fun _ => respects_pure _
  | print bs => exact (respects_print hR bs).bind fun _ => respects_pure _
  | printFormatted fmt args =>
    refine (respects_printFormatted hR fmt args).bind fun r => ?_
    split
    · exact respects_pure _
    · exact respects_pure _
    · exact fun p q h => .ended _ (hR.weaken h)
  | printArguments fmt args count =>
    exact (respects_printArguments hR fmt args count).bind fun _ => respects_pure _
  | printVariadic fmt args =>
    exact (respects_printVariadic hR fmt args).bind fun _ => respects_pure _
  | abortArray array => exact respects_withArray hR fun a => respects_abort hR _
  | abort message => exact respects_abort hR message
  | abortWith f => exact respects_abort hR f.words
  | orAbort result => exact (respects_orAbort hR result).bind fun _ => respects_pure _
  | terminate policy => exact fun p q h => .ended _ (hR.weaken h)
  | startLogging => exact (respects_startLogging hR).bind fun _ => respects_pure _
  | settings =>
    have hload : Respects R E (modifyGet Program.loadSettings) := by
      intro p q hpq
      obtain ⟨hsettings, hloaded⟩ := hR.stable.loadSettings hpq
      show Alike R E (.ok p.loadSettings.1 p.loadSettings.2) (.ok q.loadSettings.1 q.loadSettings.2)
      rw [hsettings]
      exact .answered _ hloaded
    exact hload.bind fun _ => respects_pure _
  | readSettings =>
    refine respects_get hR (fun _ _ _ => rfl) fun p => ?_
    split
    · exact respects_pure _
    · exact respects_pure _

/-- A step does the same to related programs, as long as the relation allows for the capture of the
arguments that the step offers. -/
theorem perform_respects (hR : Congruence R E) (s : Step)
    (hcapture : ∀ system a, s.offered? system = some a → ∀ {p q}, R p q →
      R { p with arguments := some a } { q with arguments := some a }) :
    s.perform.Respects R E :=
  perform_respects_of hR.toOuterCongruence s (fun _ => hR) hcapture

/-- Related programs run alike. -/
theorem run_respects (hR : Congruence R E)
    (hcapture : ∀ a, ∀ {p q}, R p q →
      R { p with arguments := some a } { q with arguments := some a })
    {p q : Program} (hpq : R p q) (steps : List Step) :
    (q.run steps).answers = (p.run steps).answers ∧ (q.run steps).ending = (p.run steps).ending ∧
      E (p.run steps).last (q.run steps).last := by
  induction steps generalizing p q with
  | nil => exact ⟨rfl, rfl, hR.weaken hpq⟩
  | cons s steps ih =>
    have hstep := perform_respects hR s (fun _ a _ => hcapture a) hpq
    rw [run, run]
    generalize s.perform p = r at hstep ⊢
    generalize s.perform q = r' at hstep ⊢
    cases hstep with
    | answered a h =>
      obtain ⟨hanswers, hending, hlast⟩ := ih h
      exact ⟨congrArg (a :: ·) hanswers, hending, hlast⟩
    | ended e h => exact ⟨rfl, rfl, h⟩

/-! ## What a program keeps -/

/-- One and the same program, of which something holds. -/
def Itself (P : Program → Prop) (p q : Program) : Prop := q = p ∧ P p

/-- Something holds of a program whatever it writes and however its logging and its settings
stand. -/
def Inward (P : Program → Prop) : Prop :=
  ∀ p sink errors filter settings, P p → P { p with sink, errors, filter, settings }

variable {P : Program → Prop} {p : Program}

lemma Inward.log (h : Inward P) (hp : P p) (r : Log.Record) : P (p.log r) := by
  obtain ⟨errors, hlog⟩ := p.log_eq r
  rw [hlog]
  exact h p p.sink errors p.filter p.settings hp

lemma Inward.stable (h : Inward P) : Stable (Itself P) where
  same := by
    rintro p q ⟨rfl, -⟩
    exact ⟨q.sink, q.errors, rfl⟩
  log := by
    rintro p q ⟨rfl, hp⟩ r -
    exact ⟨rfl, h.log hp r⟩
  settings := by
    rintro p q ⟨rfl, hp⟩ s
    exact ⟨rfl, h q q.sink q.errors q.filter (some s) hp⟩

lemma Inward.outerCongruence (h : Inward P) : OuterCongruence (Itself P) (Itself P) where
  stable := h.stable
  ended := h.stable
  weaken hp := hp
  lastWords := by
    rintro p q ⟨rfl, hp⟩ words
    obtain ⟨errors, hlast⟩ := lastWords_eq q words
    rw [hlast]
    exact ⟨rfl, h q q.sink.flush.1 errors q.filter q.settings hp⟩
  print := by
    rintro p q ⟨rfl, hp⟩ bs
    have hsink : P { q with sink := (q.sink.print bs).1 } :=
      h q (q.sink.print bs).1 q.errors q.filter q.settings hp
    refine .answered () ⟨rfl, ?_⟩
    split
    · exact hsink
    · exact h.log hsink _
  complaints := by
    rintro p q ⟨rfl, hp⟩
    exact ⟨rfl, h q q.sink (q.errors ++ q.readFilter.2) q.filter q.settings hp⟩
  filter := by
    rintro p q ⟨rfl, hp⟩
    exact ⟨rfl, h q q.sink q.errors (some q.readFilter.1) q.settings hp⟩

/-- What holds of a program with itself holds where an action leaves it. -/
lemma final_of_respects {α : Type} {act : Action α}
    (hact : act.Respects (Itself P) (Itself P)) (hp : P p) : P (act.final p) := by
  have halike := hact ⟨rfl, hp⟩
  unfold Action.final
  generalize act p = r at halike ⊢
  cases halike with
  | answered a hq => exact hq.2
  | ended e hq => exact hq.2

end Program

end RuntimeSupport
