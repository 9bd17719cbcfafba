import Mathlib.Tactic.Lemma
import RuntimeSupport.Program.Script
import RuntimeSupport.Proofs.Log.Logger
import RuntimeSupport.Proofs.Sink
import RuntimeSupport.Proofs.Variadic

/-!
# What the actions of a program do

An action that does not print leaves standard output alone, up to its last words if it has any, and
whatever it does, the settings that the process goes by stay the same (`Program.Silent`).  Once
logging and settings are set up it writes nothing to standard error either, unless the filter admits
more than warnings (`Program.Reserved`).
`Action.Quiet` says this together with the one thing that differs from action to action: whether it
reaches the fatal path, and with which last words.  There is one lemma for each action
(`Action.quiet_allocate`, `Action.quiet_argument` and so on), and `Quiet` composes as actions do.
-/

namespace RuntimeSupport

/-- The last words of a process that ends because of a fault. -/
def Fault.words (f : Fault) : Bytes := Text.Utf8.encode f.message

/-- The last words of a process that ends because formatting has failed. -/
def Format.Failure.words : Format.Failure → Bytes
  | .error e => (Fault.format e).words
  | .panic p => Text.Utf8.encode ("internal runtime panic: " ++ p.text)

namespace Program

variable {p q r : Program}

/-! ## What stays -/

/-- The settings that a process goes by: those that it has loaded, or those that it would load. -/
def effective (p : Program) : Settings :=
  p.settings.getD (Settings.loadLenient p.environment.lookup).1

/-- What can become of a program that does not print. -/
structure Silent (p q : Program) : Prop where
  platform : q.platform = p.platform
  effective : q.effective = p.effective
  sink : q.sink = p.sink

lemma Silent.refl (p : Program) : p.Silent p := ⟨rfl, rfl, rfl⟩

lemma Silent.trans (h : p.Silent q) (h' : q.Silent r) : p.Silent r :=
  ⟨h'.platform.trans h.platform, h'.effective.trans h.effective, h'.sink.trans h.sink⟩

/-- Two programs with the same diagnostics: the same has been set up, and the same has been written
to standard error. -/
structure SameDiagnostics (p q : Program) : Prop where
  platform : q.platform = p.platform
  environment : q.environment = p.environment
  filter : q.filter = p.filter
  settings : q.settings = p.settings
  errors : q.errors = p.errors

/-- A program whose filter lets just errors and warnings through. -/
def Warns (p : Program) : Prop :=
  ∃ admits, p.filter = some admits ∧ ∀ r, admits r = Log.Limit.admits (some .warn) r.level

/-- A program that has set up its logging and its settings, and whose diagnostics are errors and
warnings only. -/
structure Terse (p : Program) : Prop where
  complaints : p.readFilter.2 = []
  warns : p.Warns
  settings : ∃ s, p.settings = some s

lemma SameDiagnostics.refl (p : Program) : p.SameDiagnostics p := ⟨rfl, rfl, rfl, rfl, rfl⟩

lemma sameDiagnostics_heap (p : Program) (heap : Memory.Heap) :
    p.SameDiagnostics { p with heap } := ⟨rfl, rfl, rfl, rfl, rfl⟩

lemma sameDiagnostics_pointers (p : Program) (pointers : Table Nat Memory.Handle) :
    p.SameDiagnostics { p with pointers } := ⟨rfl, rfl, rfl, rfl, rfl⟩

lemma SameDiagnostics.trans (h : p.SameDiagnostics q) (h' : q.SameDiagnostics r) :
    p.SameDiagnostics r :=
  ⟨h'.platform.trans h.platform, h'.environment.trans h.environment, h'.filter.trans h.filter,
    h'.settings.trans h.settings, h'.errors.trans h.errors⟩

lemma SameDiagnostics.effective (h : p.SameDiagnostics q) : q.effective = p.effective := by
  rw [Program.effective, h.settings, h.environment, Program.effective]

lemma Terse.of_same (hp : p.Terse) (h : p.SameDiagnostics q) : q.Terse := by
  have hread : q.readFilter = p.readFilter := by
    rw [readFilter, filterText, h.platform, h.environment, readFilter, filterText]
  obtain ⟨hcomplaints, hwarns, hsettings⟩ := hp
  rw [← hread] at hcomplaints
  rw [Warns, ← h.filter] at hwarns
  rw [← h.settings] at hsettings
  exact ⟨hcomplaints, hwarns, hsettings⟩

/-- What can become of a program that neither prints nor, if it is terse, says anything. -/
structure Reserved (p q : Program) : Prop extends Silent p q where
  same : p.Terse → p.SameDiagnostics q

lemma SameDiagnostics.reserved (h : p.SameDiagnostics q) (hsink : q.sink = p.sink) :
    p.Reserved q :=
  ⟨⟨h.platform, h.effective, hsink⟩, fun _ => h⟩

lemma Reserved.refl (p : Program) : p.Reserved p := (SameDiagnostics.refl p).reserved rfl

lemma Reserved.trans (h : p.Reserved q) (h' : q.Reserved r) : p.Reserved r :=
  ⟨h.toSilent.trans h'.toSilent,
    fun hp => (h.same hp).trans (h'.same (hp.of_same (h.same hp)))⟩

/-! ## Logging and settings -/

/-- A record changes nothing but what has been written to standard error. -/
lemma log_eq (p : Program) (r : Log.Record) : ∃ errors, p.log r = { p with errors } := by
  unfold log
  split
  · split
    · exact ⟨_, rfl⟩
    · exact ⟨_, rfl⟩
  · exact ⟨_, rfl⟩

lemma foldl_eq {α : Type} {say : Program → α → Program}
    (hsay : ∀ p a, ∃ errors, say p a = { p with errors }) (p : Program) (as : List α) :
    ∃ errors, as.foldl say p = { p with errors } := by
  induction as generalizing p with
  | nil => exact ⟨_, rfl⟩
  | cons a as ih =>
    obtain ⟨errors, hfirst⟩ := hsay p a
    obtain ⟨errors', hrest⟩ := ih (say p a)
    rw [List.foldl_cons, hrest, hfirst]
    exact ⟨_, rfl⟩

lemma silent_log (p : Program) (r : Log.Record) : p.Silent (p.log r) := by
  obtain ⟨errors, hlog⟩ := p.log_eq r
  rw [hlog]
  exact ⟨rfl, rfl, rfl⟩

/-- A program writes a record, if its filter lets just errors and warnings through and it is one. -/
lemma Warns.log_of_le {r : Log.Record} (hp : p.Warns)
    (hr : r.level.detail ≤ Log.Level.warn.detail) :
    p.log r = p.report (p.platform.logger.line r) := by
  obtain ⟨admits, hfilter, hadmits⟩ := hp
  have hr' : admits r = true := (hadmits r).trans (decide_eq_true hr)
  simp only [log, hfilter, hr', if_true]

/-- Otherwise it does nothing. -/
lemma Warns.log_of_lt {r : Log.Record} (hp : p.Warns)
    (hr : Log.Level.warn.detail < r.level.detail) : p.log r = p := by
  obtain ⟨admits, hfilter, hadmits⟩ := hp
  have hr' : admits r = false := (hadmits r).trans (decide_eq_false (Nat.not_le.2 hr))
  simp only [log, hfilter, hr', Bool.false_eq_true, if_false]

lemma reserved_log (p : Program) {r : Log.Record} (hr : r.level = .debug ∨ r.level = .trace) :
    p.Reserved (p.log r) := by
  have hdetail : Log.Level.warn.detail < r.level.detail := by
    rcases hr with hr | hr
    · rw [hr]
      decide
    · rw [hr]
      decide
  refine ⟨p.silent_log r, fun hp => ?_⟩
  rw [hp.warns.log_of_lt hdetail]
  exact .refl p

lemma loadSettings_fst (p : Program) : p.loadSettings.1 = p.effective := by
  unfold loadSettings effective
  cases p.settings <;> rfl

/-- Whoever asks for the settings finds them loaded afterwards, and nothing else changed but what
has been said about it. -/
lemma loadSettings_snd (p : Program) :
    ∃ errors, p.loadSettings.2 = { p with errors, settings := some p.effective } := by
  unfold loadSettings effective
  cases hs : p.settings with
  | some s =>
    refine ⟨p.errors, ?_⟩
    cases p
    cases hs
    rfl
  | none =>
    obtain ⟨errors, hlog⟩ := foldl_eq log_eq p
      (((Settings.loadLenient p.environment.lookup).2.map ignoring) ++
        [loaded (Settings.loadLenient p.environment.lookup).1])
    refine ⟨errors, ?_⟩
    simp only [hlog]
    rfl

lemma silent_loadSettings (p : Program) : p.Silent p.loadSettings.2 := by
  obtain ⟨errors, hload⟩ := p.loadSettings_snd
  rw [hload]
  exact ⟨rfl, rfl, rfl⟩

lemma Terse.loadSettings (hp : p.Terse) : p.loadSettings.2 = p := by
  obtain ⟨s, hs⟩ := hp.settings
  simp only [Program.loadSettings, hs]

lemma reserved_loadSettings (p : Program) : p.Reserved p.loadSettings.2 := by
  refine ⟨p.silent_loadSettings, fun hp => ?_⟩
  rw [hp.loadSettings]
  exact .refl p

lemma startLogging_def (p : Program) :
    p.startLogging =
      (match p.filter with
        | some _ => p.report p.readFilter.2
        | none => { p.report p.readFilter.2 with filter := some p.readFilter.1 }.log
            (loggingStarted p.filterText)).loadSettings.2 := rfl

lemma startLogging_eq (p : Program) :
    ∃ errors filter, p.startLogging = ({ p with errors, filter } : Program).loadSettings.2 := by
  rw [startLogging_def]
  cases hf : p.filter with
  | some f => exact ⟨_, p.filter, rfl⟩
  | none =>
    obtain ⟨errors, hlog⟩ := log_eq { p.report p.readFilter.2 with filter := some p.readFilter.1 }
      (loggingStarted p.filterText)
    exact ⟨errors, _, congrArg (fun q => q.loadSettings.2) hlog⟩

lemma silent_startLogging (p : Program) : p.Silent p.startLogging := by
  obtain ⟨errors, filter, hstart⟩ := p.startLogging_eq
  have hbefore : p.Silent { p with errors, filter } := ⟨rfl, rfl, rfl⟩
  rw [hstart]
  exact hbefore.trans (silent_loadSettings _)

/-- Setting logging up again changes nothing. -/
lemma Terse.startLogging (hp : p.Terse) : p.startLogging = p := by
  obtain ⟨admits, hfilter, -⟩ := hp.warns
  have hreport : p.report p.readFilter.2 = p := by
    rw [hp.complaints, report, List.append_nil]
  rw [startLogging_def, hfilter]
  simp only [hreport]
  exact hp.loadSettings

lemma reserved_startLogging (p : Program) : p.Reserved p.startLogging := by
  refine ⟨p.silent_startLogging, fun hp => ?_⟩
  rw [hp.startLogging]
  exact .refl p

lemma arguments_startLogging (p : Program) : p.startLogging.arguments = p.arguments := by
  obtain ⟨errors, filter, hstart⟩ := p.startLogging_eq
  obtain ⟨errors', hload⟩ := loadSettings_snd { p with errors, filter }
  rw [hstart, hload]

/-! ## What is at fault -/

/-- The arguments of a process, if it has captured any. -/
def knownArguments (p : Program) : Except Fault Arguments :=
  match p.arguments with
  | some a => .ok a
  | none => .error .argumentsNotCaptured

/-- What an attempt to capture arguments comes to. -/
def captureResult (p : Program) (a : Arguments) : Except Fault Arguments :=
  match p.arguments with
  | some _ => .error .argumentsAlreadyCaptured
  | none => .ok a

end Program

/-- What is wrong with the pointers of a copy that has something to do. -/
def Action.Transfer.nullFault? (t : Action.Transfer) (dest source : Option Memory.Location) :
    Option Fault :=
  match dest, source with
  | none, _ => some (.nullPointer (t.name ++ " destination"))
  | some _, none => some (.nullPointer (t.name ++ " source"))
  | some _, some _ => none

namespace Action

open Program

variable {α β : Type} {p q : Program}

/-! ## The fatal path -/

/-- Last words are the end of what is written. -/
lemma lastWords_eq (p : Program) (words : Bytes) :
    ∃ errors, lastWords p words = { p with sink := p.sink.flush.1, errors } := by
  obtain ⟨errors, hlog⟩ := p.log_eq ⟨.error, .fatal, "fatal: " ++ Text.Utf8.decodeLossy words⟩
  simp only [lastWords, hlog]
  exact ⟨_, rfl⟩

/-- Last words let what has been printed go, and the process ends as its settings demand. -/
lemma abort_eq (words : Bytes) (p : Program) :
    ∃ q, (abort words p : EStateM.Result Ending Program α) =
        .error (.ofPolicy p.effective.abort) q ∧ q.sink = p.sink.flush.1 := by
  obtain ⟨errors, hlast⟩ := lastWords_eq p words
  have hsame : (lastWords p words).loadSettings.1 = p.effective := by
    rw [loadSettings_fst, hlast]
    rfl
  refine ⟨(lastWords p words).loadSettings.2, ?_, ?_⟩
  · rw [← hsame]
    rfl
  · rw [(silent_loadSettings _).sink, hlast]

/-! ## Actions that do not print -/

/-- The last words of a process that cannot go on without the value of a result. -/
def lastWords? : Except Fault α → Option Bytes
  | .ok _ => none
  | .error f => some f.words

/-- What an action comes to that does not print: it answers, or it reaches the fatal path with the
given last words. -/
inductive Quiet (p : Program) : Option Bytes → EStateM.Result Ending Program α → Prop
  | returned {a : α} {q : Program} (h : p.Reserved q) : Quiet p none (.ok a q)
  | fatal {words : Bytes} {q : Program} (h : p.Reserved q) : Quiet p (some words) (abort words q)

lemma bind_of_ok {act : Action α} {next : α → Action β} {a : α} (h : act p = .ok a q) :
    (act >>= next) p = next a q := by
  show EStateM.bind act next p = next a q
  rw [EStateM.bind, h]

lemma bind_of_error {act : Action α} {next : α → Action β} {e : Ending}
    (h : act p = .error e q) : (act >>= next) p = .error e q := by
  show EStateM.bind act next p = .error e q
  rw [EStateM.bind, h]

lemma bind_congr {act : Action α} {next : α → Action β} (h : act q = act p) :
    (act >>= next) q = (act >>= next) p := by
  show EStateM.bind act next q = EStateM.bind act next p
  rw [EStateM.bind, EStateM.bind, h]

lemma get_bind (next : Program → Action β) (p : Program) : (get >>= next) p = next p p := rfl

lemma Quiet.of_reserved {m : Option Bytes} {r : EStateM.Result Ending Program α} (hp : p.Reserved q)
    (h : Quiet q m r) : Quiet p m r := by
  cases h with
  | returned hq => exact .returned (hp.trans hq)
  | fatal hq => exact .fatal (hp.trans hq)

lemma Quiet.step {act : Action α} {next : α → Action β} {a : α} {m : Option Bytes}
    (h : act p = .ok a q) (hq : p.Reserved q) (hnext : Quiet q m (next a q)) :
    Quiet p m ((act >>= next) p) := by
  rw [bind_of_ok h]
  exact .of_reserved hq hnext

lemma quiet_get {next : Program → Action β} {m : Option Bytes} (h : Quiet p m (next p p)) :
    Quiet p m ((do next (← get)) p) := by
  have hget : (get : Action Program) p = .ok p p := rfl
  exact .step hget (.refl p) h

/-- What comes after the fatal path is never reached. -/
lemma Quiet.bind_fatal {act : Action α} {next : α → Action β} {words : Bytes}
    (h : Quiet p (some words) (act p)) : Quiet p (some words) ((act >>= next) p) := by
  generalize hr : act p = r at h
  cases h with
  | @fatal _ q hq =>
    rw [bind_of_error hr]
    exact .fatal hq

/-- What comes after an action and cannot fail does not change what it comes to. -/
lemma Quiet.andThen {act : Action α} {next : α → Action β} {m : Option Bytes}
    (h : Quiet p m (act p)) (hnext : ∀ a q, Quiet q none (next a q)) :
    Quiet p m ((act >>= next) p) := by
  cases m with
  | some words => exact h.bind_fatal
  | none =>
    generalize hr : act p = r at h
    cases h with
    | @returned a q hq => exact .step hr hq (hnext a q)

lemma Quiet.map {act : Action α} {m : Option Bytes} (h : Quiet p m (act p)) (f : α → β) :
    Quiet p m ((do return f (← act)) p) :=
  h.andThen fun _ q => .returned (.refl q)

lemma quiet_orAbort (r : Except Fault α) (p : Program) : Quiet p (lastWords? r) (orAbort r p) := by
  cases r with
  | error f => exact .fatal (.refl p)
  | ok a => exact .returned (.refl p)

/-! ## Arguments -/

lemma captured_eq (p : Program) : captured p = .ok p.knownArguments p := by
  unfold captured knownArguments
  show (match p.arguments with | some a => _ | none => _ : Action _) p = _
  cases p.arguments <;> rfl

lemma capture_eq (a : Arguments) (p : Program) :
    ∃ q, capture a p = .ok (p.captureResult a) q ∧ p.Reserved q := by
  unfold capture captureResult
  cases p.arguments with
  | some b => exact ⟨p, rfl, .refl p⟩
  | none =>
    have hset : p.SameDiagnostics { p with arguments := some a } := ⟨rfl, rfl, rfl, rfl, rfl⟩
    exact ⟨_, rfl, (hset.reserved rfl).trans (reserved_log _ (.inl rfl))⟩

lemma quiet_storeArguments (raw : RawArguments) (p : Program) :
    Quiet p (lastWords? (Arguments.ofRaw raw >>= p.captureResult)) (storeArguments raw p) := by
  have hstart : startLogging p = .ok () p.startLogging := rfl
  refine Quiet.step hstart p.reserved_startLogging ?_
  cases hraw : Arguments.ofRaw raw with
  | error f => exact (quiet_orAbort (.error f) _).bind_fatal
  | ok a =>
    have hread : orAbort (.ok a) p.startLogging = .ok a p.startLogging := rfl
    refine Quiet.step hread (.refl _) ?_
    obtain ⟨q, hq, hreserved⟩ := capture_eq a p.startLogging
    refine Quiet.step hq hreserved ?_
    -- setting logging up captures nothing
    have hsame : p.startLogging.captureResult a = p.captureResult a := by
      rw [captureResult, arguments_startLogging, captureResult]
    rw [hsame]
    exact (quiet_orAbort (p.captureResult a) q).map fun _ => ()

lemma quiet_argumentCount (p : Program) :
    Quiet p (lastWords? p.knownArguments) (argumentCount p) := by
  refine Quiet.step (captured_eq p) (.refl p) ?_
  exact (quiet_orAbort p.knownArguments p).map Arguments.count

lemma quiet_argument (n : Nat) (p : Program) :
    Quiet p (lastWords? (p.knownArguments >>= (·.get n))) (argument n p) := by
  refine Quiet.step (captured_eq p) (.refl p) ?_
  have hspan : lastWords? (p.knownArguments >>= (·.get n)) =
      lastWords? (p.knownArguments.bind (·.span n)) := by
    rcases p.knownArguments with f | a
    · rfl
    · show lastWords? (a.get n) = lastWords? (a.span n)
      unfold Arguments.span
      cases a.get n <;> rfl
  rw [hspan]
  exact quiet_orAbort _ p

/-! ## Memory -/

/-- Besides the heap only what has been said about it changes. -/
lemma changeHeap_apply (heap : Memory.Heap) (e : Memory.Event) (p : Program) :
    ∃ errors, changeHeap heap e p = .ok () { p with heap, errors } := by
  obtain ⟨errors, hlog⟩ := log_eq { p with heap } ⟨.trace, .blocks, e.describe⟩
  exact ⟨errors, congrArg (EStateM.Result.ok ()) hlog⟩

lemma changeHeap_eq (heap : Memory.Heap) (e : Memory.Event) (p : Program) :
    ∃ q, changeHeap heap e p = .ok () q ∧ p.Reserved q := by
  have hlog : Program.Reserved { p with heap }
      (log { p with heap } ⟨.trace, .blocks, e.describe⟩) := reserved_log _ (.inr rfl)
  exact ⟨_, rfl, ((p.sameDiagnostics_heap heap).reserved rfl).trans hlog⟩

lemma quiet_handOut (r : Except Fault (Memory.Block × Memory.Heap)) (p : Program) :
    Quiet p (lastWords? r) (handOut r p) := by
  rcases r with f | ⟨b, heap⟩
  · exact .fatal (.refl p)
  · obtain ⟨q, hq, hreserved⟩ := changeHeap_eq heap (.allocated b.length) p
    exact Quiet.step hq hreserved (.returned (.refl q))

lemma quiet_allocate (size count : UInt64) (p : Program) :
    Quiet p (lastWords? (p.heap.allocate count size)) (allocate size count p) :=
  quiet_get (quiet_handOut _ p)

lemma quiet_reallocate (x : Option Memory.Handle) (length : UInt64) (p : Program) :
    Quiet p
      (match x with
        | none => lastWords? (p.heap.zeroed length)
        | some x => lastWords? (p.heap.reallocate (p.heap.ofRaw x) length).1)
      (reallocate x length p) := by
  refine quiet_get ?_
  cases x with
  | none => exact quiet_handOut _ p
  | some x =>
    simp only
    rcases p.heap.reallocate (p.heap.ofRaw x) length with ⟨f | b, heap⟩
    · obtain ⟨q, hq, hreserved⟩ := changeHeap_eq heap (.freed (p.heap.ofRaw x).length) p
      exact Quiet.step hq hreserved (.fatal (.refl q))
    · obtain ⟨q, hq, hreserved⟩ :=
        changeHeap_eq heap (.reallocated (p.heap.ofRaw x).length length) p
      exact Quiet.step hq hreserved (.returned (.refl q))

lemma quiet_free (x : Option Memory.Handle) (p : Program) : Quiet p none (free x p) := by
  cases x with
  | none => exact .returned (.refl p)
  | some x =>
    obtain ⟨q, hq, hreserved⟩ := changeHeap_eq (p.heap.free (p.heap.ofRaw x))
      (.freed (p.heap.ofRaw x).length) p
    refine quiet_get ?_
    rw [hq]
    exact .returned hreserved

lemma quiet_transfer (t : Transfer) (dest source : Option Memory.Location) {count : UInt64}
    (hcount : count ≠ 0) (p : Program) :
    Quiet p ((t.nullFault? dest source).map Fault.words) (transfer t dest source count p) := by
  unfold transfer
  rw [if_neg hcount]
  rcases dest with _ | d
  · exact .fatal (.refl p)
  rcases source with _ | s
  · exact .fatal (.refl p)
  · exact .returned ((p.sameDiagnostics_heap (t.apply p.heap d s count)).reserved rfl)

lemma quiet_counters (room : Bool) (p : Program) :
    Quiet p (if room then none else some (Fault.nullPointer "memory stats output").words)
      (counters room p) := by
  cases room with
  | true => exact .returned (.refl p)
  | false => exact .fatal (.refl p)

/-! ## Printing -/

/-- After printing, standard output has changed; and a warning has been logged if that has failed.
-/
structure Printed (bs : Bytes) (p q : Program) : Prop where
  platform : q.platform = p.platform
  effective : q.effective = p.effective
  sink : q.sink = (p.sink.print bs).1
  diagnostics : p.SameDiagnostics q ∨ ∃ reason r, p.sink.device = .broken reason ∧
    p.SameDiagnostics r ∧ q = r.log (printingFailed reason)

lemma print_eq (bs : Bytes) (p : Program) : ∃ q, print bs p = .ok () q ∧ Printed bs p q := by
  unfold print
  have hof := p.sink.of_print bs
  rcases hprint : p.sink.print bs with ⟨sink, failure⟩
  rw [hprint] at hof
  have hsame : p.SameDiagnostics { p with sink } := ⟨rfl, rfl, rfl, rfl, rfl⟩
  cases failure with
  | none => exact ⟨_, rfl, rfl, rfl, by rw [hprint], .inl hsame⟩
  | some reason =>
    obtain ⟨errors, hlog⟩ := log_eq { p with sink } (printingFailed reason)
    refine ⟨log { p with sink } (printingFailed reason), rfl, ?_, ?_, ?_,
      .inr ⟨reason, _, hof.reason_eq reason rfl, hsame, rfl⟩⟩
    · rw [hlog]
    · rw [hlog]
      rfl
    · rw [hlog, hprint]

/-- A device that works takes what is printed at once. -/
lemma print_of_working {printed : Bytes} (hp : p.sink = ⟨.working, [], printed⟩) (bs : Bytes) :
    print bs p = .ok () { p with sink := ⟨.working, [], printed ++ bs⟩ } := by
  rw [print, hp, Sink.print_working]

/-- Prints a result, or reaches the fatal path if there is none. -/
def printOrAbort : Except Bytes Bytes → Action Unit
  | .ok out => print out
  | .error words => abort words

/-- A format that is accepted is printed, whole. -/
lemma printFormatted_of_ok {fmt out : Bytes} {args : List Format.Argument}
    (h : format fmt args = .ok out) :
    printFormatted fmt args = do
      print out
      return .ok out.length := by
  rw [printFormatted, Format.format_eq_ok_iff.1 h]

/-- Nothing is printed of a format that is refused, not even what precedes its fault. -/
lemma printFormatted_of_error {fmt : Bytes} {args : List Format.Argument} {f : Format.Failure}
    (h : format fmt args = .error f) : printFormatted fmt args = pure (.error f) := by
  unfold format at h
  rcases hrun : formatInto [] fmt args with ⟨out, f' | n⟩
  · obtain rfl : f' = f := by simpa [hrun] using h
    rw [printFormatted, hrun]
  · simp [hrun] at h

/-- Once its arguments are decoded, a call prints what the format comes to with them. -/
lemma printArguments_of_decoded {fmt : Bytes} {args : Option (List Format.RawArgument)}
    {count : UInt64} {decoded : List Format.Argument} (h : (args.isNone && count > 0) = false)
    (hdecoded : Format.RawArgument.decodeAll 0 ((args.getD []).take count.toNat) = .ok decoded) :
    printArguments (some fmt) args count =
      match format (untilNul fmt) decoded with
      | .ok out => print out
      | .error f => abort f.words := by
  rw [printArguments]
  simp only [h, hdecoded, orAbort, pure_bind]
  cases hformat : format (untilNul fmt) decoded with
  | ok out =>
    rw [printFormatted_of_ok hformat]
    simp
  | error f =>
    rw [printFormatted_of_error hformat]
    cases f <;> rfl

end Action

end RuntimeSupport
