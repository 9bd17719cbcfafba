import RuntimeSupport.Proofs.Program.Congruence
import RuntimeSupport.Proofs.Program.Run

/-!
# Failures at the boundary

A call of a compiled program has no way to report a failure.  It carries out an operation of the
library, `Call.operation`, which tells how it has gone; the call returns the value and ends the
process on a failure, and does nothing else (`Call.perform_eq_collapse`).

As long as nothing is logged, standard error shows nothing but last words; `Program.Muted` says when
that is, and that no step changes it.  The main statement is `calls_collapse`.
-/

namespace RuntimeSupport

/-! ## Processes that log nothing -/

/-- The filter that the environment sets lets nothing through. -/
def Environment.Muted (env : Environment) (logger : Log.Logger) : Prop :=
  logger.Sets ((env.lookup .log).getD Program.defaultFilter) none

/-- Nothing is logged unless the environment asks for it, if the logger can be turned off. -/
lemma Environment.muted_of_off {env : Environment} {logger : Log.Logger}
    (hlogger : logger.Sets "off" none)
    (h : env.lookup .log = none ∨ env.lookup .log = some "off") : env.Muted logger := by
  have htext : (env.lookup .log).getD Program.defaultFilter = "off" := by
    rcases h with h | h
    · rw [h]
      rfl
    · rw [h]
      rfl
  rw [Muted, htext]
  exact hlogger

namespace Program

variable {p q : Program} {platform : Platform} {env : Environment} {args : List Bytes}
  {device : Device}

/-- A process that logs nothing, now or after its logging has been set up. -/
structure Muted (p : Program) : Prop where
  environment : p.environment.Muted p.platform.logger
  filter : ∀ admits, p.filter = some admits → ∀ r, admits r = false

lemma muted_start (h : env.Muted platform.logger) :
    (start platform env args device).Muted := ⟨h, nofun⟩

lemma Muted.log (h : p.Muted) (r : Log.Record) : p.log r = p := by
  unfold Program.log
  split
  · next f hf => rw [h.filter f hf r, if_neg Bool.false_ne_true]
  · rfl

lemma Muted.foldl_log (h : p.Muted) (rs : List Log.Record) : rs.foldl Program.log p = p := by
  induction rs with
  | nil => rfl
  | cons r rs ih => rw [List.foldl_cons, h.log, ih]

lemma Muted.loadSettings (h : p.Muted) :
    p.loadSettings = (p.effective, { p with settings := some p.effective }) := by
  unfold Program.loadSettings effective
  cases hs : p.settings with
  | some s =>
    have hsame : p = { p with settings := some s } := by rw [← hs]
    exact Prod.ext rfl hsame
  | none =>
    simp only [h.foldl_log]
    rfl

lemma Muted.set_filter (h : p.Muted) : Muted { p with filter := some p.readFilter.1 } := by
  refine ⟨h.environment, fun admits hadmits => ?_⟩
  cases hadmits
  exact h.environment.admits

lemma Muted.startLogging (h : p.Muted) :
    ∃ filter, p.startLogging = { p with filter, settings := some p.effective } ∧
      p.startLogging.Muted := by
  have hread : p.readFilter.2 = [] := h.environment.complaints
  have hreport : p.report p.readFilter.2 = p := by
    rw [hread, report, List.append_nil]
  rw [startLogging_def]
  simp only [hreport]
  cases hf : p.filter with
  | some f =>
    simp only [h.loadSettings]
    exact ⟨p.filter, rfl, h.environment, h.filter⟩
  | none =>
    have hset : Muted { p with filter := some p.readFilter.1 } := h.set_filter
    simp only [hset.log, hset.loadSettings]
    exact ⟨_, rfl, h.environment, hset.filter⟩

/-! ## Last words -/

/-- Apart from what is printed, last words are all that a muted process writes when it ends. -/
lemma Muted.abort {α : Type} (h : p.Muted) (words : Bytes) :
    (Action.abort words p : EStateM.Result Ending Program α) =
      .error (.ofPolicy p.effective.abort) { p with
        sink := p.sink.flush.1
        errors := p.errors ++ (words ++ [Sink.newline])
        settings := some p.effective } := by
  have hlast : Action.lastWords p words = { p with
      sink := p.sink.flush.1, errors := p.errors ++ (words ++ [Sink.newline]) } := by
    unfold Action.lastWords
    rw [h.log]
    rfl
  have hmuted : (Action.lastWords p words).Muted := by
    rw [hlast]
    exact ⟨h.environment, h.filter⟩
  unfold Action.abort
  rw [hmuted.loadSettings, hlast]
  rfl

lemma Muted.print (h : p.Muted) (bs : Bytes) :
    Action.print bs p = .ok () { p with sink := (p.sink.print bs).1 } := by
  have hmuted : Muted { p with sink := (p.sink.print bs).1 } := ⟨h.environment, h.filter⟩
  rw [Action.print]
  simp only [hmuted.log]
  split <;> rfl

/-! ## Every step leaves a process muted -/

/-- One and the same muted process. -/
def SameMuted (p q : Program) : Prop := q = p ∧ p.Muted

lemma stable_sameMuted : Stable SameMuted where
  same := by
    rintro p q ⟨rfl, -⟩
    exact ⟨q.sink, q.errors, rfl⟩
  log := by
    rintro p q ⟨rfl, h⟩ r -
    rw [h.log]
    exact ⟨rfl, h⟩
  settings := by
    rintro p q ⟨rfl, h⟩ s
    exact ⟨rfl, h.environment, h.filter⟩

lemma congruence_sameMuted : Congruence SameMuted SameMuted where
  stable := stable_sameMuted
  ended := stable_sameMuted
  weaken h := h
  lastWords := by
    rintro p q ⟨rfl, h⟩ words
    unfold Action.lastWords
    rw [h.log]
    exact ⟨rfl, h.environment, h.filter⟩
  print := by
    rintro p q ⟨rfl, h⟩ bs
    rw [h.print]
    exact .answered () ⟨rfl, h.environment, h.filter⟩
  complaints := by
    rintro p q ⟨rfl, h⟩
    exact ⟨rfl, h.environment, h.filter⟩
  filter := by
    rintro p q ⟨rfl, h⟩
    exact ⟨rfl, h.set_filter⟩
  heap := by
    rintro p q ⟨rfl, h⟩ heap
    exact ⟨rfl, h.environment, h.filter⟩
  pointers := by
    rintro p q ⟨rfl, h⟩ pointers
    exact ⟨rfl, h.environment, h.filter⟩

lemma Muted.perform {s : Step} {a : Answer} (h : p.Muted) (hs : s.perform p = .ok a q) :
    q.Muted := by
  have hcapture : ∀ (system : List Bytes) (a : Arguments), s.offered? system = some a →
      ∀ {p q}, SameMuted p q →
        SameMuted { p with arguments := some a } { q with arguments := some a } := by
    rintro - a - p q ⟨rfl, h⟩
    exact ⟨rfl, h.environment, h.filter⟩
  have halike := perform_respects congruence_sameMuted s hcapture (p := p) (q := p) ⟨rfl, h⟩
  rw [hs] at halike
  cases halike with
  | answered _ hq => exact hq.2

lemma muted_after? {steps : List Step} (h : env.Muted platform.logger)
    (hrun : (start platform env args device).after? steps = some p) : p.Muted :=
  after?_preserves (P := Muted) Muted.perform (muted_start h) hrun

end Program

/-! ## Calls and their operations -/

/-- Why an operation of the library does not give its value. -/
inductive Failure
  /-- It is refused. -/
  | fault (f : Fault)
  /-- It panics. -/
  | panic (p : Format.Panic)

namespace Failure

/-- What is written about a failure before it ends the process. -/
def words : Failure → Bytes
  | fault f => Text.Utf8.encode f.message
  | panic p => Text.Utf8.encode ("internal runtime panic: " ++ p.text)

/-- Formatting fails with a fault, or it panics. -/
def ofFormat : Format.Failure → Failure
  | .error e => .fault (.format e)
  | .panic p => .panic p

lemma words_ofFormat (f : Format.Failure) : (ofFormat f).words = f.words := by
  cases f <;> rfl

end Failure

/-- A call of a compiled program that fails as its operation does. -/
inductive Call
  /-- The address of an element. -/
  | index (v : View) (index elemSize : UInt64)
  /-- Captures arguments. -/
  | storeArguments (raw : RawArguments)
  /-- The number of captured arguments. -/
  | argumentCount
  /-- A captured argument. -/
  | argument (n : Nat)
  /-- Prints an array. -/
  | printArray (a : PassedArray)
  /-- The counters of the heap. -/
  | counters (room : Bool)
  /-- Prints the rendering of a format. -/
  | printArguments (fmt : Option Bytes) (args : Option (List Format.RawArgument)) (count : UInt64)

namespace Call

open Program

/-- What a call returns. -/
def Value : Call → Type
  | index .. => UInt64
  | argumentCount => Nat
  | argument _ => Span
  | counters _ => Memory.Counters
  | storeArguments _ | printArray _ | printArguments .. => Unit

/-- What a call does. -/
def perform : (c : Call) → Action c.Value
  | index v i elemSize => Action.index v i elemSize
  | storeArguments raw => Action.storeArguments raw
  | argumentCount => Action.argumentCount
  | argument n => Action.argument n
  | printArray a => Action.printArray a
  | counters room => Action.counters room
  | printArguments fmt args count => Action.printArguments fmt args count

/-- An operation that does nothing but tell a result. -/
def tell {α : Type} (r : Except Fault α) : Action (Except Failure α) :=
  return r.mapError Failure.fault

/-- Prints a rendering, unless there is none. -/
def printRendering (fmt : Bytes) (args : List Format.Argument) : Action (Except Failure Unit) := do
  match ← Action.printFormatted fmt args with
  | .ok _ => return .ok ()
  | .error f => return .error (.ofFormat f)

/-- The operation of the library that a call carries out.  It tells its failure. -/
def operation : (c : Call) → Action (Except Failure c.Value)
  | index v i elemSize => tell (v.index i elemSize)
  | storeArguments raw => do
    Action.startLogging
    match Arguments.ofRaw raw with
    | .error f => tell (.error f)
    | .ok a => tell ((← Action.capture a).map fun _ => ())
  | argumentCount => do tell ((← Action.captured).map Arguments.count)
  | argument n => do tell ((← Action.captured).bind (·.span n))
  | printArray a =>
    if a.unreadable then tell (.error (.nullPointer "print array"))
    else do
      Action.print a.bytes
      tell (.ok ())
  | counters room => do
    if room then tell (.ok (← get).heap.counters)
    else tell (.error (.nullPointer "memory stats output"))
  | printArguments none _ _ => tell (.error (.nullPointer "format"))
  | printArguments (some fmt) args count =>
    if args.isNone && count > 0 then tell (.error (.nullPointer "format arguments"))
    else
      match Format.RawArgument.decodeAll 0 ((args.getD []).take count.toNat) with
      | .error f => tell (.error f)
      | .ok decoded => printRendering (untilNul fmt) decoded

/-- Carries out an operation and ends the process if it fails. -/
def collapse {α : Type} (op : Action (Except Failure α)) : Action α := do
  match ← op with
  | .ok a => return a
  | .error f => Action.abort f.words

variable {α : Type} {p q : Program}

lemma collapse_tell (r : Except Fault α) : collapse (tell r) = Action.orAbort r := by
  cases r <;> rfl

lemma collapse_bind {β : Type} (act : Action β) (next : β → Action (Except Failure α)) :
    collapse (act >>= next) = act >>= fun b => collapse (next b) :=
  bind_assoc act next _

lemma collapse_printRendering (fmt : Bytes) (args : List Format.Argument) :
    collapse (printRendering fmt args) =
      match format fmt args with
      | .ok out => Action.print out
      | .error f => Action.abort f.words := by
  unfold printRendering
  rw [collapse_bind]
  cases hformat : format fmt args with
  | ok out =>
    rw [Action.printFormatted_of_ok hformat, bind_assoc]
    rfl
  | error f =>
    have hwords := Failure.words_ofFormat f
    rw [Action.printFormatted_of_error hformat, pure_bind]
    simp only
    rw [← hwords]
    rfl

lemma collapse_ite {c : Prop} [Decidable c] (op op' : Action (Except Failure α)) :
    collapse (if c then op else op') = if c then collapse op else collapse op' := by
  split <;> rfl

lemma storeArguments_eq_collapse (raw : RawArguments) :
    (storeArguments raw).perform = collapse (storeArguments raw).operation := by
  rw [operation, collapse_bind]
  show Action.startLogging >>= (fun _ => _) = _
  refine congrArg (Action.startLogging >>= ·) (funext fun _ => ?_)
  cases hraw : Arguments.ofRaw raw with
  | error f => exact (collapse_tell (.error f)).symm
  | ok a =>
    rw [Action.orAbort, pure_bind]
    simp only
    rw [collapse_bind]
    refine congrArg (Action.capture a >>= ·) (funext fun r => ?_)
    rw [collapse_tell]
    cases r <;> rfl

lemma argumentCount_eq_collapse : argumentCount.perform = collapse argumentCount.operation := by
  rw [operation, collapse_bind]
  show Action.captured >>= (fun _ => _) = _
  refine congrArg (Action.captured >>= ·) (funext fun r => ?_)
  rw [collapse_tell]
  cases r <;> rfl

lemma argument_eq_collapse (n : Nat) :
    (argument n).perform = collapse (argument n).operation := by
  rw [operation, collapse_bind]
  show Action.captured >>= (fun _ => _) = _
  exact congrArg (Action.captured >>= ·) (funext fun r => (collapse_tell _).symm)

lemma printArray_eq_collapse (a : PassedArray) :
    (printArray a).perform = collapse (printArray a).operation := by
  rw [operation, collapse_ite, collapse_tell, collapse_bind]
  rfl

lemma counters_eq_collapse (room : Bool) :
    (counters room).perform = collapse (counters room).operation := by
  cases room <;> rfl

lemma printArguments_eq_collapse (fmt : Option Bytes) (args : Option (List Format.RawArgument))
    (count : UInt64) :
    (printArguments fmt args count).perform =
      collapse (printArguments fmt args count).operation := by
  cases fmt with
  | none => exact (collapse_tell (.error (.nullPointer "format"))).symm
  | some fmt =>
    cases hargs : args.isNone && count > 0 with
    | true =>
      rw [perform, Action.printArguments, operation]
      simp only [hargs, if_true]
      rfl
    | false =>
      rw [operation]
      simp only [hargs, Bool.false_eq_true, if_false]
      cases hdecoded : Format.RawArgument.decodeAll 0 ((args.getD []).take count.toNat) with
      | error f =>
        rw [perform, Action.printArguments]
        simp only [hargs, hdecoded]
        rfl
      | ok decoded =>
        have hcall : (printArguments (some fmt) args count).perform = _ :=
          Action.printArguments_of_decoded hargs hdecoded
        exact hcall.trans (collapse_printRendering _ _).symm

/-- A call is its operation, with the end of the process for a failure. -/
theorem perform_eq_collapse (c : Call) : c.perform = collapse c.operation := by
  cases c with
  | index v i elemSize => exact (collapse_tell _).symm
  | storeArguments raw => exact storeArguments_eq_collapse raw
  | argumentCount => exact argumentCount_eq_collapse
  | argument n => exact argument_eq_collapse n
  | printArray a => exact printArray_eq_collapse a
  | counters room => exact counters_eq_collapse room
  | printArguments fmt args count => exact printArguments_eq_collapse fmt args count

end Call

/-! ## Operations write nothing to standard error -/

/-- An action comes back, and a muted process stays as it is but for what the action is for: the
settings that it goes by and what has been written to standard error do not change. -/
def Action.Discreet {β : Type} (act : Action β) : Prop :=
  ∀ p : Program, p.Muted → ∃ b q, act p = .ok b q ∧
    q.Muted ∧ q.effective = p.effective ∧ q.errors = p.errors

namespace Action

variable {α β : Type} {act : Action α} {next : α → Action β}

lemma discreet_pure (a : α) : (pure a : Action α).Discreet :=
  fun p h => ⟨a, p, rfl, h, rfl, rfl⟩

lemma Discreet.bind (hact : act.Discreet) (hnext : ∀ a, (next a).Discreet) :
    (act >>= next).Discreet := by
  intro p hp
  obtain ⟨a, q, ha, hq, heffective, herrors⟩ := hact p hp
  obtain ⟨b, r, hb, hr, heffective', herrors'⟩ := hnext a q hq
  refine ⟨b, r, ?_, hr, heffective'.trans heffective, herrors'.trans herrors⟩
  rw [bind_of_ok ha, hb]

lemma discreet_startLogging : startLogging.Discreet := by
  intro p hp
  obtain ⟨filter, hstart, hmuted⟩ := hp.startLogging
  refine ⟨(), p.startLogging, rfl, hmuted, ?_, ?_⟩
  · rw [hstart]
    rfl
  · rw [hstart]

lemma discreet_captured : captured.Discreet :=
  fun p hp => ⟨_, p, captured_eq p, hp, rfl, rfl⟩

lemma discreet_capture (a : Arguments) : (capture a).Discreet := by
  intro p hp
  unfold capture
  cases p.arguments with
  | some b => exact ⟨_, p, rfl, hp, rfl, rfl⟩
  | none =>
    have hset : Program.Muted { p with arguments := some a } := ⟨hp.environment, hp.filter⟩
    simp only [hset.log]
    exact ⟨_, _, rfl, hset, rfl, rfl⟩

lemma discreet_print (bs : Bytes) : (print bs).Discreet :=
  fun _ hp => ⟨(), _, hp.print bs, ⟨hp.environment, hp.filter⟩, rfl, rfl⟩

lemma discreet_printFormatted (fmt : Bytes) (args : List Format.Argument) :
    (printFormatted fmt args).Discreet := by
  unfold printFormatted
  split
  · exact (discreet_print _).bind fun _ => discreet_pure _
  · exact discreet_pure _

end Action

namespace Call

open RuntimeSupport.Action

/-- Every operation comes back, with its value or its failure, and writes nothing to standard error.
-/
lemma discreet_operation (c : Call) : c.operation.Discreet := by
  cases c with
  | index v i elemSize => exact discreet_pure _
  | storeArguments raw =>
    refine discreet_startLogging.bind fun _ => ?_
    cases Arguments.ofRaw raw with
    | error f => exact discreet_pure _
    | ok a => exact (discreet_capture a).bind fun _ => discreet_pure _
  | argumentCount => exact discreet_captured.bind fun _ => discreet_pure _
  | argument n => exact discreet_captured.bind fun _ => discreet_pure _
  | printArray a =>
    rw [operation]
    split
    · exact discreet_pure _
    · exact (discreet_print _).bind fun _ => discreet_pure _
  | counters room =>
    cases room with
    | true => exact fun _ hp => ⟨_, _, rfl, hp, rfl, rfl⟩
    | false => exact discreet_pure _
  | printArguments fmt args count =>
    cases fmt with
    | none => exact discreet_pure _
    | some fmt =>
      rw [operation]
      split
      · exact discreet_pure _
      · split
        · exact discreet_pure _
        · refine (discreet_printFormatted _ _).bind fun r => ?_
          cases r <;> exact discreet_pure _

end Call

open Program

/-- A process ends with given last words, as its settings demand: nothing else is written to
standard error, and nothing is returned. -/
def EndsWith {α : Type} (act : Action α) (p : Program) (policy : AbortPolicy) (words : Bytes) :
    Prop :=
  ∃ q, act p = .error (.ofPolicy policy) q ∧ q.errors = p.errors ++ (words ++ [Sink.newline])

lemma endsWith_abort {α : Type} {p : Program} (h : p.Muted) (words : Bytes) :
    EndsWith (Action.abort words : Action α) p p.effective.abort words :=
  ⟨_, h.abort words, rfl⟩

lemma endsWith_collapse {c : Call} {p q : Program} {f : Failure} (hq : q.Muted)
    (heffective : q.effective = p.effective) (herrors : q.errors = p.errors)
    (h : c.operation p = .ok (.error f) q) : EndsWith c.perform p p.effective.abort f.words := by
  obtain ⟨r, habort, hlast⟩ := endsWith_abort (α := c.Value) hq f.words
  refine ⟨r, ?_, ?_⟩
  · rw [Call.perform_eq_collapse, Call.collapse, Action.bind_of_ok h, ← heffective]
    exact habort
  · rw [hlast, herrors]

/-- In every state that a process without logging can reach, a call returns the value of its
operation and writes nothing to standard error, or the operation fails and the process ends with the
message of the failure.  A panic ends it the same way, and so does a readable array that it is told
to end with, whatever bytes are in it. -/
theorem calls_collapse {platform : Platform} {env : Environment} (hoff : env.Muted platform.logger)
    {args : List Bytes} {device : Device} {steps : List Step} {p : Program}
    (hrun : (start platform env args device).after? steps = some p) :
    let policy := (Settings.loadLenient env.lookup).1.abort
    (∀ c : Call,
      (∃ a q, c.operation p = .ok (.ok a) q ∧ c.perform p = .ok a q ∧ q.errors = p.errors) ∨
      ∃ f q, c.operation p = .ok (.error f) q ∧ EndsWith c.perform p policy f.words) ∧
    (∀ (α : Type) (c : Format.Panic), EndsWith (Action.abortOnPanic c : Action α) p policy
      (Text.Utf8.encode ("internal runtime panic: " ++ c.text))) ∧
    ∀ (α : Type) (a : PassedArray), a.unreadable = false →
      EndsWith (Action.abortArray a : Action α) p policy a.bytes := by
  intro policy
  have hp : p.Muted := muted_after? hoff hrun
  have hpolicy : p.effective.abort = policy := by
    rw [effective_after? hrun]
    rfl
  rw [← hpolicy]
  refine ⟨fun c => ?_, fun α c => endsWith_abort hp _, fun α a ha => ?_⟩
  · obtain ⟨r, q, hoperation, hq, heffective, herrors⟩ := c.discreet_operation p hp
    cases r with
    | ok a =>
      refine .inl ⟨a, q, hoperation, ?_, herrors⟩
      rw [Call.perform_eq_collapse, Call.collapse, Action.bind_of_ok hoperation]
      rfl
    | error f => exact .inr ⟨f, q, hoperation, endsWith_collapse hq heffective herrors hoperation⟩
  · rw [Action.abortArray, ha]
    exact endsWith_abort hp a.bytes

/-- After something has been printed: an argument that was never captured, and last words that no
text can hold. -/
theorem calls_collapse_uncaptured :
    ∃ p, (start .standard .empty [] .working).after? [.print [0x41]] = some p ∧
      EndsWith (Call.argument 0).perform p (.exit 1)
        (Text.Utf8.encode "command-line arguments queried before capture") ∧
      EndsWith (Action.abortArray ⟨⟨8, 4⟩, [0x25, 0x73, 0, 0xff]⟩ : Action Unit) p (.exit 1)
        [0x25, 0x73, 0, 0xff] := by
  have hoff : Environment.empty.Muted Platform.standard.logger :=
    Environment.muted_of_off Log.Logger.sets_standard_off (.inl rfl)
  have hpolicy : (Settings.loadLenient Environment.empty.lookup).1.abort = .exit 1 := rfl
  have hrun : (start .standard .empty [] .working).after? [.print [0x41]] = some _ := rfl
  refine ⟨_, hrun, ?_⟩
  obtain ⟨hcalls, -, hview⟩ := calls_collapse hoff hrun
  rw [hpolicy] at hcalls hview
  refine ⟨?_, hview Unit ⟨⟨8, 4⟩, [0x25, 0x73, 0, 0xff]⟩ rfl⟩
  rcases hcalls (.argument 0) with ⟨_, _, hvalue, -⟩ | ⟨f, _, hfails, hends⟩
  · cases hvalue
  · cases hfails
    exact hends

end RuntimeSupport
