import RuntimeSupport.Proofs.Program.Congruence
import RuntimeSupport.Proofs.Program.Run

/-!
# Arguments are captured once

Three steps offer arguments to capture, `Step.offered?`; all others keep the arguments that the
process has (`Action.Keeps`), which is an instance of what no step breaks.  So a step captures what
it offers if nothing has been captured before (`perform_arguments`), and after some steps the
process has what the first of them offered (`arguments_after?`).

The main statement is `arguments_captured_once`: it says what becomes of each capture and each query
after any steps.
-/

namespace RuntimeSupport

/-- Two states have the same arguments, those that are captured and those of the system. -/
structure Program.SameArguments (p q : Program) : Prop where
  arguments : q.arguments = p.arguments
  systemArguments : q.systemArguments = p.systemArguments

lemma Program.SameArguments.trans {p q r : Program} (h : p.SameArguments q)
    (h' : q.SameArguments r) : p.SameArguments r :=
  ⟨h'.arguments.trans h.arguments, h'.systemArguments.trans h.systemArguments⟩

namespace Action

open Program

variable {α : Type} {act : Action α} {p q : Program}

/-- An action captures nothing, whatever else it does. -/
def Keeps (act : Action α) : Prop := ∀ p : Program, p.SameArguments (act.final p)

end Action

namespace Program

open RuntimeSupport.Action Memory

variable {p q : Program} {a : Arguments} {f : Fault} {steps rest : List Step}

/-! ## Steps that offer nothing -/

lemma sameArguments_log (p : Program) (r : Log.Record) : p.SameArguments (p.log r) := by
  obtain ⟨errors, hlog⟩ := p.log_eq r
  rw [hlog]
  exact ⟨rfl, rfl⟩

lemma sameArguments_startLogging (p : Program) : p.SameArguments p.startLogging := by
  obtain ⟨errors, filter, hstart⟩ := p.startLogging_eq
  obtain ⟨errors', hload⟩ := loadSettings_snd { p with errors, filter }
  rw [hstart, hload]
  exact ⟨rfl, rfl⟩

lemma inward_sameArguments (before : Program) : Inward before.SameArguments :=
  fun _ _ _ _ _ h => ⟨h.arguments, h.systemArguments⟩

/-- Nothing but a capture changes the arguments. -/
lemma congruence_sameArguments (before : Program) :
    Congruence (Itself before.SameArguments) (Itself before.SameArguments) where
  toOuterCongruence := (inward_sameArguments before).outerCongruence
  heap := by
    rintro p q ⟨rfl, h⟩ heap
    exact ⟨rfl, h.arguments, h.systemArguments⟩
  pointers := by
    rintro p q ⟨rfl, h⟩ pointers
    exact ⟨rfl, h.arguments, h.systemArguments⟩

lemma keeps_of_respects {α : Type} {act : Action α}
    (h : ∀ before : Program,
      act.Respects (Itself before.SameArguments) (Itself before.SameArguments)) : act.Keeps :=
  fun p => final_of_respects (h p) ⟨rfl, rfl⟩

lemma keeps_abort {α : Type} (words : Bytes) : Keeps (abort words : Action α) :=
  keeps_of_respects fun before => respects_abort (inward_sameArguments before).outerCongruence words

/-- What a step offers does not depend on what the process was started with, unless it offers
just that. -/
lemma offered?_eq_none {s : Step} {system system' : List Bytes} (h : s.offered? system = none) :
    s.offered? system' = none := by
  cases s with
  | captureSystem => cases h
  | _ => exact h

/-- A step that offers nothing captures nothing. -/
lemma perform_keeps (s : Step) (system : List Bytes) (h : s.offered? system = none) :
    s.perform.Keeps := by
  refine keeps_of_respects fun before => perform_respects (congruence_sameArguments before) s ?_
  intro system' a ha
  rw [offered?_eq_none h] at ha
  cases ha

/-! ## Captures -/

/-- A step captures arguments, and says so. -/
inductive Step.Captures (s : Step) (p : Program) (a : Arguments) : Prop
  | answered {q : Program} (h : s.perform p = .ok (.arguments a) q)
      (hq : SameArguments { p with arguments := some a } q)
  | done {q : Program} (h : s.perform p = .ok .done q)
      (hq : SameArguments { p with arguments := some a } q)

/-- A step fails with a fault, which it answers or with which it ends the process.  It has changed
nothing before, though it may have set logging up. -/
inductive Step.Fails (s : Step) (p : Program) (f : Fault) : Prop
  | answered (h : s.perform p = .ok (.fault f) p)
  | fatal (h : s.perform p = Action.abortWith f p)
  | fatalAfterLogging (h : s.perform p = Action.abortWith f p.startLogging)

lemma Step.Captures.final_eq {s : Step} (h : s.Captures p a) :
    SameArguments { p with arguments := some a } (s.perform.final p) := by
  cases h with
  | answered h hq => rwa [final_of_ok h]
  | done h hq => rwa [final_of_ok h]

lemma Step.Fails.final_eq {s : Step} (h : s.Fails p f) : p.SameArguments (s.perform.final p) := by
  cases h with
  | answered h =>
    rw [final_of_ok h]
    exact ⟨rfl, rfl⟩
  | fatal h =>
    rw [final, h]
    exact keeps_abort (α := Answer) _ p
  | fatalAfterLogging h =>
    rw [final, h]
    exact (sameArguments_startLogging p).trans (keeps_abort (α := Answer) _ p.startLogging)

lemma capture_of_none (a : Arguments) (hp : p.arguments = none) :
    ∃ q, Action.capture a p = .ok (.ok a) q ∧ SameArguments { p with arguments := some a } q := by
  rw [Action.capture, hp]
  exact ⟨_, rfl, sameArguments_log _ _⟩

lemma capture_of_some (a : Arguments) {b : Arguments} (hp : p.arguments = some b) :
    Action.capture a p = .ok (.error .argumentsAlreadyCaptured) p := by
  rw [Action.capture, hp]

lemma storeArguments_eq {raw : RawArguments} (hraw : Arguments.ofRaw raw = .ok a) (p : Program) :
    (Step.storeArguments raw).perform p =
      (do let _ ← Action.orAbort (← Action.capture a); return Answer.done : Action Answer)
        p.startLogging := by
  rw [Step.perform, Action.storeArguments, hraw]
  simp only [orAbort, pure_bind, bind_assoc]
  rfl

/-- A step that offers arguments captures them if there are none yet. -/
lemma captures_of_offered {s : Step} (hs : s.offered? p.systemArguments = some a)
    (hp : p.arguments = none) : s.Captures p a := by
  cases s with
  | capture args =>
    cases hs
    obtain ⟨q, hcapture, hq⟩ := capture_of_none ⟨args⟩ hp
    exact .answered (bind_of_ok hcapture) hq
  | captureSystem =>
    cases hs
    obtain ⟨q, hcapture, hq⟩ := capture_of_none ⟨p.systemArguments⟩ hp
    exact .answered (bind_of_ok hcapture) hq
  | storeArguments raw =>
    cases hraw : Arguments.ofRaw raw with
    | error f => simp [Step.offered?, hraw, Except.toOption] at hs
    | ok b =>
      obtain rfl : b = a := by simpa [Step.offered?, hraw, Except.toOption] using hs
      have hlogging := sameArguments_startLogging p
      obtain ⟨q, hcapture, hq⟩ := capture_of_none b (hlogging.arguments.trans hp)
      refine .done (q := q) ?_ ⟨hq.arguments, hq.systemArguments.trans hlogging.systemArguments⟩
      rw [storeArguments_eq hraw, bind_of_ok hcapture]
      rfl
  | _ => cases hs

/-- A step that offers arguments fails if there are some already. -/
lemma fails_of_offered {s : Step} {b : Arguments} (hs : s.offered? p.systemArguments = some a)
    (hp : p.arguments = some b) : s.Fails p .argumentsAlreadyCaptured := by
  cases s with
  | capture args => exact .answered (bind_of_ok (capture_of_some ⟨args⟩ hp))
  | captureSystem => exact .answered (bind_of_ok (capture_of_some ⟨p.systemArguments⟩ hp))
  | storeArguments raw =>
    cases hraw : Arguments.ofRaw raw with
    | error f => simp [Step.offered?, hraw, Except.toOption] at hs
    | ok c =>
      have hsome : p.startLogging.arguments = some b := (arguments_startLogging p).trans hp
      refine .fatalAfterLogging ?_
      rw [storeArguments_eq hraw, bind_of_ok (capture_of_some c hsome)]
      rfl
  | _ => cases hs

/-- A vector that does not keep what its count promises is refused for what is wrong with it. -/
lemma fails_of_malformed {raw : RawArguments} (hraw : Arguments.ofRaw raw = .error f)
    (p : Program) : (Step.storeArguments raw).Fails p f := by
  refine .fatalAfterLogging ?_
  rw [Step.perform, Action.storeArguments, hraw]
  rfl

/-! ## Queries -/

/-- A step that asks for what has been captured. -/
def Step.IsQuery : Step → Prop
  | .captured | .argumentCount | .argument _ => True
  | _ => False

lemma query_of_none {s : Step} (hs : s.IsQuery) (hp : p.arguments = none) :
    s.Fails p .argumentsNotCaptured := by
  have hknown : captured p = .ok (.error .argumentsNotCaptured) p := by
    rw [captured_eq, knownArguments, hp]
  cases s with
  | captured => exact .answered (bind_of_ok hknown)
  | argumentCount =>
    refine .fatal ?_
    rw [Step.perform, Action.argumentCount, bind_assoc, bind_of_ok hknown]
    rfl
  | argument n =>
    refine .fatal ?_
    rw [Step.perform, Action.argument, bind_assoc, bind_of_ok hknown]
    rfl
  | _ => cases hs

lemma captured_of_some (hp : p.arguments = some a) : Action.captured p = .ok (.ok a) p := by
  rw [captured_eq, knownArguments, hp]

/-- Queries answer from given arguments. -/
structure AnswersFrom (p : Program) (a : Arguments) : Prop where
  all : Step.captured.perform p = .ok (.arguments a) p
  count : Step.argumentCount.perform p = .ok (.number a.count) p
  each : ∀ n bs, a.entries[n]? = some bs → (Step.argument n).perform p = .ok (.argument ⟨bs⟩) p
  outOfRange : ∀ n, a.count ≤ n → (Step.argument n).Fails p (.argumentOutOfRange n a.count)

lemma argument_of_some (hp : p.arguments = some a) (n : Nat) :
    (Step.argument n).perform p =
      (do return Answer.argument (← Action.orAbort (a.span n)) : Action Answer) p := by
  rw [Step.perform, Action.argument, bind_assoc, bind_of_ok (captured_of_some hp)]
  rfl

lemma answersFrom_of_some (hp : p.arguments = some a) : p.AnswersFrom a where
  all := bind_of_ok (captured_of_some hp)
  count := by
    rw [Step.perform, Action.argumentCount, bind_assoc, bind_of_ok (captured_of_some hp)]
    rfl
  each n bs hn := by
    have hspan : a.span n = .ok ⟨bs⟩ := by
      rw [Arguments.span, Arguments.get, hn]
      rfl
    rw [argument_of_some hp, hspan]
    rfl
  outOfRange n hn := by
    have hspan : a.span n = .error (.argumentOutOfRange n a.count) := by
      rw [Arguments.span, Arguments.get, List.getElem?_eq_none hn]
      rfl
    refine .fatal ?_
    rw [argument_of_some hp, hspan]
    rfl

/-! ## Runs -/

/-- A step captures what it offers if there is nothing captured yet. -/
lemma perform_arguments (s : Step) (p : Program) :
    (s.perform.final p).arguments = p.arguments.or (s.offered? p.systemArguments) ∧
      (s.perform.final p).systemArguments = p.systemArguments := by
  cases hs : s.offered? p.systemArguments with
  | none =>
    have hkeeps := perform_keeps s p.systemArguments hs p
    rw [Option.or_none]
    exact ⟨hkeeps.arguments, hkeeps.systemArguments⟩
  | some a =>
    cases hp : p.arguments with
    | none =>
      have hcaptures := (captures_of_offered hs hp).final_eq
      exact ⟨hcaptures.arguments, hcaptures.systemArguments⟩
    | some b =>
      have hfails := (fails_of_offered hs hp).final_eq
      exact ⟨hfails.arguments.trans hp, hfails.systemArguments⟩

/-- What the first step has offered stays, whatever comes after it. -/
lemma arguments_after? (h : p.after? steps = some q) :
    q.arguments = p.arguments.or (steps.findSome? (Step.offered? p.systemArguments)) ∧
      q.systemArguments = p.systemArguments := by
  induction steps generalizing p with
  | nil =>
    cases h
    exact ⟨Option.or_none.symm, rfl⟩
  | cons s steps ih =>
    obtain ⟨a, r, hs, hsteps⟩ := after?_cons_eq_some.1 h
    obtain ⟨harguments, hsystem⟩ := perform_arguments s p
    rw [final_of_ok hs] at harguments hsystem
    obtain ⟨hrest, hrestSystem⟩ := ih hsteps
    rw [harguments, hsystem, Option.or_assoc] at hrest
    refine ⟨?_, hrestSystem.trans hsystem⟩
    rw [hrest, List.findSome?_cons]
    cases s.offered? p.systemArguments <;> rfl

end Program

open Program

/-- After any steps, a process has the arguments that the first of them to offer any has offered.
Before that every query fails, and whatever is offered is captured; from then on every query
answers from those arguments, whatever else is offered is refused, and they never change.  A vector
that does not keep what its count promises is refused for that, before and after. -/
theorem arguments_captured_once {platform : Platform} {env : Environment} {system : List Bytes}
    {device : Device} {steps : List Step} {p : Program}
    (h : (start platform env system device).after? steps = some p) :
    p.arguments = steps.findSome? (Step.offered? system) ∧
    (p.arguments = none →
      (∀ s : Step, s.IsQuery → s.Fails p .argumentsNotCaptured) ∧
      ∀ (s : Step) (a : Arguments), s.offered? system = some a → s.Captures p a) ∧
    (∀ a, p.arguments = some a →
      p.AnswersFrom a ∧
      (∀ (s : Step) (b : Arguments), s.offered? system = some b →
        s.Fails p .argumentsAlreadyCaptured) ∧
      ∀ rest q, p.after? rest = some q → q.arguments = some a) ∧
    (∀ raw f, Arguments.ofRaw raw = .error f → (Step.storeArguments raw).Fails p f) ∧
    ∀ (s : Step) (f : Fault), s.Fails p f → (s.perform.final p).arguments = p.arguments := by
  obtain ⟨harguments, hsystem⟩ := arguments_after? h
  obtain rfl : p.systemArguments = system := hsystem
  refine ⟨harguments, ?_, ?_, ?_, ?_⟩
  · intro hnone
    refine ⟨fun s hs => query_of_none hs hnone, fun s a hs => ?_⟩
    exact captures_of_offered hs hnone
  · intro a hsome
    refine ⟨answersFrom_of_some hsome, fun s b hs => ?_, fun rest q hrest => ?_⟩
    · exact fails_of_offered hs hsome
    · rw [(arguments_after? hrest).1, hsome, Option.some_or]
  · exact fun raw f hraw => fails_of_malformed hraw p
  · exact fun s f hfails => hfails.final_eq.arguments

/-- No arguments are captured first, and others are offered later. -/
theorem arguments_captured_once_empty :
    ∃ p, (start .standard .empty [[0x61]] .working).after?
        [.captured, .capture [], .captureSystem] = some p ∧
      p.AnswersFrom .empty ∧ Step.captureSystem.Fails p .argumentsAlreadyCaptured := by
  refine ⟨_, rfl, ?_⟩
  obtain ⟨-, -, hcaptured, -⟩ := @arguments_captured_once .standard .empty [[0x61]] .working
    [.captured, .capture [], .captureSystem] _ rfl
  obtain ⟨hanswers, hlater, -⟩ := hcaptured .empty rfl
  exact ⟨hanswers, hlater _ _ rfl⟩

/-- A negative count ends the process because of the count, though arguments have been captured. -/
theorem storeArguments_fails_otherwise :
    let steps := [Step.capture [], .storeArguments ⟨-1, none⟩]
    ((start .standard .empty [] .working).run steps).last.errors =
        Text.Utf8.encode "invalid argument count -1\n" ∧
      ((start .standard .empty [] .working).run steps).last.errors ≠
        Text.Utf8.encode (Fault.argumentsAlreadyCaptured.message ++ "\n") := by
  decide +kernel

end RuntimeSupport
