import RuntimeSupport.Proofs.Program.Outcome
import RuntimeSupport.Proofs.Sink

/-!
# Runs of a program

What one step comes to (`perform_outcome`) is taken apart here by how the step ends
(`perform_eq_ok`, `perform_eq_error`).  A run is cut where some of its steps have come back
(`after?`, `run_append`), and what one step preserves is carried up to there: the platform, the
settings that the process goes by, and that nothing waits in standard output.
-/

namespace RuntimeSupport.Program

variable {p q : Program} {s : Step} {a : Answer}

/-! ## One step -/

/-- A step that comes back has reached no fatal path.  Either it has printed its output, or there is
none and it has kept quiet. -/
lemma perform_eq_ok (h : s.perform p = .ok a q) :
    s.lastWords? p = none ∧
      (s.output p a = [] ∧ p.Reserved q ∨ Action.Printed (s.output p a) p q) := by
  have houtcome := perform_outcome s p
  rw [h] at houtcome
  generalize hr : EStateM.Result.ok a q = r at houtcome
  cases houtcome with
  | quiet hwords hout hreserved =>
    cases hr
    exact ⟨hwords, .inl ⟨hout, hreserved⟩⟩
  | printed hwords hprinted =>
    cases hr
    exact ⟨hwords, .inr hprinted⟩
  | @fatal words q' =>
    -- last words are never followed by an answer
    obtain ⟨q'', habort, -⟩ := Action.abort_eq (α := Answer) words q'
    rw [habort] at hr
    cases hr
  | terminated => cases hr
  | panicked => cases hr

/-- A step that does not come back has reached the fatal path, or else has changed nothing. -/
lemma perform_eq_error {e : Ending} (h : s.perform p = .error e q) :
    (∃ words r, s.lastWords? p = some words ∧ p.Reserved r ∧
      (Action.abort words : Action Answer) r = .error e q) ∨ s.lastWords? p = none ∧ q = p := by
  have houtcome := perform_outcome s p
  rw [h] at houtcome
  generalize hr : EStateM.Result.error e q = r at houtcome
  cases houtcome with
  | quiet => cases hr
  | printed => cases hr
  | @fatal words q' hwords hreserved => exact .inl ⟨words, q', hwords, hreserved, rfl⟩
  | terminated hs =>
    cases hr
    subst hs
    exact .inr ⟨rfl, rfl⟩
  | panicked hs =>
    cases hr
    subst hs
    exact .inr ⟨rfl, rfl⟩

lemma perform_ok (h : s.perform p = .ok a q) :
    s.lastWords? p = none ∧ q.effective = p.effective ∧
      (q.sink = p.sink ∧ s.output p a = [] ∨ q.sink = (p.sink.print (s.output p a)).1) := by
  obtain ⟨hwords, ⟨hout, hreserved⟩ | hprinted⟩ := perform_eq_ok h
  · exact ⟨hwords, hreserved.effective, .inl ⟨hreserved.sink, hout⟩⟩
  · exact ⟨hwords, hprinted.effective, .inr hprinted.sink⟩

lemma platform_perform (h : s.perform p = .ok a q) : q.platform = p.platform := by
  obtain ⟨-, ⟨-, hreserved⟩ | hprinted⟩ := perform_eq_ok h
  · exact hreserved.platform
  · exact hprinted.platform

lemma device_perform (h : s.perform p = .ok a q) : q.sink.device = p.sink.device := by
  obtain ⟨-, -, ⟨hsink, -⟩ | hsink⟩ := perform_ok h
  · rw [hsink]
  · rw [hsink, (p.sink.of_print _).device_eq]

/-- A step that does not come back has printed nothing. -/
lemma perform_error {e : Ending} (h : s.perform p = .error e q) :
    q.sink = p.sink ∨ q.sink = p.sink.flush.1 := by
  obtain ⟨words, r, -, hreserved, hr⟩ | ⟨-, rfl⟩ := perform_eq_error h
  · obtain ⟨q', habort, hsink⟩ := Action.abort_eq (α := Answer) words r
    rw [habort] at hr
    cases hr
    rw [hsink, hreserved.sink]
    exact .inr rfl
  · exact .inl rfl

/-- A step that reaches the fatal path ends the process as its settings demand. -/
lemma perform_fatal {words : Bytes} (h : s.lastWords? p = some words) :
    ∃ q, s.perform p = .error (.ofPolicy p.effective.abort) q := by
  cases hs : s.perform p with
  | ok a q =>
    rw [(perform_eq_ok hs).1] at h
    cases h
  | error e q =>
    obtain ⟨words', r, -, hreserved, hr⟩ | ⟨hwords, -⟩ := perform_eq_error hs
    · obtain ⟨q', habort, -⟩ := Action.abort_eq (α := Answer) words' r
      rw [habort, hreserved.effective] at hr
      cases hr
      exact ⟨_, rfl⟩
    · rw [hwords] at h
      cases h

/-! ## Whole runs -/

/-- The state of a program after steps that all come back. -/
def after? (p : Program) : List Step → Option Program
  | [] => some p
  | s :: rest =>
    match s.perform p with
    | .ok _ q => q.after? rest
    | .error _ _ => none

lemma after?_cons_eq_some {rest : List Step} {r : Program} :
    p.after? (s :: rest) = some r ↔ ∃ a q, s.perform p = .ok a q ∧ q.after? rest = some r := by
  rw [after?]
  cases s.perform p with
  | ok a q =>
    constructor
    · intro hrest
      exact ⟨a, q, rfl, hrest⟩
    · rintro ⟨a', q', hs, hrest⟩
      cases hs
      exact hrest
  | error e q => simp

variable {steps rest : List Step}

/-- Once some steps have come back, the others run from where those have led. -/
lemma run_append (h : p.after? steps = some q) :
    (p.run (steps ++ rest)).ending = (q.run rest).ending ∧
      (p.run (steps ++ rest)).last = (q.run rest).last := by
  induction steps generalizing p with
  | nil =>
    cases h
    exact ⟨rfl, rfl⟩
  | cons s steps ih =>
    obtain ⟨a, q', hs, hsteps⟩ := after?_cons_eq_some.1 h
    simp only [List.cons_append, run, hs]
    exact ih hsteps

lemma after?_preserves {P : Program → Prop}
    (hstep : ∀ {p s a q}, P p → Step.perform s p = .ok a q → P q) (hp : P p)
    (h : p.after? steps = some q) : P q := by
  induction steps generalizing p with
  | nil =>
    cases h
    exact hp
  | cons s steps ih =>
    obtain ⟨a, q', hs, hsteps⟩ := after?_cons_eq_some.1 h
    exact ih (hstep hp hs) hsteps

lemma effective_after? (h : p.after? steps = some q) : q.effective = p.effective :=
  after?_preserves (P := fun q => q.effective = p.effective)
    (fun hp hs => (perform_ok hs).2.1.trans hp) rfl h

lemma platform_after? (h : p.after? steps = some q) : q.platform = p.platform :=
  after?_preserves (P := fun q => q.platform = p.platform)
    (fun hp hs => (platform_perform hs).trans hp) rfl h

lemma settled_perform (hp : p.sink.Settled) (h : s.perform p = .ok a q) : q.sink.Settled := by
  obtain ⟨-, -, ⟨hsink, -⟩ | hsink⟩ := perform_ok h
  · rw [hsink]
    exact hp
  · rw [hsink]
    exact hp.print _

lemma settled_after? (hp : p.sink.Settled) (h : p.after? steps = some q) : q.sink.Settled :=
  after?_preserves (P := fun q => q.sink.Settled) settled_perform hp h

end RuntimeSupport.Program
