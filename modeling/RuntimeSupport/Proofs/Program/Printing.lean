import RuntimeSupport.Proofs.Program.Run

/-!
# What a run prints

On a device that works, the steps of a run that come back have printed their complete outputs, one
after the other, and whatever ends the run has neither added to that nor kept any of it back.  The
main statement is `run_prints_outputs`.
-/

namespace RuntimeSupport.Program

variable {p q : Program} {s : Step} {a : Answer} {steps : List Step} {printed : Bytes}

/-- A step that has come back. -/
structure Return where
  /-- The state in which it was performed. -/
  before : Program
  /-- The step. -/
  step : Step
  /-- What it answered. -/
  answer : Answer

/-- The output of a step that has come back. -/
def Return.output (e : Return) : Bytes := e.step.output e.before e.answer

/-- Whether the output of a step that renders a format is all of the rendering.  For a variadic call
that is the rendering of the host, if it renders the format.  For arrays and bytes there is nothing
to ask. -/
def Return.Complete (e : Return) : Prop :=
  match e.step, e.answer with
  | .printFormatted fmt args, .written n => format fmt args = .ok e.output ∧ n = e.output.length
  | .printArguments (some fmt) args count, .unit =>
    passedRendering fmt args count = .ok e.output
  | .printVariadic (some fmt) args, .unit =>
    ∀ rendering, e.before.platform.formatter.Renders fmt args rendering → e.output = rendering
  | _, _ => True

/-- The steps of a script that come back, up to the first one that does not. -/
def history (p : Program) : List Step → List Return
  | [] => []
  | s :: rest =>
    match s.perform p with
    | .ok a q => ⟨p, s, a⟩ :: q.history rest
    | .error _ _ => []

/-! ## Outputs -/

/-- A step that has come back was performed after others that have. -/
lemma exists_of_mem_history {e : Return} (h : e ∈ p.history steps) :
    (∃ past, p.after? past = some e.before) ∧ ∃ q, e.step.perform e.before = .ok e.answer q := by
  induction steps generalizing p with
  | nil => cases h
  | cons s steps ih =>
    rw [history] at h
    cases hs : s.perform p with
    | ok a q =>
      rw [hs] at h
      rcases List.mem_cons.1 h with rfl | hrest
      · exact ⟨⟨[], rfl⟩, q, hs⟩
      · obtain ⟨⟨past, hpast⟩, hback⟩ := ih hrest
        exact ⟨⟨s :: past, after?_cons_eq_some.2 ⟨a, q, hs, hpast⟩⟩, hback⟩
    | error e q =>
      rw [hs] at h
      cases h

lemma complete_printFormatted {fmt : Bytes} {args : List Format.Argument}
    (h : (Step.printFormatted fmt args).perform p = .ok a q) :
    Return.Complete ⟨p, .printFormatted fmt args, a⟩ := by
  rw [Step.perform] at h
  cases hformat : format fmt args with
  | ok out =>
    rw [Action.printFormatted_of_ok hformat, bind_assoc] at h
    obtain ⟨q', hprint, -⟩ := Action.print_eq out p
    rw [Action.bind_of_ok hprint] at h
    cases h
    simp [Return.Complete, Return.output, Step.output, hformat, Except.toOption]
  | error f =>
    rw [Action.printFormatted_of_error hformat] at h
    cases f with
    | error e =>
      cases h
      trivial
    | panic c => cases h

lemma complete_printArguments {fmt : Bytes} {args : Option (List Format.RawArgument)}
    {count : UInt64} (h : (Step.printArguments (some fmt) args count).lastWords? p = none) :
    Return.Complete ⟨p, .printArguments (some fmt) args count, a⟩ := by
  cases a with
  | unit =>
    rw [Step.lastWords?] at h
    split at h
    · cases h
    · cases hrendering : passedRendering fmt args count with
      | ok out => simp [Return.Complete, Return.output, Step.output, hrendering, Except.toOption]
      | error words =>
        rw [hrendering] at h
        cases h
  | _ => trivial

lemma complete_printVariadic {fmt : Bytes} {args : List Variadic.Argument}
    (h : (Step.printVariadic (some fmt) args).lastWords? p = none) :
    Return.Complete ⟨p, .printVariadic (some fmt) args, a⟩ := by
  cases a with
  | unit =>
    intro rendering hrenders
    have hresult := hrenders.result_eq
    rw [Step.lastWords?] at h
    -- a call that has come back had memory for its buffer
    split at hresult
    · rw [hresult] at h
      cases h
    · simp [Return.output, Step.output, hresult, Except.toOption]
  | _ => trivial

lemma complete_of_perform (h : s.perform p = .ok a q) : Return.Complete ⟨p, s, a⟩ := by
  -- a call of a compiled program comes back only if it has not reached the fatal path
  obtain ⟨hwords, -, -⟩ := perform_ok h
  cases s with
  | printFormatted fmt args => exact complete_printFormatted h
  | printArguments fmt args count =>
    cases fmt with
    | none => trivial
    | some fmt => exact complete_printArguments hwords
  | printVariadic fmt args =>
    cases fmt with
    | none => trivial
    | some fmt => exact complete_printVariadic hwords
  | _ => trivial

lemma output_fault (p : Program) (s : Step) (f : Fault) : s.output p (.fault f) = [] := by
  cases s with
  | printArguments fmt args count => cases fmt <;> rfl
  | printVariadic fmt args => cases fmt <;> rfl
  | _ => rfl

/-! ## One step -/

lemma perform_ok_working (hp : p.sink = ⟨.working, [], printed⟩) (h : s.perform p = .ok a q) :
    q.sink = ⟨.working, [], printed ++ s.output p a⟩ := by
  obtain ⟨-, -, ⟨hsink, hout⟩ | hsink⟩ := perform_ok h
  · rw [hsink, hp, hout, List.append_nil]
  · rw [hsink, hp, Sink.print_working]

lemma perform_error_working {e : Ending} (hp : p.sink = ⟨.working, [], printed⟩)
    (h : s.perform p = .error e q) : q.sink = ⟨.working, [], printed⟩ := by
  have hsettled : p.sink.Settled := Sink.settled_of_working hp
  rcases perform_error h with hsink | hsink
  · rw [hsink, hp]
  · rw [hsink, hsettled.flush, hp]

/-! ## Whole runs -/

lemma answers_history (p : Program) (steps : List Step) :
    (p.history steps).map Return.answer = (p.run steps).answers := by
  induction steps generalizing p with
  | nil => rfl
  | cons s steps ih =>
    rw [history, run]
    cases s.perform p with
    | ok a q => rw [List.map_cons, ih q]
    | error e q => rfl

lemma steps_history (p : Program) (steps : List Step) :
    (p.history steps).map Return.step <+: steps := by
  induction steps generalizing p with
  | nil => exact List.prefix_rfl
  | cons s steps ih =>
    rw [history]
    cases s.perform p with
    | ok a q => exact List.cons_prefix_cons.2 ⟨rfl, ih q⟩
    | error e q => exact List.nil_prefix

lemma sink_run (hp : p.sink = ⟨.working, [], printed⟩) :
    (p.run steps).last.sink =
      ⟨.working, [], printed ++ (p.history steps).flatMap Return.output⟩ := by
  induction steps generalizing p printed with
  | nil =>
    rw [run, history, List.flatMap_nil, List.append_nil]
    exact hp
  | cons s steps ih =>
    rw [run, history]
    cases hs : s.perform p with
    | ok a q =>
      have hq := perform_ok_working hp hs
      simp only
      rw [ih hq, List.flatMap_cons, List.append_assoc]
      rfl
    | error e q =>
      simp only
      rw [perform_error_working hp hs, List.flatMap_nil, List.append_nil]

/-- However a process with a working device ends, and whatever host it runs on, it has printed the
complete outputs of the steps that have come back, in order, and nothing else: what answers a fault
adds no byte, what does not come back adds none, and none is left waiting.  The output of a variadic
call is all that the host has rendered. -/
theorem run_prints_outputs (platform : Platform) (env : Environment) (args : List Bytes)
    (steps : List Step) :
    let p := start platform env args .working
    let r := p.run steps
    let history := p.history steps
    history.map Return.answer = r.answers ∧ history.map Return.step <+: steps ∧
      (∀ e ∈ history, e.before.platform = platform ∧ e.Complete ∧
        ∀ f, e.answer = .fault f → e.output = []) ∧
      r.last.sink.delivered = history.flatMap Return.output ∧ r.last.sink.pending = [] := by
  intro p r history
  have hstart : p.sink = ⟨.working, [], []⟩ := rfl
  have hlast : r.last.sink = ⟨.working, [], history.flatMap Return.output⟩ := sink_run hstart
  refine ⟨answers_history p steps, steps_history p steps, ?_, ?_, ?_⟩
  · rintro ⟨before, s, a⟩ he
    obtain ⟨⟨past, hpast⟩, q, hs⟩ := exists_of_mem_history he
    refine ⟨platform_after? hpast, complete_of_perform hs, ?_⟩
    rintro f rfl
    exact output_fault before s f
  · rw [hlast]
  · rw [hlast]

/-- A format that fails at its last directive, between two prints, and a variadic call before the
process is ended. -/
theorem run_prints_outputs_around_fault :
    let p := start .standard .empty [] .working
    let variadic := .printVariadic (some (Ascii.bytes "%hhd")) [.word 257]
    let steps : List Step := [.print [0x61], .printFormatted (Ascii.bytes "b%d%d") [.int 1],
      .print [0x63], variadic, .terminate .trap]
    (p.run steps).last.sink.delivered = [0x61, 0x63, 0x31] ∧
      (∃ e ∈ p.history steps, e.answer = .fault (.format (.missingArgument 1)) ∧ e.output = []) ∧
      ∀ e ∈ p.history steps, e.step = variadic → e.answer = .unit → e.output = [0x31] := by
  intro p variadic steps
  obtain ⟨-, -, hreturns, hdelivered, -⟩ := run_prints_outputs .standard .empty [] steps
  have hanswers : (p.history steps).map Return.answer =
      [.done, .fault (.format (.missingArgument 1)), .done, .unit] := by decide +kernel
  have houtputs : (p.history steps).flatMap Return.output = [0x61, 0x63, 0x31] := by
    decide +kernel
  refine ⟨hdelivered.trans houtputs, ?_, ?_⟩
  · obtain ⟨e, he, hfault⟩ :
        ∃ e ∈ p.history steps, e.answer = .fault (.format (.missingArgument 1)) := by
      refine List.mem_map.1 ?_
      rw [hanswers]
      exact .tail _ (.head _)
    exact ⟨e, he, hfault, (hreturns e he).2.2 _ hfault⟩
  · rintro ⟨before, s, a⟩ he rfl rfl
    obtain ⟨hplatform, hcomplete, -⟩ := hreturns _ he
    refine hcomplete [0x31] ?_
    rw [show before.platform = .standard from hplatform]
    exact Variadic.Host.renders_own (by decide +kernel)

end RuntimeSupport.Program
