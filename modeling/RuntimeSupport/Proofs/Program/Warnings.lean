import RuntimeSupport.Proofs.Program.Ending
import RuntimeSupport.Proofs.Text.Utf8

/-!
# Warnings of rejected variables

A process whose filter is `warn` and which sets up its logging first tells once of every variable
that it rejects, if its logger writes just the errors and warnings with that filter.  Setting
logging up writes the warnings (`startLogging_start`) and leaves the process terse.  A step of a
terse process adds a warning that printing has failed, or the text of its fatal path, or nothing
(`Terse.perform_ok`, `Terse.perform_error`), and it stays terse; so standard error is known after a
whole run (`Terse.errors_run`).  The main statement is `rejected_warned_once`.
-/

namespace RuntimeSupport

/-- What the fatal path writes to standard error: a record, and the last words as they are. -/
def Log.Logger.farewell (l : Logger) (words : Bytes) : Bytes :=
  l.line ⟨.error, .fatal, "fatal: " ++ Text.Utf8.decodeLossy words⟩ ++ (words ++ [Sink.newline])

namespace Program

variable {p q : Program} {s : Step} {a : Answer} {steps : List Step}

/-! ## Last words of a run -/

/-- The last words of a run, if it reaches the fatal path. -/
def finalWords? (p : Program) : List Step → Option Bytes
  | [] => none
  | s :: rest =>
    match s.perform p with
    | .ok _ q => q.finalWords? rest
    | .error _ _ => s.lastWords? p

lemma reachesFatal_of_finalWords? {words : Bytes} (h : p.finalWords? steps = some words) :
    p.ReachesFatal steps := by
  induction steps generalizing p with
  | nil => cases h
  | cons s rest ih =>
    rw [finalWords?] at h
    split at h
    · next a q hs =>
      obtain ⟨before, s', rest', r, words', rfl, hbefore, hwords⟩ := ih h
      exact ⟨s :: before, s', rest', r, words', rfl, after?_cons_eq_some.2 ⟨a, q, hs, hbefore⟩,
        hwords⟩
    · exact ⟨[], s, rest, p, words, rfl, rfl, h⟩

/-! ## Terse programs -/

lemma Terse.abort {α : Type} (hp : p.Terse) (words : Bytes) :
    ∃ e q, (Action.abort words p : EStateM.Result Ending Program α) = .error e q ∧
      q.errors = p.errors ++ p.platform.logger.farewell words := by
  obtain ⟨s, hs⟩ := hp.settings
  have hlast : Action.lastWords p words =
      { p with
        sink := p.sink.flush.1
        errors := p.errors ++ p.platform.logger.farewell words } := by
    unfold Action.lastWords Log.Logger.farewell
    rw [hp.warns.log_of_le (show Log.Level.error.detail ≤ Log.Level.warn.detail by decide)]
    simp only [report, List.append_assoc]
  have hload : (Action.lastWords p words).loadSettings = (s, Action.lastWords p words) := by
    rw [hlast, Program.loadSettings]
    simp only [hs]
  refine ⟨.ofPolicy s.abort, Action.lastWords p words, ?_, by rw [hlast]⟩
  simp only [Action.abort, hload]

/-- Warnings that printing has failed, for the reasons that a device has. -/
def PrintingFailures (device : Device) (warnings : List Log.Record) : Prop :=
  ∀ r ∈ warnings, ∃ reason, device = .broken reason ∧ r = Action.printingFailed reason

/-- A step that comes back has said nothing, or that printing has failed. -/
lemma Terse.perform_ok (hp : p.Terse) (h : s.perform p = .ok a q) :
    q.Terse ∧ ∃ failures, PrintingFailures p.sink.device failures ∧
      q.errors = p.errors ++ p.platform.logger.lines failures := by
  have hsilent : p.SameDiagnostics q →
      q.Terse ∧ ∃ failures, PrintingFailures p.sink.device failures ∧
        q.errors = p.errors ++ p.platform.logger.lines failures := by
    intro hsame
    refine ⟨hp.of_same hsame, [], nofun, ?_⟩
    rw [hsame.errors]
    exact (List.append_nil _).symm
  obtain ⟨-, ⟨-, hreserved⟩ | hprinted⟩ := perform_eq_ok h
  · exact hsilent (hreserved.same hp)
  · rcases hprinted.diagnostics with hsame | ⟨reason, r, hdevice, hsame, rfl⟩
    · exact hsilent hsame
    · have hr := hp.of_same hsame
      rw [hr.warns.log_of_le (Nat.le_refl _)]
      refine ⟨⟨hr.complaints, hr.warns, hr.settings⟩, [Action.printingFailed reason], ?_, ?_⟩
      · intro r' hr'
        exact ⟨reason, hdevice, List.mem_singleton.1 hr'⟩
      · rw [report, hsame.errors, hsame.platform]
        exact congrArg (p.errors ++ ·) (List.append_nil _).symm

/-- A step that does not come back has said why, if it has reached the fatal path. -/
lemma Terse.perform_error {e : Ending} (hp : p.Terse) (h : s.perform p = .error e q) :
    q.errors = p.errors ++ (s.lastWords? p).elim [] p.platform.logger.farewell := by
  obtain ⟨words, r, hwords, hreserved, hr⟩ | ⟨hwords, rfl⟩ := perform_eq_error h
  · have hsame := hreserved.same hp
    obtain ⟨e', q', habort, herrors⟩ := (hp.of_same hsame).abort (α := Answer) words
    rw [habort] at hr
    cases hr
    rw [herrors, hsame.errors, hsame.platform, hwords]
    rfl
  · rw [hwords]
    exact (List.append_nil _).symm

lemma Terse.errors_run (hp : p.Terse) (steps : List Step) :
    ∃ failures, PrintingFailures p.sink.device failures ∧
      (p.run steps).last.errors = p.errors ++ p.platform.logger.lines failures ++
        (p.finalWords? steps).elim [] p.platform.logger.farewell := by
  induction steps generalizing p with
  | nil => exact ⟨[], nofun, by simp [run, finalWords?, Log.Logger.lines]⟩
  | cons s rest ih =>
    rw [run, finalWords?]
    cases hs : s.perform p with
    | ok a q =>
      obtain ⟨hq, first, hfailures, hfirst⟩ := hp.perform_ok hs
      obtain ⟨others, hothers, hrest⟩ := ih hq
      rw [device_perform hs] at hothers
      refine ⟨first ++ others, List.forall_mem_append.2 ⟨hfailures, hothers⟩, ?_⟩
      simp only
      rw [hrest, hfirst, platform_perform hs, Log.Logger.lines_append,
        List.append_assoc p.errors]
    | error e q =>
      refine ⟨[], nofun, ?_⟩
      simp only
      rw [hp.perform_error hs]
      exact congrArg (· ++ _) (List.append_nil _).symm

/-! ## Settings that are asked for -/

/-- Whenever a run comes to a step that asks for the settings, the answer is the settings that the
process goes by. -/
lemma answers_settings {i : Nat} (h : steps[i]? = some .settings)
    (hi : i ≤ (p.run steps).answers.length) :
    (p.run steps).answers[i]? = some (.settings p.effective) := by
  induction steps generalizing p i with
  | nil => cases h
  | cons s rest ih =>
    cases i with
    | zero =>
      obtain rfl : s = .settings := Option.some.inj h
      have hperform : Step.settings.perform p =
          .ok (.settings p.loadSettings.1) p.loadSettings.2 := rfl
      simp only [run, hperform, loadSettings_fst]
      rfl
    | succ i =>
      rw [run] at hi ⊢
      cases hs : s.perform p with
      | ok a q =>
        simp only [hs, List.length_cons, Nat.add_le_add_iff_right] at hi
        have hrest := ih h hi
        rw [(Program.perform_ok hs).2.1] at hrest
        exact hrest
      | error e q =>
        simp only [hs, List.length_nil, Nat.le_zero_eq, Nat.add_eq_zero_iff] at hi
        omega

/-! ## Setting logging up -/

lemma Warns.report (hp : p.Warns) (bs : Bytes) : (p.report bs).Warns := hp

lemma Warns.foldl_log {rs : List Log.Record} (hp : p.Warns) (h : ∀ r ∈ rs, r.level = .warn) :
    rs.foldl log p = p.report (p.platform.logger.lines rs) := by
  induction rs generalizing p with
  | nil => simp [Program.report, Log.Logger.lines]
  | cons r rs ih =>
    obtain ⟨hr, hrs⟩ := List.forall_mem_cons.1 h
    have hlog := hp.log_of_le (Nat.le_of_eq (congrArg Log.Level.detail hr))
    rw [List.foldl_cons, hlog, ih (hp.report _) hrs, Log.Logger.lines_cons]
    simp only [Program.report, List.append_assoc]

/-- Loading the settings writes a warning for each rejected variable, in order. -/
lemma Warns.loadSettings (hp : p.Warns) (hsettings : p.settings = none) :
    let loaded := Settings.loadLenient p.environment.lookup
    p.loadSettings.2 = { p with
      errors := p.errors ++ p.platform.logger.lines (loaded.2.map ignoring)
      settings := some loaded.1 } := by
  intro loaded
  have hwarnings : ∀ r ∈ loaded.2.map ignoring, r.level = .warn := by
    intro r hr
    obtain ⟨e, -, rfl⟩ := List.mem_map.1 hr
    rfl
  have hfold : ((loaded.2.map ignoring) ++ [Program.loaded loaded.1]).foldl log p =
      p.report (p.platform.logger.lines (loaded.2.map ignoring)) := by
    -- that settings have been loaded is told in more detail than the filter lets through
    rw [List.foldl_append, hp.foldl_log hwarnings]
    exact (hp.report _).log_of_lt (show Log.Level.warn.detail < Log.Level.debug.detail by decide)
  simp only [Program.loadSettings, hsettings, hfold, loaded]
  rfl

variable {platform : Platform} {env : Environment} {args : List Bytes} {device : Device}

lemma lookup_log (h : env "AURT_LOG" = some (Text.Utf8.encode "warn")) :
    env.lookup .log = some "warn" := by
  show (env "AURT_LOG").bind Text.Utf8.decode? = some "warn"
  rw [h]
  exact Text.Utf8.decode?_eq_some_iff.2 rfl

lemma readFilter_start (h : env "AURT_LOG" = some (Text.Utf8.encode "warn")) :
    (start platform env args device).readFilter = platform.logger.read "warn" := by
  show platform.logger.read ((env.lookup .log).getD defaultFilter) = _
  rw [lookup_log h, Option.getD_some]

section

variable (hlogger : platform.logger.Sets "warn" (some .warn))
  (henv : env "AURT_LOG" = some (Text.Utf8.encode "warn"))

include hlogger henv

/-- Setting logging up comes before the settings are loaded, so the warnings get through. -/
lemma startLogging_start :
    let loaded := Settings.loadLenient env.lookup
    (start platform env args device).startLogging = { start platform env args device with
      errors := platform.logger.lines (loaded.2.map ignoring)
      filter := some (platform.logger.read "warn").1
      settings := some loaded.1 } := by
  have hwarns : Warns { start platform env args device with
      filter := some (platform.logger.read "warn").1 } := ⟨_, rfl, hlogger.admits⟩
  have hstarted : (start platform env args device).startLogging =
      { start platform env args device with
        filter := some (platform.logger.read "warn").1 }.loadSettings.2 := by
    rw [startLogging_def, readFilter_start henv, hlogger.complaints]
    have hlog := hwarns.log_of_lt (r := loggingStarted (start platform env args device).filterText)
      (show Log.Level.warn.detail < Log.Level.debug.detail by decide)
    exact congrArg (fun p => p.loadSettings.2) hlog
  rw [hstarted, hwarns.loadSettings rfl]
  rfl

lemma terse_startLogging : (start platform env args device).startLogging.Terse := by
  rw [startLogging_start hlogger henv]
  refine ⟨?_, ⟨_, rfl, hlogger.admits⟩, _, rfl⟩
  show (start platform env args device).readFilter.2 = []
  rw [readFilter_start henv, hlogger.complaints]

end

/-! ## The first step -/

/-- Whether a step sets logging up before it does anything else. -/
def Step.StartsLogging : Step → Prop
  | .startLogging => True
  | .storeArguments _ => True
  | _ => False

lemma storeArguments_startLogging (raw : RawArguments) (h : p.startLogging.Terse) :
    Action.storeArguments raw p.startLogging = Action.storeArguments raw p := by
  have hfirst : Action.startLogging p = .ok () p.startLogging := rfl
  have hagain : Action.startLogging p.startLogging = .ok () p.startLogging := by
    show EStateM.Result.ok () p.startLogging.startLogging = .ok () p.startLogging
    rw [h.startLogging]
  rw [Action.storeArguments, Action.bind_of_ok hfirst, Action.bind_of_ok hagain]

/-- A step that sets logging up may just as well find that done. -/
lemma perform_startLogging (hs : s.StartsLogging) (h : p.startLogging.Terse) :
    s.perform p.startLogging = s.perform p := by
  cases s with
  | startLogging =>
    show EStateM.Result.ok Answer.done p.startLogging.startLogging = .ok .done p.startLogging
    rw [h.startLogging]
  | storeArguments raw =>
    exact Action.bind_congr (storeArguments_startLogging raw h)
  | _ => cases hs

lemma lastWords?_startLogging (hs : s.StartsLogging) :
    s.lastWords? p.startLogging = s.lastWords? p := by
  cases s with
  | startLogging => rfl
  | storeArguments raw =>
    have hsame : p.startLogging.captureResult = p.captureResult := by
      funext a
      rw [captureResult, arguments_startLogging, captureResult]
    rw [Step.lastWords?, hsame, Step.lastWords?]
  | _ => cases hs

lemma run_startLogging (hs : s.StartsLogging) (h : p.startLogging.Terse) (rest : List Step) :
    p.startLogging.run (s :: rest) = p.run (s :: rest) ∧
      p.startLogging.finalWords? (s :: rest) = p.finalWords? (s :: rest) := by
  rw [run, run, finalWords?, finalWords?, perform_startLogging hs h, lastWords?_startLogging hs]
  exact ⟨rfl, rfl⟩

/-- If a process with the filter `warn` sets its logging up first, and its logger writes just errors
and warnings with that filter, then standard error starts with one warning for each variable that is
rejected, in the order of loading, and there is no other.  Only warnings that printing has failed
follow, if the device is broken, and the text of the fatal path if the process reaches it.  Whoever
asks for the settings gets those that were loaded with the warnings, and a process that reaches the
fatal path ends as they demand. -/
theorem rejected_warned_once (platform : Platform) (env : Environment) (args : List Bytes)
    (device : Device) (first : Step) (rest : List Step)
    (hlogger : platform.logger.Sets "warn" (some .warn))
    (henv : env "AURT_LOG" = some (Text.Utf8.encode "warn")) (hfirst : first.StartsLogging) :
    let p := start platform env args device
    let r := p.run (first :: rest)
    let loaded := Settings.loadLenient env.lookup
    (∃ failures, PrintingFailures device failures ∧
      r.last.errors = platform.logger.lines (loaded.2.map ignoring) ++
        platform.logger.lines failures ++
          (p.finalWords? (first :: rest)).elim [] platform.logger.farewell) ∧
      (∀ i, (first :: rest)[i]? = some .settings → i ≤ r.answers.length →
        r.answers[i]? = some (.settings loaded.1)) ∧
      ∀ words, p.finalWords? (first :: rest) = some words →
        r.ending = .ofPolicy loaded.1.abort := by
  intro p r loaded
  have hterse : p.startLogging.Terse := terse_startLogging hlogger henv
  have heffective : p.effective = loaded.1 := rfl
  refine ⟨?_, ?_, ?_⟩
  · obtain ⟨failures, hfailures, herrors⟩ := hterse.errors_run (first :: rest)
    obtain ⟨hrun, hwords⟩ := run_startLogging hfirst hterse rest
    rw [hrun, hwords, startLogging_start hlogger henv] at herrors
    rw [startLogging_start hlogger henv] at hfailures
    exact ⟨failures, hfailures, herrors⟩
  · intro i hi hlength
    rw [answers_settings hi hlength, heffective]
  · intro words hwords
    rw [(reachesFatal_of_finalWords? hwords).ending_eq, heffective]

/-- An exit code and a policy that are both rejected; arguments that are captured, printing that
fails, logging that is set up again, settings that are asked for, and an end on the fatal path. -/
theorem rejected_warned_once_two :
    let env : Environment := .ofAssignments [("AURT_LOG", Text.Utf8.encode "warn"),
      ("AURT_EXIT_CODE", Text.Utf8.encode "bogus"), ("AURT_ABORT", Text.Utf8.encode "explode")]
    let steps := [.print [0x61], .startLogging, .settings, .abort [0x62]]
    let first := .storeArguments ⟨1, some [some [0x63], none]⟩
    let r := (start .standard env [] .full).run (first :: steps)
    let logger := Log.Logger.standard
    (∃ failures, PrintingFailures .full failures ∧ r.last.errors =
        logger.lines [ignoring (.invalidExitCode "bogus"),
          ignoring (.unknownAbortPolicy "explode")] ++
        logger.lines failures ++ logger.farewell [0x62]) ∧
      r.answers[3]? = some (.settings ⟨.exit 1, some "warn"⟩) ∧ r.ending = .exited 1 := by
  intro env steps first r logger
  have henv : env "AURT_LOG" = some (Text.Utf8.encode "warn") := by decide +kernel
  have hloaded : Settings.loadLenient env.lookup = (⟨.exit 1, some "warn"⟩,
      [.invalidExitCode "bogus", .unknownAbortPolicy "explode"]) := by decide +kernel
  have hwords : (start .standard env [] .full).finalWords? (first :: steps) = some [0x62] := by
    decide +kernel
  obtain ⟨herrors, hanswers, hending⟩ :=
    rejected_warned_once .standard env [] .full first steps Log.Logger.sets_standard_warn henv
      trivial
  have hlength : 3 ≤ r.answers.length := by decide +kernel
  rw [hloaded] at herrors hanswers hending
  rw [hwords] at herrors
  exact ⟨herrors, hanswers 3 rfl hlength, hending _ hwords⟩

end Program

end RuntimeSupport
