import RuntimeSupport.Proofs.Program.Congruence
import RuntimeSupport.Proofs.Sink

/-!
# A broken standard output

A program whose standard output takes nothing does the same as one whose standard output works,
whatever the platform and whatever the system says about the output: that printing fails is never
told to the program, and is at most mentioned on standard error.  The main statement is
`broken_output_changes_nothing`.  It compares two runs; the relation that is kept between them is
`Program.Level`, and `Program.Twins` is what is left of it when they have ended.

That what is mentioned stands in lines of its own takes a logger that writes whole lines.  Both
relations carry this as a condition on what has been written, and hold of the rest without it.
-/

namespace RuntimeSupport

/-- A text and the same text with a warning added any number of times.  Each time it is a line of
its own: it stands where no line has been begun. -/
inductive Warned (warning : Bytes) : Bytes → Bytes → Prop
  | nil : Warned warning [] []
  | same {bs bs' : Bytes} (h : Warned warning bs bs') (new : Bytes) :
      Warned warning (bs ++ new) (bs' ++ new)
  | warning {bs bs' : Bytes} (h : Warned warning bs bs') (hbs : EndsLine bs) (hbs' : EndsLine bs') :
      Warned warning bs (bs' ++ warning)

/-- A logger warns in whole lines of a device that is broken for a reason. -/
structure Log.Logger.Orderly (l : Logger) (reason : String) : Prop extends l.WritesLines where
  reason : Text.Plain reason

lemma Log.Logger.Orderly.endsLine_printingFailed {l : Logger} {reason : String}
    (h : l.Orderly reason) : EndsLine (l.line (Action.printingFailed reason)) :=
  h.line _ (.append (by decide) h.reason)

namespace Program

variable {platform : Platform} {reason : String} {p q : Program}

/-- Two programs that have done the same on one platform, the first on a working output and the
second on one that is broken for a reason. -/
structure Twins (platform : Platform) (reason : String) (p q : Program) : Prop where
  platform_eq : p.platform = platform
  working : ∃ printed, p.sink = ⟨.working, [], printed⟩
  broken : q.sink.device = .broken reason
  same : q = { p with sink := q.sink, errors := q.errors }
  errors : platform.logger.Orderly reason →
    Warned (platform.logger.line (Action.printingFailed reason)) p.errors q.errors

/-- Twins that have not begun a line on standard error. -/
structure Level (platform : Platform) (reason : String) (p q : Program) : Prop
    extends Twins platform reason p q where
  line : platform.logger.Orderly reason → EndsLine p.errors
  line' : platform.logger.Orderly reason → EndsLine q.errors

/-! ## What changes in both -/

/-- A change that writes nothing, and is the same for both, leaves twins behind. -/
lemma Twins.change (h : Twins platform reason p q) {f : Program → Program}
    (hf : ∀ p, (f p).platform = p.platform ∧ (f p).sink = p.sink ∧ (f p).errors = p.errors)
    (hsame : f q = { f p with sink := q.sink, errors := q.errors }) :
    Twins platform reason (f p) (f q) := by
  obtain ⟨hplatform, hsink, herrors⟩ := hf p
  obtain ⟨-, hsink', herrors'⟩ := hf q
  refine ⟨hplatform.trans h.platform_eq, ?_, ?_, ?_, ?_⟩
  · rw [hsink]
    exact h.working
  · rw [hsink']
    exact h.broken
  · rw [hsink', herrors']
    exact hsame
  · rw [herrors, herrors']
    exact h.errors

lemma Level.change (h : Level platform reason p q) {f : Program → Program}
    (hf : ∀ p, (f p).platform = p.platform ∧ (f p).sink = p.sink ∧ (f p).errors = p.errors)
    (hsame : f q = { f p with sink := q.sink, errors := q.errors }) :
    Level platform reason (f p) (f q) := by
  refine ⟨h.toTwins.change hf hsame, ?_, ?_⟩
  · rw [(hf p).2.2]
    exact h.line
  · rw [(hf q).2.2]
    exact h.line'

lemma Twins.report (h : Twins platform reason p q) (bs : Bytes) :
    Twins platform reason (p.report bs) (q.report bs) := by
  obtain ⟨hplatform, hworking, hbroken, hsame, herrors⟩ := h
  refine ⟨hplatform, hworking, hbroken, ?_, fun hlogger => (herrors hlogger).same bs⟩
  rw [hsame]
  rfl

lemma Level.report (h : Level platform reason p q) {bs : Bytes}
    (hbs : platform.logger.Orderly reason → EndsLine bs) :
    Level platform reason (p.report bs) (q.report bs) where
  toTwins := h.toTwins.report bs
  line hlogger := (h.line hlogger).append (hbs hlogger)
  line' hlogger := (h.line' hlogger).append (hbs hlogger)

/-- What a record adds is the same for both: nothing, or its line. -/
lemma Twins.exists_report (h : Twins platform reason p q) (r : Log.Record) :
    ∃ bs, p.log r = p.report bs ∧ q.log r = q.report bs ∧
      (bs = [] ∨ bs = platform.logger.line r) := by
  have hfilter : q.filter = p.filter := by rw [h.same]
  have hplatform : q.platform = platform := by rw [h.same, h.platform_eq]
  unfold Program.log
  rw [hfilter, h.platform_eq, hplatform]
  have hnothing : ∀ s : Program, s = s.report [] := fun s => by rw [Program.report, List.append_nil]
  cases p.filter with
  | none => exact ⟨[], hnothing p, hnothing q, .inl rfl⟩
  | some admits =>
    simp only
    cases admits r with
    | false => exact ⟨[], hnothing p, hnothing q, .inl rfl⟩
    | true => exact ⟨_, rfl, rfl, .inr rfl⟩

lemma Twins.log (h : Twins platform reason p q) (r : Log.Record) :
    Twins platform reason (p.log r) (q.log r) := by
  obtain ⟨bs, hp, hq, -⟩ := h.exists_report r
  rw [hp, hq]
  exact h.report bs

lemma Level.log (h : Level platform reason p q) {r : Log.Record} (hr : Text.Plain r.message) :
    Level platform reason (p.log r) (q.log r) := by
  obtain ⟨bs, hp, hq, hbs⟩ := h.toTwins.exists_report r
  rw [hp, hq]
  refine h.report fun hlogger => ?_
  rcases hbs with rfl | rfl
  · exact endsLine_nil
  · exact hlogger.line r hr

lemma stable_twins : Stable (Twins platform reason) where
  same h := ⟨_, _, h.same⟩
  log h r _ := h.log r
  settings h s :=
    h.change (f := fun p => { p with settings := some s }) (fun _ => ⟨rfl, rfl, rfl⟩)
      (by rw [h.same])

lemma stable_level : Stable (Level platform reason) where
  same h := ⟨_, _, h.same⟩
  log h _ hr := h.log hr
  settings h s :=
    h.change (f := fun p => { p with settings := some s }) (fun _ => ⟨rfl, rfl, rfl⟩)
      (by rw [h.same])

/-! ## What is printed on one only -/

lemma Twins.lastWords (h : Twins platform reason p q) (words : Bytes) :
    Twins platform reason (Action.lastWords p words) (Action.lastWords q words) := by
  have hlogged := h.log ⟨.error, .fatal, "fatal: " ++ Text.Utf8.decodeLossy words⟩
  unfold Action.lastWords
  generalize p.log ⟨.error, .fatal, "fatal: " ++ Text.Utf8.decodeLossy words⟩ = p' at hlogged ⊢
  generalize q.log ⟨.error, .fatal, "fatal: " ++ Text.Utf8.decodeLossy words⟩ = q' at hlogged ⊢
  obtain ⟨printed, hprinted⟩ := hlogged.working
  have hflushed : Twins platform reason { p' with sink := p'.sink.flush.1 }
      { q' with sink := q'.sink.flush.1 } := by
    have hsettled : p'.sink.Settled := Sink.settled_of_working hprinted
    refine ⟨hlogged.platform_eq, ⟨printed, ?_⟩, ?_, ?_, hlogged.errors⟩
    · rw [hsettled.flush, hprinted]
    · exact (Sink.of_flush hlogged.broken).device_eq
    · rw [hlogged.same]
  exact hflushed.report (words ++ [Sink.newline])

/-- Where printing fails a warning is added, if the filter admits it. -/
lemma Level.warn (h : Level platform reason p q) :
    Level platform reason p (q.log (Action.printingFailed reason)) := by
  have hplatform : q.platform = platform := by rw [h.same, h.platform_eq]
  unfold Program.log
  rw [hplatform]
  split
  · split
    · refine ⟨⟨h.platform_eq, h.working, h.broken, ?_, ?_⟩, h.line, ?_⟩
      · rw [h.same]
        rfl
      · exact fun hlogger => (h.errors hlogger).warning (h.line hlogger) (h.line' hlogger)
      · exact fun hlogger => (h.line' hlogger).append hlogger.endsLine_printingFailed
    · exact h
  · exact h

lemma Level.print (h : Level platform reason p q) (bs : Bytes) :
    Alike (Level platform reason) (Twins platform reason) (Action.print bs p)
      (Action.print bs q) := by
  obtain ⟨printed, hprinted⟩ := h.working
  have hof := q.sink.of_print bs
  rw [h.broken] at hof
  have hprint : Level platform reason { p with sink := ⟨.working, [], printed ++ bs⟩ }
      { q with sink := (q.sink.print bs).1 } :=
    ⟨⟨h.platform_eq, ⟨_, rfl⟩, hof.device_eq, by rw [h.same], h.errors⟩, h.line, h.line'⟩
  rw [Action.print_of_working hprinted, Action.print]
  refine .answered () ?_
  split
  · exact hprint
  · next reason' hfailed =>
    obtain rfl : reason = reason' := by simpa using hof.reason_eq reason' hfailed
    exact hprint.warn

lemma congruence_level : Congruence (Level platform reason) (Twins platform reason) where
  stable := stable_level
  ended := stable_twins
  weaken h := h.toTwins
  lastWords h words := h.toTwins.lastWords words
  print h bs := h.print bs
  complaints {p q} h := by
    have hread : q.readFilter = p.readFilter := by
      rw [readFilter, filterText, h.same, readFilter, filterText]
    rw [hread, readFilter, h.platform_eq]
    exact h.report fun hlogger => hlogger.complaints _
  filter h := by
    refine h.change (f := fun p => { p with filter := some p.readFilter.1 })
      (fun _ => ⟨rfl, rfl, rfl⟩) ?_
    rw [h.same]
    rfl
  heap h heap :=
    h.change (f := fun p => { p with heap }) (fun _ => ⟨rfl, rfl, rfl⟩) (by rw [h.same])
  pointers h pointers :=
    h.change (f := fun p => { p with pointers }) (fun _ => ⟨rfl, rfl, rfl⟩) (by rw [h.same])

/-- Whatever a program does, it does the same on a broken standard output, for whatever reason that
is: the steps answer the same, the process ends the same way, and its last state is the same up to
what has been written.  If the logger writes whole lines, then the same has been written to standard
error, except for warnings that printing has failed. -/
theorem broken_output_changes_nothing (platform : Platform) (env : Environment) (args : List Bytes)
    (reason : String) (steps : List Step) :
    let working := (start platform env args .working).run steps
    let broken := (start platform env args (.broken reason)).run steps
    broken.answers = working.answers ∧ broken.ending = working.ending ∧
      broken.last = { working.last with sink := broken.last.sink, errors := broken.last.errors } ∧
      (platform.logger.Orderly reason →
        Warned (platform.logger.line (Action.printingFailed reason)) working.last.errors
          broken.last.errors) := by
  intro working broken
  have hstart : Level platform reason (start platform env args .working)
      (start platform env args (.broken reason)) :=
    ⟨⟨rfl, ⟨[], rfl⟩, rfl, rfl, fun _ => .nil⟩, fun _ => endsLine_nil, fun _ => endsLine_nil⟩
  have hcapture : ∀ a, ∀ {p q : Program}, Level platform reason p q →
      Level platform reason { p with arguments := some a } { q with arguments := some a } :=
    fun a _ _ h => h.change (f := fun p => { p with arguments := some a })
      (fun _ => ⟨rfl, rfl, rfl⟩) (by rw [h.same])
  obtain ⟨hanswers, hending, hlast⟩ := run_respects congruence_level hcapture hstart steps
  exact ⟨hanswers, hending, hlast.same, hlast.errors⟩

/-- A device without space, a format that is printed all the same, and an argument that was never
captured. -/
theorem broken_output_changes_nothing_no_space :
    let env : Environment := .ofAssignments [("AURT_LOG", Text.Utf8.encode "warn")]
    let steps := [.startLogging, .printFormatted (Ascii.bytes "%d") [.int 7], .argument 0]
    let working := (start .standard env [] .working).run steps
    let broken := (start .standard env [] .full).run steps
    broken.answers = working.answers ∧ broken.answers.length = 2 ∧
      broken.ending = working.ending ∧ broken.last.errors ≠ working.last.errors ∧
      ∃ warning, Warned warning working.last.errors broken.last.errors := by
  intro env steps working broken
  obtain ⟨hanswers, hending, -, herrors⟩ :=
    broken_output_changes_nothing .standard env [] "No space left on device (os error 28)" steps
  have horderly : Platform.standard.logger.Orderly "No space left on device (os error 28)" :=
    ⟨Log.Logger.writesLines_standard, by decide⟩
  exact ⟨hanswers, by decide +kernel, hending, by decide +kernel, _, herrors horderly⟩

end Program

end RuntimeSupport
