import RuntimeSupport.Proofs.Program.Action

/-!
# What the steps of a program come to

Two functions say what is expected of a step: `Step.lastWords?` whether it reaches the fatal path,
and with which last words, and `Step.output` what it prints if it comes back.  `perform_outcome` is
the statement that every step keeps to them.  Whatever holds of whole runs is proved from it, by one
case for each of the five ways in which a step can turn out.
-/

namespace RuntimeSupport

namespace Variadic

variable {Arguments : Type} {host : Host Arguments} {fmt rendering : Bytes} {args : Arguments}

/-- What a variadic call comes to on a host: the bytes that it prints, or the last words of the
process. -/
def Host.result (host : Host Arguments) (fmt : Bytes) (args : Arguments) : Except Bytes Bytes :=
  let (result, small) := host.format Action.smallSize fmt args
  let n := result.toInt.toNat
  if result < 0 then .error (Text.Utf8.encode "au_printf: invalid format")
  else if n < Action.smallSize then .ok (small.take n)
  else if host.allocate (n + 1) = 0 then .error (Text.Utf8.encode "au_printf: out of memory")
  else .ok ((host.format (n + 1) fmt args).2.take n)

lemma Host.result_of_negative (h : (host.format Action.smallSize fmt args).1 < 0) :
    host.result fmt args = .error (Text.Utf8.encode "au_printf: invalid format") := by
  rw [result]
  simp only [if_pos h]

/-- Whichever buffer is used, nothing but the whole rendering is printed, and it is unless there is
no memory for the buffer. -/
lemma Host.Renders.result_eq (h : host.Renders fmt args rendering) :
    host.result fmt args =
      if Action.smallSize ≤ rendering.length ∧ host.allocate (rendering.length + 1) = 0 then
        .error (Text.Utf8.encode "au_printf: out of memory")
      else .ok rendering := by
  have hlength : (host.format Action.smallSize fmt args).1.toInt.toNat = rendering.length := by
    rw [h.length, Int.toNat_natCast]
  rw [result]
  simp only [if_neg (h.not_lt_zero _), hlength]
  by_cases hfits : rendering.length < Action.smallSize
  · rw [if_pos hfits, if_neg (fun hlong => absurd hfits (Nat.not_lt.2 hlong.1)), h.take_eq hfits]
  · rw [if_neg hfits, h.take_eq (Nat.lt_succ_self _)]
    simp only [Nat.not_lt.1 hfits, true_and]

end Variadic

namespace Program

open Memory

variable {p q : Program} {s : Step} {id : Nat}

/-! ## What is expected of a step -/

/-- What a format comes to with arguments as a compiled program passes them: the rendering, or the
last words of the process. -/
def passedRendering (fmt : Bytes) (args : Option (List Format.RawArgument)) (count : UInt64) :
    Except Bytes Bytes :=
  match Format.RawArgument.decodeAll 0 ((args.getD []).take count.toNat) with
  | .error f => .error f.words
  | .ok decoded => (format (untilNul fmt) decoded).mapError Format.Failure.words

/-- The last words of a step, if it reaches the fatal path: because it breaks a contract, because a
call meets a fault or a panic that it cannot report, or because it is told to. -/
def Step.lastWords? (p : Program) : Step → Option Bytes
  | .storeArguments raw => Action.lastWords? (Arguments.ofRaw raw >>= p.captureResult)
  | .argumentCount => Action.lastWords? p.knownArguments
  | .argument n => Action.lastWords? (p.knownArguments >>= (·.get n))
  | .allocate _ size count => Action.lastWords? (p.heap.allocate count size)
  | .reallocate id length =>
    match p.pointee? id with
    | none => Action.lastWords? (p.heap.zeroed length)
    | some x => Action.lastWords? (p.heap.reallocate (p.heap.ofRaw x) length).1
  | .transfer t dest source count =>
    match p.location? dest, p.location? source with
    | some d, some s =>
      if count > 0 && (p.reaches count d && p.reaches count s) then
        (t.nullFault? d s).map Fault.words
      else none
    | _, _ => none
  | .counters room => if room then none else some (Fault.nullPointer "memory stats output").words
  | .index array i elemSize =>
    (p.array? array).bind fun a => Action.lastWords? (a.view.index i elemSize)
  | .storeAt id i elemSize _ =>
    (p.pointee? id).bind fun x =>
      Action.lastWords? (((p.heap.ofRaw x).view somewhere).index i elemSize)
  | .printArray array =>
    (p.array? array).bind fun a =>
      if a.unreadable then some (Fault.nullPointer "print array").words else none
  | .printArguments none _ _ => some (Fault.nullPointer "format").words
  | .printArguments (some fmt) args count =>
    if args.isNone && count > 0 then some (Fault.nullPointer "format arguments").words
    else
      match passedRendering fmt args count with
      | .ok _ => none
      | .error words => some words
  | .printVariadic none _ => some (Text.Utf8.encode "null pointer passed as format")
  | .printVariadic (some fmt) args =>
    match p.platform.formatter.result fmt args with
    | .ok _ => none
    | .error words => some words
  | .abortArray array =>
    (p.array? array).map fun a => if a.unreadable then Action.unreadableMessage else a.bytes
  | .abort message => some message
  | .abortWith f => some f.words
  | .orAbort result => Action.lastWords? result
  | _ => none

/-- The complete output of a step that has come back with the given answer.  A step that does not
print has none, and neither has one that answers a fault or was not carried out. -/
def Step.output (p : Program) : Step → Answer → Bytes
  | .print bs, .done => bs
  | .printArray array, .unit => ((p.array? array).map PassedArray.bytes).getD []
  | .printFormatted fmt args, .written _ => (format fmt args).toOption.getD []
  | .printArguments (some fmt) args count, .unit =>
    (passedRendering fmt args count).toOption.getD []
  | .printVariadic (some fmt) args, .unit => (p.platform.formatter.result fmt args).toOption.getD []
  | _, _ => []

/-- What a step comes to. -/
inductive Step.Outcome (p : Program) (s : Step) : EStateM.Result Ending Program Answer → Prop
  /-- It comes back and has printed nothing. -/
  | quiet {a : Answer} {q : Program} (hwords : s.lastWords? p = none) (hout : s.output p a = [])
      (h : p.Reserved q) : Outcome p s (.ok a q)
  /-- It comes back and has printed its output. -/
  | printed {a : Answer} {q : Program} (hwords : s.lastWords? p = none)
      (h : Action.Printed (s.output p a) p q) : Outcome p s (.ok a q)
  /-- It reaches the fatal path. -/
  | fatal {words : Bytes} {q : Program} (hwords : s.lastWords? p = some words) (h : p.Reserved q) :
      Outcome p s (Action.abort words q)
  /-- It ends the process as it is told to. -/
  | terminated {policy : AbortPolicy} (hs : s = .terminate policy) :
      Outcome p s (.error (.ofPolicy policy) p)
  /-- It panics where nothing catches the panic. -/
  | panicked {fmt : Bytes} {args : List Format.Argument} (hs : s = .printFormatted fmt args) :
      Outcome p s (.error (.exited Action.panicStatus) p)

/-- A step that prints nothing, whatever it answers, is quiet or reaches the fatal path. -/
lemma Step.Outcome.of_quiet {r : EStateM.Result Ending Program Answer}
    (h : Action.Quiet p (s.lastWords? p) r) (hout : ∀ a, s.output p a = []) : s.Outcome p r := by
  generalize hwords : s.lastWords? p = m at h
  cases h with
  | returned hq => exact .quiet hwords (hout _) hq
  | fatal hq => exact .fatal hwords hq

/-! ## Steps that print -/

lemma withVariable_eq (id : Nat) (missing : Refusal) (act : Handle → Action Answer)
    (p : Program) :
    withVariable id missing act p =
      match p.pointee? id with
      | some x => act x p
      | none => .ok (.refused missing) p := by
  show (match p.pointee? id with | some x => act x | none => _ : Action Answer) p = _
  cases p.pointee? id <;> rfl

lemma withArray_eq (array : ArraySource) (act : PassedArray → Action Answer) (p : Program) :
    withArray array act p =
      match p.array? array with
      | some a => act a p
      | none => .ok (.refused .noBlock) p := by
  show (match p.array? array with | some a => act a | none => _ : Action Answer) p = _
  cases p.array? array <;> rfl

/-- A vector of arguments that a call can read comes to what its rendering comes to. -/
lemma printArguments_eq (fmt : Bytes) {args : Option (List Format.RawArgument)} {count : UInt64}
    (h : (args.isNone && count > 0) = false) :
    Action.printArguments (some fmt) args count =
      Action.printOrAbort (passedRendering fmt args count) := by
  cases hdecoded : Format.RawArgument.decodeAll 0 ((args.getD []).take count.toNat) with
  | error f =>
    rw [Action.printArguments, passedRendering]
    simp only [h, hdecoded]
    rfl
  | ok decoded =>
    rw [Action.printArguments_of_decoded h hdecoded, passedRendering, hdecoded]
    simp only
    cases format (untilNul fmt) decoded <;> rfl

lemma printBuffer_eq {address : UInt64} (haddress : address ≠ 0) (buffer : Bytes) (n : Nat) :
    Action.printBuffer address buffer n = Action.print (buffer.take n) := by
  have hread : PassedArray.unreadable ⟨⟨address, UInt64.ofNat n⟩, buffer.take n⟩ = false := by
    simp [PassedArray.unreadable, haddress]
  rw [Action.printBuffer, Action.printArray, hread]
  rfl

/-- A variadic call comes to what its host makes of the format. -/
lemma printThrough_eq {Arguments : Type} (host : Variadic.Host Arguments) (fmt : Bytes)
    (args : Arguments) :
    Action.printThrough host (some fmt) args = Action.printOrAbort (host.result fmt args) := by
  unfold Action.printThrough Variadic.Host.result
  simp only
  split
  · rfl
  · split
    · exact printBuffer_eq (by decide) _ _
    · split
      · rfl
      · next haddress => exact printBuffer_eq haddress _ _

/-- A call that prints and answers nothing. -/
lemma Step.Outcome.of_print {act : Action Unit} (out : Bytes) (hact : act = Action.print out)
    {tell : Answer} (hwords : s.lastWords? p = none) (hout : s.output p tell = out) :
    s.Outcome p ((do act; return tell) p) := by
  obtain ⟨q, hprint, hprinted⟩ := Action.print_eq out p
  rw [hact, Action.bind_of_ok hprint]
  rw [← hout] at hprinted
  exact .printed hwords hprinted

/-- A call that reaches the fatal path instead of printing. -/
lemma Step.Outcome.of_abort {act : Action Unit} (words : Bytes) (hact : act = Action.abort words)
    {tell : Answer} (hwords : s.lastWords? p = some words) :
    s.Outcome p ((do act; return tell) p) := by
  have hfatal : act p = Action.abort words p := by rw [hact]
  rw [Action.bind_of_error hfatal]
  exact .fatal hwords (.refl p)

/-- A call that prints its result or reaches the fatal path without one. -/
lemma Step.Outcome.of_result {act : Action Unit} {result : Except Bytes Bytes} {tell : Answer}
    (hwords : s.lastWords? p = match result with
      | .ok _ => none
      | .error words => some words)
    (hact : act = Action.printOrAbort result) (hout : s.output p tell = result.toOption.getD []) :
    s.Outcome p ((do act; return tell) p) := by
  cases result with
  | ok out => exact .of_print out hact hwords hout
  | error words => exact .of_abort words hact hwords

lemma outcome_printArray (array : ArraySource) (p : Program) :
    (Step.printArray array).Outcome p ((Step.printArray array).perform p) := by
  rw [Step.perform, withArray_eq]
  cases harray : p.array? array with
  | none =>
    refine .quiet ?_ rfl (.refl p)
    simp [Step.lastWords?, harray]
  | some a =>
    cases hread : a.unreadable with
    | true =>
      refine .of_abort (Fault.nullPointer "print array").words ?_ ?_
      · rw [Action.printArray, hread]
        rfl
      · simp [Step.lastWords?, harray, hread]
    | false =>
      refine .of_print a.bytes ?_ ?_ ?_
      · rw [Action.printArray, hread]
        rfl
      · simp [Step.lastWords?, harray, hread]
      · simp [Step.output, harray]

lemma outcome_printFormatted (fmt : Bytes) (args : List Format.Argument) (p : Program) :
    (Step.printFormatted fmt args).Outcome p ((Step.printFormatted fmt args).perform p) := by
  rw [Step.perform]
  cases hformat : format fmt args with
  | ok out =>
    rw [Action.printFormatted_of_ok hformat, bind_assoc]
    simp only [pure_bind]
    refine .of_print out rfl rfl ?_
    rw [Step.output, hformat]
    rfl
  | error f =>
    rw [Action.printFormatted_of_error hformat]
    cases f with
    | error e => exact .quiet rfl rfl (.refl p)
    | panic c => exact .panicked rfl

lemma outcome_printArguments (fmt : Option Bytes) (args : Option (List Format.RawArgument))
    (count : UInt64) (p : Program) :
    (Step.printArguments fmt args count).Outcome p
      ((Step.printArguments fmt args count).perform p) := by
  rw [Step.perform]
  cases fmt with
  | none => exact .of_abort _ rfl rfl
  | some fmt =>
    cases hargs : args.isNone && count > 0 with
    | true =>
      refine .of_abort (Fault.nullPointer "format arguments").words ?_ ?_
      · rw [Action.printArguments]
        simp only [hargs]
        rfl
      · simp [Step.lastWords?, hargs]
    | false =>
      refine .of_result ?_ (printArguments_eq fmt hargs) rfl
      rw [Step.lastWords?, hargs]
      rfl

/-- The formatter is that of the platform. -/
lemma perform_printVariadic (fmt : Option Bytes) (args : List Variadic.Argument) (p : Program) :
    (Step.printVariadic fmt args).perform p =
      (do Action.printThrough p.platform.formatter fmt args; return .unit : Action Answer) p := by
  rw [Step.perform, Action.printVariadic, bind_assoc, Action.get_bind]

lemma outcome_printVariadic (fmt : Option Bytes) (args : List Variadic.Argument) (p : Program) :
    (Step.printVariadic fmt args).Outcome p ((Step.printVariadic fmt args).perform p) := by
  rw [perform_printVariadic]
  cases fmt with
  | none => exact .of_abort _ rfl rfl
  | some fmt => exact .of_result rfl (printThrough_eq p.platform.formatter fmt args) rfl

/-! ## Steps that do not print -/

lemma quiet_withVariable {missing : Refusal} {act : Handle → Action Answer}
    {m : Handle → Option Bytes} (h : ∀ x, Action.Quiet p (m x) (act x p)) :
    Action.Quiet p ((p.pointee? id).bind m) (withVariable id missing act p) := by
  rw [withVariable_eq]
  cases p.pointee? id with
  | none => exact .returned (.refl p)
  | some x => exact h x

lemma quiet_withArray {array : ArraySource} {act : PassedArray → Action Answer}
    {m : PassedArray → Option Bytes} (h : ∀ a, Action.Quiet p (m a) (act a p)) :
    Action.Quiet p ((p.array? array).bind m) (withArray array act p) := by
  rw [withArray_eq]
  cases p.array? array with
  | none => exact .returned (.refl p)
  | some a => exact h a

lemma quiet_point (id : Nat) (x : Handle) (p : Program) : Action.Quiet p none (point id x p) :=
  .returned ((p.sameDiagnostics_pointers (p.pointers.set id x)).reserved rfl)

lemma quiet_store (x : Handle) (offset : UInt64) (bs : Bytes) (p : Program) :
    Action.Quiet p none (store x offset bs p) :=
  .returned ((p.sameDiagnostics_heap (p.heap.write ⟨x, offset⟩ bs)).reserved rfl)

/-- Pointers to places that overlap are not null. -/
lemma nullFault?_of_overlapping {t : Action.Transfer} {d s : Option Location} {count : UInt64}
    (h : overlapping d s count = true) : t.nullFault? d s = none := by
  rcases d with _ | d
  · simp [overlapping] at h
  rcases s with _ | s
  · simp [overlapping] at h
  · rfl

lemma quiet_transfer (t : Action.Transfer) (dest source : Option Place) (count : UInt64)
    (p : Program) :
    Action.Quiet p ((Step.transfer t dest source count).lastWords? p)
      (transfer t dest source count p) := by
  unfold transfer
  refine Action.quiet_get ?_
  rw [Step.lastWords?]
  cases p.location? dest with
  | none => exact .returned (.refl p)
  | some d =>
    cases p.location? source with
    | none => exact .returned (.refl p)
    | some s =>
      -- the pointers are looked at only if the copy is carried out and has something to copy
      simp only
      by_cases hoverlap : (decide (t = .copy) && overlapping d s count) = true
      · rw [if_pos hoverlap, nullFault?_of_overlapping (Bool.and_eq_true_iff.1 hoverlap).2]
        simp only [Option.map_none, ite_self]
        exact .returned (.refl p)
      rw [if_neg hoverlap]
      by_cases hcount : count = 0
      · subst hcount
        exact .returned (.refl p)
      have hpos : count > 0 := UInt64.pos_iff_ne_zero.2 hcount
      cases p.reaches count d && p.reaches count s with
      | false =>
        simp only [hpos]
        exact .returned (.refl p)
      | true =>
        simp only [hpos]
        exact (Action.quiet_transfer t d s hcount p).andThen fun _ q => .returned (.refl q)

/-! ## All steps -/

/-- Every step prints its output and comes back, or reaches the fatal path with its last words, or
ends the process as it is told to or by a panic, and has printed nothing. -/
theorem perform_outcome (s : Step) (p : Program) : s.Outcome p (s.perform p) := by
  -- a step that does not print is as quiet as the action that it performs
  cases s with
  | storeArguments raw =>
    refine .of_quiet ?_ fun _ => rfl
    exact (Action.quiet_storeArguments raw p).map fun _ => Answer.done
  | argumentCount =>
    refine .of_quiet ?_ fun _ => rfl
    exact (Action.quiet_argumentCount p).map Answer.number
  | argument n =>
    refine .of_quiet ?_ fun _ => rfl
    exact (Action.quiet_argument n p).map Answer.argument
  | captured =>
    refine .of_quiet ?_ fun _ => rfl
    exact .step (Action.captured_eq p) (.refl p) (.returned (.refl p))
  | capture args =>
    refine .of_quiet ?_ fun _ => rfl
    obtain ⟨q, hq, hreserved⟩ := Action.capture_eq ⟨args⟩ p
    exact .step hq hreserved (.returned (.refl q))
  | captureSystem =>
    refine .of_quiet ?_ fun _ => rfl
    obtain ⟨q, hq, hreserved⟩ := Action.capture_eq ⟨p.systemArguments⟩ p
    exact .step hq hreserved (.returned (.refl q))
  | allocate id size count =>
    refine .of_quiet ?_ fun _ => rfl
    exact (Action.quiet_allocate size count p).andThen (quiet_point id)
  | reallocate id length =>
    refine .of_quiet ?_ fun _ => rfl
    exact Action.quiet_get
      ((Action.quiet_reallocate (p.pointee? id) length p).andThen (quiet_point id))
  | free id =>
    refine .of_quiet ?_ fun _ => rfl
    refine Action.quiet_get ?_
    refine (Action.quiet_free (p.pointee? id) p).andThen fun _ q => ?_
    exact .returned ((q.sameDiagnostics_pointers (q.pointers.erase id)).reserved rfl)
  | poke id offset bs =>
    refine .of_quiet ?_ fun _ => rfl
    rw [Step.perform, withVariable_eq]
    cases p.pointee? id with
    | none => exact .returned (.refl p)
    | some x =>
      refine Action.quiet_get ?_
      by_cases hfits : offset.toNat + bs.length ≤ (p.heap.ofRaw x).length.toNat
      · rw [if_pos hfits]
        exact quiet_store x offset bs p
      · rw [if_neg hfits]
        exact .returned (.refl p)
  | read id =>
    refine .of_quiet ?_ fun _ => rfl
    rw [Step.perform, withVariable_eq]
    cases p.pointee? id with
    | none => exact .returned (.refl p)
    | some x => exact .returned (.refl p)
  | transfer t dest source count =>
    exact .of_quiet (quiet_transfer t dest source count p) fun _ => rfl
  | counters room =>
    refine .of_quiet ?_ fun _ => rfl
    exact (Action.quiet_counters room p).map Answer.counters
  | index array i elemSize =>
    refine .of_quiet ?_ fun _ => rfl
    refine quiet_withArray fun a => ?_
    exact (Action.quiet_orAbort (a.view.index i elemSize) p).map
      fun address => Answer.offset (address - a.view.address)
  | storeAt id i elemSize byte =>
    refine .of_quiet ?_ fun _ => rfl
    refine quiet_withVariable fun x => ?_
    refine Action.quiet_get ?_
    exact (Action.quiet_orAbort _ p).andThen
      fun address q => quiet_store x (address - somewhere) [byte] q
  | makeView v => exact .quiet rfl rfl (.refl p)
  | printArray array => exact outcome_printArray array p
  | print bs => exact .of_print bs rfl rfl rfl
  | printFormatted fmt args => exact outcome_printFormatted fmt args p
  | printArguments fmt args count => exact outcome_printArguments fmt args count p
  | printVariadic fmt args => exact outcome_printVariadic fmt args p
  | abortArray array =>
    refine .of_quiet ?_ fun _ => rfl
    rw [Step.lastWords?, Option.map_eq_bind]
    exact quiet_withArray fun a => .fatal (.refl p)
  | abort message => exact .fatal rfl (.refl p)
  | abortWith f => exact .fatal rfl (.refl p)
  | orAbort result =>
    refine .of_quiet ?_ fun _ => rfl
    exact (Action.quiet_orAbort result p).map fun n => Answer.number n.toNat
  | terminate policy => exact .terminated rfl
  | startLogging => exact .quiet rfl rfl p.reserved_startLogging
  | settings => exact .quiet rfl rfl p.reserved_loadSettings
  | readSettings =>
    refine .of_quiet ?_ fun _ => rfl
    refine Action.quiet_get ?_
    cases Settings.load p.environment.lookup with
    | ok s => exact .returned (.refl p)
    | error e => exact .returned (.refl p)

end Program

end RuntimeSupport
