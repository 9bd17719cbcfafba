import RuntimeSupport.Proofs.Program.Printing

/-!
# Printing with a formatter of the host

Whichever buffer has received the rendering of a variadic call, the call prints the whole rendering,
if the host renders (`Host.Renders`) and has memory for the buffer.  The main statement is
`printThrough_delivers`.
-/

namespace RuntimeSupport

namespace Action

open Variadic

variable {Arguments : Type} {host : Host Arguments} {fmt rendering : Bytes} {args : Arguments}
  {p : Program}

/-- An action ends the process with given last words and has printed nothing. -/
def DiesUnprinted {α : Type} (act : Action α) (p : Program) (words : Bytes) : Prop :=
  act = abort words ∧ ∃ q, act p = .error (.ofPolicy p.effective.abort) q ∧ q.sink = p.sink

lemma diesUnprinted_abort {α : Type} (hp : p.sink.Settled) (words : Bytes) :
    DiesUnprinted (abort words : Action α) p words := by
  obtain ⟨q, habort, hsink⟩ := abort_eq (α := α) words p
  exact ⟨rfl, q, habort, hsink.trans hp.flush⟩

lemma printThrough_of_ok (h : host.result fmt args = .ok rendering) :
    printThrough host (some fmt) args = print rendering := by
  rw [Program.printThrough_eq, h]
  rfl

lemma diesUnprinted_printThrough {words : Bytes} (hp : p.sink.Settled)
    (h : host.result fmt args = .error words) :
    DiesUnprinted (printThrough host (some fmt) args) p words := by
  rw [Program.printThrough_eq, h]
  exact diesUnprinted_abort hp words

end Action

namespace Program

open RuntimeSupport.Action Variadic

variable {platform : Platform} {env : Environment} {system : List Bytes} {steps : List Step}
  {p : Program}

lemma sink_after? (hrun : (start platform env system .working).after? steps = some p) :
    p.sink = ⟨.working, [], p.sink.delivered⟩ := by
  obtain ⟨printed, hp⟩ : ∃ printed, p.sink = ⟨.working, [], printed⟩ :=
    after?_preserves (P := fun p => ∃ printed, p.sink = ⟨.working, [], printed⟩)
      (fun ⟨_, hp⟩ hs => ⟨_, perform_ok_working hp hs⟩) ⟨[], rfl⟩ hrun
  rw [hp]

/-- Whatever renders a format, and however long the rendering is, a variadic call prints all of it
and returns; without a rendering, a format or memory for the buffer it ends the process and prints
nothing.  The calls of a script do so with the formatter of the platform, and the one of this
library renders. -/
theorem printThrough_delivers {Arguments : Type} (host : Host Arguments)
    (hrun : (start platform env system .working).after? steps = some p) :
    (∀ fmt args rendering, host.Renders fmt args rendering →
      (smallSize ≤ rendering.length → host.allocate (rendering.length + 1) ≠ 0) →
        printThrough host (some fmt) args p =
          .ok () { p with sink := ⟨.working, [], p.sink.delivered ++ rendering⟩ }) ∧
    (∀ fmt args, (host.format smallSize fmt args).1 < 0 →
      DiesUnprinted (printThrough host (some fmt) args) p
        (Text.Utf8.encode "au_printf: invalid format")) ∧
    (∀ args, DiesUnprinted (printThrough host none args) p
      (Text.Utf8.encode "null pointer passed as format")) ∧
    (∀ fmt args rendering, host.Renders fmt args rendering →
      smallSize ≤ rendering.length → host.allocate (rendering.length + 1) = 0 →
        DiesUnprinted (printThrough host (some fmt) args) p
          (Text.Utf8.encode "au_printf: out of memory")) ∧
    (∀ fmt args, (Step.printVariadic fmt args).perform p =
      (do printThrough platform.formatter fmt args; return .unit : Action Answer) p) ∧
    ∀ fmt args rendering, render (untilNul fmt) args = some rendering →
      Host.own.Renders fmt args rendering := by
  have hp := sink_after? hrun
  have hsettled : p.sink.Settled := Sink.settled_of_working hp
  refine ⟨?_, ?_, ?_, ?_, ?_, fun _ _ _ => Host.renders_own⟩
  · intro fmt args rendering hrenders hmemory
    have hresult := hrenders.result_eq
    rw [if_neg fun hnone => hmemory hnone.1 hnone.2] at hresult
    rw [printThrough_of_ok hresult]
    exact print_of_working hp rendering
  · intro fmt args hnegative
    exact diesUnprinted_printThrough hsettled (Host.result_of_negative hnegative)
  · intro args
    exact diesUnprinted_abort hsettled _
  · intro fmt args rendering hrenders hlong hnone
    have hresult := hrenders.result_eq
    rw [if_pos ⟨hlong, hnone⟩] at hresult
    exact diesUnprinted_printThrough hsettled hresult
  · intro fmt args
    have hplatform : p.platform = platform := platform_after? hrun
    rw [perform_printVariadic, hplatform]

/-- A rendering of 256 bytes that starts with a NUL, which is one too long for the small buffer; and
a width that cannot be expressed. -/
theorem printThrough_delivers_long :
    let p := start .standard .empty [] .working
    let rendering := 0 :: (List.replicate 254 0x20 ++ [0x37])
    rendering.length = smallSize ∧
      printThrough Host.own (some (Ascii.bytes "%c%255u")) [.word 0, .word 7] p =
        .ok () { p with sink := ⟨.working, [], p.sink.delivered ++ rendering⟩ } ∧
      DiesUnprinted (printThrough Host.own (some (Ascii.bytes "%2147483648u")) [.word 7]) p
        (Text.Utf8.encode "au_printf: invalid format") := by
  intro p rendering
  have hrun : p.after? [] = some p := rfl
  obtain ⟨hprints, hdies, -, -, -, hown⟩ := printThrough_delivers Host.own hrun
  refine ⟨by decide +kernel, ?_, ?_⟩
  · refine hprints _ _ rendering (hown _ _ _ ?_) fun _ => Host.allocate_own_ne_zero _
    decide +kernel
  · refine hdies _ _ ?_
    decide +kernel

end Program

end RuntimeSupport
