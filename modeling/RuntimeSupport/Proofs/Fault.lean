import RuntimeSupport.Fault
import RuntimeSupport.Proofs.Text.Quoted

/-!
# A message tells which fault it is about

Messages open with fixed words, and by these the kind of a fault can be told (`openingIn_message`);
only two kinds of errors in a format share an opening.  What remains is to tell apart the faults of
one kind, by the numbers, characters and texts that the message shows between fixed words.

The main statement is `Fault.message_injective`.
-/

namespace RuntimeSupport

open Numeral

/-- The number of the first of some openings with which a text starts, and the number of openings if
it starts with none of them. -/
def openingIn (openings : List String) (cs : List Char) : Nat :=
  openings.findIdx fun o => o.toList.isPrefixOf cs

lemma openingIn_eq_length {openings : List String} {cs : List Char}
    (h : ∀ o ∈ openings, o.toList.isPrefixOf cs = false) :
    openingIn openings cs = openings.length :=
  List.findIdx_eq_length.2 h

lemma isPrefixOf_cons_eq_false {a c : Char} (h : a ≠ c) (as cs : List Char) :
    (a :: as).isPrefixOf (c :: cs) = false := by
  rw [List.isPrefixOf_cons_cons, beq_eq_false_iff_ne.2 h, Bool.false_and]

lemma toList_toString (c : Char) : c.toString.toList = [c] := String.toList_singleton c

/-- Texts between the same words are the same if all of it is. -/
lemma append_between_inj {a b s t : String} (h : a ++ s ++ b = a ++ t ++ b) : s = t :=
  String.append_right_inj a |>.1 (String.append_left_inj b |>.1 h)

/-! ## Settings -/

namespace Settings.Error

/-- How messages open.  An exit code that is out of range is shown as a number where one that is no
integer is quoted, so its message starts with none of these. -/
def openings : List String := ["unknown abort strategy ", "exit code \""]

lemma openingIn_message (e : Settings.Error) : openingIn openings e.message.toList = e.ctorIdx := by
  cases e with
  | unknownAbortPolicy value =>
    unfold message
    simp only [String.toList_append, List.append_assoc]
    rfl
  | invalidExitCode value =>
    unfold message Text.quote
    simp only [String.toList_append, List.append_assoc, String.toList_ofList, List.cons_append]
    rfl
  | exitCodeOutOfRange code =>
    obtain ⟨c, cs, hcs, hc⟩ := exists_toList_signedDecimal code.toInt
    have hquote : '"' ≠ c := by
      rintro rfl
      exact absurd hc (by decide)
    unfold message
    simp only [String.toList_append, List.append_assoc, hcs, List.cons_append]
    refine openingIn_eq_length (List.forall_mem_cons.2 ⟨rfl, List.forall_mem_singleton.2 ?_⟩)
    exact isPrefixOf_cons_eq_false hquote [] _

theorem message_injective : Function.Injective Settings.Error.message := by
  intro e₁ e₂ h
  have hkind : e₁.ctorIdx = e₂.ctorIdx := by
    rw [← openingIn_message, h, openingIn_message]
  cases e₁ with
  | unknownAbortPolicy value =>
    cases e₂ with
    | unknownAbortPolicy value' =>
      have hquote : Text.quote value = Text.quote value' := append_between_inj h
      rw [Text.quote_injective hquote]
    | _ => cases hkind
  | invalidExitCode value =>
    cases e₂ with
    | invalidExitCode value' =>
      have hquote : Text.quote value = Text.quote value' := append_between_inj h
      rw [Text.quote_injective hquote]
    | _ => cases hkind
  | exitCodeOutOfRange code =>
    cases e₂ with
    | exitCodeOutOfRange code' =>
      have hcode : signedDecimal code.toInt = signedDecimal code'.toInt :=
        append_between_inj h
      rw [Int32.toInt_inj.1 (signedDecimal_injective hcode)]
    | _ => cases hkind

end Settings.Error

/-! ## Formats -/

namespace Format.Error

/-- How messages open.  That of unused arguments opens with their number. -/
def openings : List String :=
  ["missing argument for directive ", "argument ", "unknown conversion %",
    "incomplete directive at byte "]

/-- The number of the opening of a message.  Two kinds of errors share one. -/
def opening : Error → Nat
  | missingArgument _ => 0
  | argumentMismatch .. => 1
  | unknownArgumentKind .. => 1
  | unknownConversion .. => 2
  | incompleteDirective _ => 3
  | unusedArguments .. => 4

lemma openingIn_message (e : Error) : openingIn openings e.message.toList = e.opening := by
  cases e with
  | missingArgument position =>
    unfold message
    simp only [String.toList_append]
    rfl
  | argumentMismatch position conversion =>
    unfold message
    simp only [String.toList_append, List.append_assoc]
    rfl
  | unknownConversion conversion offset =>
    unfold message
    simp only [String.toList_append, List.append_assoc]
    rfl
  | incompleteDirective offset =>
    unfold message
    simp only [String.toList_append]
    rfl
  | unknownArgumentKind position kind =>
    unfold message
    simp only [String.toList_append, List.append_assoc]
    rfl
  | unusedArguments used supplied =>
    obtain ⟨c, cs, hcs, hc⟩ := exists_toList_decimal supplied
    unfold message
    simp only [String.toList_append, List.append_assoc, hcs, List.cons_append]
    refine openingIn_eq_length fun o ho => ?_
    -- no opening starts with a digit
    have hdigit : ∀ o ∈ openings, ∃ a as, o.toList = a :: as ∧ a.isDigit = false := by
      simp [openings]
    obtain ⟨a, as, has, ha⟩ := hdigit o ho
    rw [has]
    refine isPrefixOf_cons_eq_false ?_ as _
    rintro rfl
    rw [hc] at ha
    cases ha

/-- The two kinds of errors that share an opening differ behind the number that follows it. -/
lemma mismatch_ne_unknownKind (p q : Nat) (conversion : Char) (kind : Int32) :
    (argumentMismatch p conversion).message ≠ (unknownArgumentKind q kind).message := by
  intro h
  have hlist := congrArg String.toList h
  unfold message at hlist
  simp only [String.toList_append, List.append_assoc] at hlist
  obtain ⟨-, hrest⟩ := text_append_inj (List.append_cancel_left hlist) rfl rfl
  -- " cannot" and " has"
  cases hrest

theorem message_injective : Function.Injective Error.message := by
  intro e₁ e₂ h
  have hkind : e₁.opening = e₂.opening := by
    rw [← openingIn_message, h, openingIn_message]
  have hlist := congrArg String.toList h
  cases e₁ with
  | missingArgument p =>
    cases e₂ with
    | missingArgument q =>
      rw [text_injective .decimal (String.append_right_inj _ |>.1 h)]
    | _ => cases hkind
  | argumentMismatch p c =>
    cases e₂ with
    | argumentMismatch q d =>
      unfold message at hlist
      simp only [String.toList_append, List.append_assoc, toList_toString] at hlist
      obtain ⟨rfl, hrest⟩ := text_append_inj (List.append_cancel_left hlist) rfl rfl
      have hchar : [c] = [d] := List.append_cancel_left hrest
      rw [List.singleton_inj.1 hchar]
    | unknownArgumentKind q kind => exact absurd h (mismatch_ne_unknownKind p q c kind)
    | _ => cases hkind
  | unknownConversion c p =>
    cases e₂ with
    | unknownConversion d q =>
      unfold message at hlist
      simp only [String.toList_append, List.append_assoc, toList_toString] at hlist
      have hchar : c :: _ = d :: _ := List.append_cancel_left hlist
      obtain ⟨rfl, hrest⟩ := List.cons.inj hchar
      have hnumeral := String.toList_inj.1 (List.append_cancel_left hrest)
      rw [text_injective .decimal hnumeral]
    | _ => cases hkind
  | incompleteDirective p =>
    cases e₂ with
    | incompleteDirective q =>
      rw [text_injective .decimal (String.append_right_inj _ |>.1 h)]
    | _ => cases hkind
  | unknownArgumentKind p kind =>
    cases e₂ with
    | unknownArgumentKind q kind' =>
      unfold message at hlist
      simp only [String.toList_append, List.append_assoc] at hlist
      obtain ⟨rfl, hrest⟩ := text_append_inj (List.append_cancel_left hlist) rfl rfl
      have hnumeral := String.toList_inj.1 (List.append_cancel_left hrest)
      rw [Int32.toInt_inj.1 (signedDecimal_injective hnumeral)]
    | argumentMismatch q c => exact absurd h.symm (mismatch_ne_unknownKind q p c kind)
    | _ => cases hkind
  | unusedArguments used supplied =>
    cases e₂ with
    | unusedArguments used' supplied' =>
      unfold message at hlist
      simp only [String.toList_append, List.append_assoc] at hlist
      obtain ⟨rfl, hrest⟩ := text_append_inj hlist rfl rfl
      obtain ⟨rfl, -⟩ := text_append_inj (List.append_cancel_left hrest) rfl rfl
      rfl
    | _ => cases hkind

end Format.Error

/-! ## Faults -/

namespace Fault

/-- How messages open. -/
def openings : List String :=
  ["array index out of bounds: index ", "element size must be non-zero",
    "allocation size overflow: ", "allocation of ", "argument index ",
    "command-line arguments already captured", "command-line arguments queried before capture",
    "invalid argument count ", "null pointer passed as ", "format error: ",
    "configuration error: "]

lemma openingIn_message (f : Fault) : openingIn openings f.message.toList = f.ctorIdx := by
  cases f with
  | zeroElementSize => rfl
  | argumentsAlreadyCaptured => rfl
  | argumentsNotCaptured => rfl
  | _ =>
    unfold message
    simp only [String.toList_append, List.append_assoc]
    rfl

theorem message_injective : Function.Injective Fault.message := by
  intro f₁ f₂ h
  have hkind : f₁.ctorIdx = f₂.ctorIdx := by
    rw [← openingIn_message, h, openingIn_message]
  have hlist := congrArg String.toList h
  cases f₁ with
  | indexOutOfBounds index elemSize size =>
    cases f₂ with
    | indexOutOfBounds index' elemSize' size' =>
      unfold message at hlist
      simp only [String.toList_append, List.append_assoc] at hlist
      obtain ⟨rfl, helem⟩ := word_append_inj (List.append_cancel_left hlist) rfl rfl
      obtain ⟨rfl, hsize⟩ := word_append_inj (List.append_cancel_left helem) rfl rfl
      obtain ⟨rfl, -⟩ := word_append_inj (List.append_cancel_left hsize) rfl rfl
      rfl
    | _ => cases hkind
  | zeroElementSize =>
    cases f₂ with
    | zeroElementSize => rfl
    | _ => cases hkind
  | sizeOverflow count elemSize =>
    cases f₂ with
    | sizeOverflow count' elemSize' =>
      unfold message at hlist
      simp only [String.toList_append, List.append_assoc] at hlist
      obtain ⟨rfl, helem⟩ := word_append_inj (List.append_cancel_left hlist) rfl rfl
      obtain ⟨rfl, -⟩ := word_append_inj (List.append_cancel_left helem) rfl rfl
      rfl
    | _ => cases hkind
  | allocationFailed bytes =>
    cases f₂ with
    | allocationFailed bytes' =>
      have hnumeral : word bytes = word bytes' := append_between_inj h
      rw [word_injective hnumeral]
    | _ => cases hkind
  | argumentOutOfRange index count =>
    cases f₂ with
    | argumentOutOfRange index' count' =>
      unfold message at hlist
      simp only [String.toList_append, List.append_assoc] at hlist
      obtain ⟨rfl, hcount⟩ := text_append_inj (List.append_cancel_left hlist) rfl rfl
      obtain ⟨rfl, -⟩ := text_append_inj (List.append_cancel_left hcount) rfl rfl
      rfl
    | _ => cases hkind
  | argumentsAlreadyCaptured =>
    cases f₂ with
    | argumentsAlreadyCaptured => rfl
    | _ => cases hkind
  | argumentsNotCaptured =>
    cases f₂ with
    | argumentsNotCaptured => rfl
    | _ => cases hkind
  | invalidArgumentCount count =>
    cases f₂ with
    | invalidArgumentCount count' =>
      have hnumeral : signedDecimal count.toInt = signedDecimal count'.toInt :=
        String.append_right_inj _ |>.1 h
      rw [Int64.toInt_inj.1 (signedDecimal_injective hnumeral)]
    | _ => cases hkind
  | nullPointer what =>
    cases f₂ with
    | nullPointer what' => rw [String.append_right_inj _ |>.1 h]
    | _ => cases hkind
  | format e =>
    cases f₂ with
    | format e' => rw [Format.Error.message_injective (String.append_right_inj _ |>.1 h)]
    | _ => cases hkind
  | settings e =>
    cases f₂ with
    | settings e' => rw [Settings.Error.message_injective (String.append_right_inj _ |>.1 h)]
    | _ => cases hkind

end Fault

end RuntimeSupport
