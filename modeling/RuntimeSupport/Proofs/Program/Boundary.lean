import Mathlib.Data.List.Forall2
import Mathlib.Data.List.TakeWhile
import Mathlib.Tactic.SplitIfs
import RuntimeSupport.Proofs.Program.Run

/-!
# Formats at the boundary to compiled programs

A compiled program passes the arguments of a format as tagged records, which are decoded before the
format is looked at.  The main statement is `printArguments_agrees`: a call does with passed
arguments what `Action.printFormatted` does with the arguments themselves, and the first record that
cannot be decoded ends the process before anything is printed.
-/

namespace RuntimeSupport

namespace Format.RawArgument

variable {r : RawArgument} {rs : List RawArgument} {a : Argument} {as : List Argument}

/-- Whether a record passes an argument.  Integers and runs of bytes are passed as `ofArgument`
says; for a character or an address, the tag and the value are all that counts. -/
inductive Passes : RawArgument → Argument → Prop
  | int (v : Int64) : Passes (ofArgument (.int v)) (.int v)
  | uint (v : UInt64) : Passes (ofArgument (.uint v)) (.uint v)
  | bytes {bs : Bytes} (h : bs.length < 2 ^ 64) : Passes (ofArgument (.bytes bs)) (.bytes bs)
  | char {r : RawArgument} (h : r.kind = 2) : Passes r (.char r.value.toUInt8)
  | pointer {r : RawArgument} (h : r.kind = 4) : Passes r (.pointer r.value)

/-- Whether a record has a tag that no kind of argument has. -/
def Unknown (r : RawArgument) : Prop := r.kind < 0 ∨ 4 < r.kind

instance (r : RawArgument) : Decidable r.Unknown :=
  inferInstanceAs (Decidable (r.kind < 0 ∨ 4 < r.kind))

/-- Whether a record promises bytes but points nowhere. -/
def Dangling (r : RawArgument) : Prop := r.kind = 3 ∧ r.bytes = none ∧ r.length ≠ 0

/-- Whether a record cannot be decoded. -/
def Undecodable (r : RawArgument) : Prop := r.Unknown ∨ r.Dangling

/-- What is wrong with a record at the given position that cannot be decoded. -/
def fault (position : Nat) (r : RawArgument) : Fault :=
  if r.Unknown then .format (.unknownArgumentKind position r.kind)
  else .nullPointer "format string argument"

/-! ## One record -/

lemma decode_of_passes (h : Passes r a) (position : Nat) : r.decode position = .ok a := by
  cases h with
  | int v =>
    show Except.ok (Argument.int v.toUInt64.toInt64) = _
    rw [Int64.toInt64_toUInt64]
  | uint v => rfl
  | @bytes bs hbs =>
    have hlength : (Word.ofLength bs).toNat = bs.length := by
      rw [Word.toNat_ofLength]
      omega
    show Except.ok (Argument.bytes (bs.take (Word.ofLength bs).toNat)) = _
    rw [hlength, List.take_length]
  | char hkind =>
    rw [decode, hkind]
    rfl
  | pointer hkind =>
    rw [decode, hkind]
    rfl

lemma unknown_iff : r.Unknown ↔
    r.kind ≠ 0 ∧ r.kind ≠ 1 ∧ r.kind ≠ 2 ∧ r.kind ≠ 3 ∧ r.kind ≠ 4 := by
  unfold Unknown
  simp only [Int32.lt_iff_toInt_lt, ne_eq, ← Int32.toInt_inj, Int32.reduceToInt]
  omega

lemma decode_of_unknown (h : r.Unknown) (position : Nat) :
    r.decode position = .error (r.fault position) := by
  obtain ⟨h0, h1, h2, h3, h4⟩ := unknown_iff.1 h
  rw [decode, if_neg h0, if_neg h1, if_neg h2, if_neg h3, if_neg h4, fault, if_pos h]

lemma decode_of_dangling (h : r.Dangling) (position : Nat) :
    r.decode position = .error (r.fault position) := by
  obtain ⟨hkind, hbytes, hlength⟩ := h
  have hknown : ¬ r.Unknown := by
    rw [Unknown, hkind]
    decide
  have hrun : r.run = .error (.nullPointer "format string argument") := by
    simp only [run, hbytes, if_neg hlength]
  rw [decode, hkind, hrun, fault, if_neg hknown]
  rfl

lemma decode_of_undecodable (h : r.Undecodable) (position : Nat) :
    r.decode position = .error (r.fault position) := by
  rcases h with hunknown | hdangling
  · exact decode_of_unknown hunknown position
  · exact decode_of_dangling hdangling position

lemma decode_of_not_undecodable (h : ¬ r.Undecodable) (position : Nat) :
    ∃ a, r.decode position = .ok a := by
  have hrun : r.kind = 3 → ∃ bs, r.run = .ok bs := by
    intro hkind
    unfold run
    cases hb : r.bytes with
    | some bs => exact ⟨_, rfl⟩
    | none =>
      have hlength : r.length = 0 := by
        by_contra hne
        exact h (.inr ⟨hkind, hb, hne⟩)
      exact ⟨[], if_pos hlength⟩
  unfold decode
  split_ifs with h0 h1 h2 h3 h4
  · exact ⟨_, rfl⟩
  · exact ⟨_, rfl⟩
  · exact ⟨_, rfl⟩
  · obtain ⟨bs, hbs⟩ := hrun h3
    rw [hbs]
    exact ⟨_, rfl⟩
  · exact ⟨_, rfl⟩
  · exact absurd (.inl (unknown_iff.2 ⟨h0, h1, h2, h3, h4⟩)) h

/-! ## All records -/

/-- The first record that cannot be decoded. -/
structure FirstUndecodable (rs : List RawArgument) (i : Nat) (r : RawArgument) : Prop where
  get : rs[i]? = some r
  undecodable : r.Undecodable
  first : ∀ j r', j < i → rs[j]? = some r' → ¬ r'.Undecodable

lemma decodeAll_of_passes (h : List.Forall₂ Passes rs as) (position : Nat) :
    decodeAll position rs = .ok as := by
  induction h generalizing position with
  | nil => rfl
  | cons hr _ ih =>
    rw [decodeAll, decode_of_passes hr position, ih (position + 1)]
    rfl

lemma FirstUndecodable.head (h : r.Undecodable) : FirstUndecodable (r :: rs) 0 r where
  get := rfl
  undecodable := h
  first j _ hj := absurd hj (Nat.not_lt_zero j)

lemma FirstUndecodable.tail {r' : RawArgument} {i : Nat} (h : ¬ r.Undecodable)
    (hrest : FirstUndecodable rs i r') : FirstUndecodable (r :: rs) (i + 1) r' where
  get := hrest.get
  undecodable := hrest.undecodable
  first := by
    rintro (_ | j) r'' hj hr''
    · cases hr''
      exact h
    · exact hrest.first j r'' (Nat.lt_of_succ_lt_succ hj) hr''

lemma decodeAll_of_undecodable (h : ∃ r ∈ rs, r.Undecodable) (position : Nat) :
    ∃ i r, FirstUndecodable rs i r ∧ decodeAll position rs = .error (r.fault (position + i)) := by
  induction rs generalizing position with
  | nil =>
    obtain ⟨r, hr, -⟩ := h
    cases hr
  | cons r rs ih =>
    by_cases hr : r.Undecodable
    · refine ⟨0, r, .head hr, ?_⟩
      rw [decodeAll, decode_of_undecodable hr position]
      rfl
    · have hrest : ∃ r ∈ rs, r.Undecodable := by
        obtain ⟨r', hmem, hr'⟩ := h
        rcases List.mem_cons.1 hmem with rfl | hmem
        · exact absurd hr' hr
        · exact ⟨r', hmem, hr'⟩
      obtain ⟨i, r', hfirst, herror⟩ := ih hrest (position + 1)
      refine ⟨i + 1, r', hfirst.tail hr, ?_⟩
      obtain ⟨a, ha⟩ := decode_of_not_undecodable hr position
      rw [decodeAll, ha, herror, Nat.add_assoc, Nat.add_comm 1 i]
      rfl

end Format.RawArgument

open Format (Argument RawArgument)
open Format.RawArgument
open Program

lemma untilNul_eq_self {fmt : Bytes} (h : 0 ∉ fmt) : untilNul fmt = fmt := by
  rw [untilNul, List.takeWhile_eq_self_iff]
  intro b hb
  simp only [decide_eq_true_eq]
  rintro rfl
  exact h hb

/-- Whether a call of a compiled program comes to the same as printing directly: it prints the same
and comes back, or it ends the process with the failure as its last words, nothing having been
printed.
-/
def Agrees (p : Program) (direct : EStateM.Result Ending Program (Except Format.Failure Nat))
    (call : EStateM.Result Ending Program Unit) : Prop :=
  match direct with
  | .ok (.ok _) q => call = .ok () q
  | .ok (.error f) q => q = p ∧ call = Action.abort f.words p
  | .error _ _ => False

lemma agrees_of_decoded {fmt : Bytes} {decoded : List Argument} {args : Option (List RawArgument)}
    {count : UInt64} (hfmt : 0 ∉ fmt) (hnull : (args.isNone && count > 0) = false)
    (hdecoded : decodeAll 0 ((args.getD []).take count.toNat) = .ok decoded) (p : Program) :
    Agrees p (Action.printFormatted fmt decoded p)
      (Action.printArguments (some fmt) args count p) := by
  rw [Action.printArguments_of_decoded hnull hdecoded, untilNul_eq_self hfmt]
  cases hformat : format fmt decoded with
  | ok out =>
    obtain ⟨q, hprint, -⟩ := Action.print_eq out p
    rw [Action.printFormatted_of_ok hformat, Action.bind_of_ok hprint]
    exact hprint
  | error f =>
    rw [Action.printFormatted_of_error hformat]
    exact ⟨rfl, rfl⟩

/-- A call of a compiled program agrees with `Action.printFormatted` on the arguments that are
passed to it.  Whatever the format is, the first record that cannot be decoded ends the process
instead, and nothing is printed. -/
theorem printArguments_agrees :
    (∀ (p : Program) (fmt : Bytes) (passed : List Argument) (args : Option (List RawArgument))
        (count : UInt64), 0 ∉ fmt → (args = none → count = 0) →
      List.Forall₂ Passes ((args.getD []).take count.toNat) passed →
      Agrees p (Action.printFormatted fmt passed p)
        (Action.printArguments (some fmt) args count p)) ∧
    ∀ (platform : Platform) (env : Environment) (systemArguments : List Bytes) (device : Device)
        (steps : List Step) (p : Program) (fmt : Bytes) (args : List RawArgument) (count : UInt64),
      (start platform env systemArguments device).after? steps = some p →
      (∃ r ∈ args.take count.toNat, r.Undecodable) →
      ∃ i r, FirstUndecodable (args.take count.toNat) i r ∧
        Action.printArguments (some fmt) (some args) count p = Action.abort (r.fault i).words p ∧
        ∃ e q, Action.printArguments (some fmt) (some args) count p = .error e q ∧
          q.sink = p.sink := by
  constructor
  · intro p fmt passed args count hfmt hargs hpasses
    have hnull : (args.isNone && count > 0) = false := by
      cases args with
      | none => simp [hargs rfl]
      | some rs => rfl
    exact agrees_of_decoded hfmt hnull (decodeAll_of_passes hpasses 0) p
  · intro platform env systemArguments device steps p fmt args count hsteps hbad
    obtain ⟨i, r, hfirst, herror⟩ := decodeAll_of_undecodable hbad 0
    rw [Nat.zero_add] at herror
    have hcall : Action.printArguments (some fmt) (some args) count p =
        Action.abort (r.fault i).words p := by
      have hrendering : passedRendering fmt (some args) count = .error (r.fault i).words := by
        simp only [passedRendering, Option.getD_some, herror]
      rw [printArguments_eq fmt rfl, hrendering]
      rfl
    -- between steps nothing waits, so there is nothing that the last words could let go
    have hsettled : p.sink.Settled := settled_after? (Sink.settled_start device) hsteps
    obtain ⟨q, habort, hsink⟩ := Action.abort_eq (α := Unit) (r.fault i).words p
    rw [hsettled.flush] at hsink
    exact ⟨i, r, hfirst, hcall, _, q, hcall.trans habort, hsink⟩

/-- A character of which only the low byte counts, and a dangling record behind an unknown one. -/
theorem printArguments_agrees_mixed :
    let p := start .standard .empty [] .working
    Agrees p (Action.printFormatted (Ascii.bytes "%d%c") [.int 7, .char 0x41] p)
      (Action.printArguments (some (Ascii.bytes "%d%c"))
        (some [ofArgument (.int 7), ⟨2, 0x141, none, 0⟩]) 2 p) ∧
    ∃ e q, Action.printArguments (some (Ascii.bytes "%"))
        (some [⟨17, 0, none, 0⟩, ⟨3, 0, none, 4⟩]) 2 p = .error e q ∧
      q.sink = .start .working := by
  intro p
  constructor
  · exact printArguments_agrees.1 _ _ _ _ _ (by decide) (by simp)
      (.cons (.int 7) (.cons (.char rfl) .nil))
  · obtain ⟨i, r, -, -, hended⟩ := printArguments_agrees.2 .standard .empty [] .working [] _
      (Ascii.bytes "%") [⟨17, 0, none, 0⟩, ⟨3, 0, none, 4⟩] 2 rfl
      ⟨_, List.mem_cons_self, .inl (by decide)⟩
    exact hended

end RuntimeSupport
