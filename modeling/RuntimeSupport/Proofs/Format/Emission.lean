import Mathlib.Algebra.GroupWithZero.Nat
import RuntimeSupport.Format

/-!
# When fields fit a buffer

Writing fields behind what a buffer holds stops with a panic as soon as the buffer would exceed
`maxLength`.  `emit_eq_none_iff` says that this is the only reason to stop, `emit_bytes` what has
been written if there is none, and `emit_append` that fields can be written in two goes.
`formatInto_eq_ok_iff` puts the walk along a format and the writing together.
-/

namespace RuntimeSupport.Format

/-- The number of bytes of a field, its fill included. -/
def Field.length (f : Field) : Nat := f.contentLength + f.padding

/-- The bytes of a field. -/
def Field.bytes (f : Field) : Bytes := f.pieces.flatMap Piece.bytes

/-- The number of bytes of some fields. -/
def totalLength (fs : List Field) : Nat := (fs.map Field.length).sum

@[simp] lemma totalLength_nil : totalLength [] = 0 := rfl

@[simp] lemma totalLength_cons (f : Field) (fs : List Field) :
    totalLength (f :: fs) = f.length + totalLength fs := by
  simp [totalLength]

/-! ## Pieces -/

lemma Piece.length_bytes (p : Piece) : p.bytes.length = p.length := by
  cases p <;> simp [Piece.bytes, Piece.length]

lemma Piece.overflow?_eq_none_iff (length : Nat) (p : Piece) :
    p.overflow? length = none ↔ length + p.length ≤ maxLength := by
  cases p with
  | text bs =>
    simp only [Piece.overflow?, Piece.length]
    split
    · exact iff_of_false (by simp) (by omega)
    · exact iff_of_true rfl (by omega)
  | fill b count =>
    simp only [Piece.overflow?, Piece.length]
    -- a length that does not fit a word does not fit a buffer either
    split
    · next hword => exact iff_of_false (by simp) (by rw [maxLength]; omega)
    · split
      · exact iff_of_false (by simp) (by omega)
      · exact iff_of_true rfl (by omega)

lemma emitPieces_eq_none_iff {length : Nat} (h : length ≤ maxLength) (ps : List Piece) :
    (emitPieces length ps).2 = none ↔ length + (ps.map Piece.length).sum ≤ maxLength := by
  induction ps generalizing length with
  | nil => simpa [emitPieces] using h
  | cons p ps ih =>
    rw [emitPieces, List.map_cons, List.sum_cons, ← Nat.add_assoc]
    cases hp : p.overflow? length with
    | none => exact ih ((p.overflow?_eq_none_iff length).1 hp)
    | some panic =>
      have hlt : ¬length + p.length ≤ maxLength := by
        rw [← p.overflow?_eq_none_iff length, hp]
        simp
      simp only [reduceCtorEq, false_iff]
      omega

lemma emitPieces_bytes {length : Nat} {ps : List Piece} (h : (emitPieces length ps).2 = none) :
    (emitPieces length ps).1 = ps.flatMap Piece.bytes := by
  induction ps generalizing length with
  | nil => rfl
  | cons p ps ih =>
    rw [emitPieces] at h ⊢
    cases hp : p.overflow? length with
    | none =>
      rw [hp] at h
      rw [List.flatMap_cons, ← ih h]
    | some panic =>
      rw [hp] at h
      exact absurd h (by simp)

/-! ## Fields -/

lemma Field.sum_pieces (f : Field) : (f.pieces.map Piece.length).sum = f.length := by
  unfold Field.pieces Field.length Field.contentLength
  cases f.fill <;> simp [Piece.length] <;> omega

lemma Field.length_bytes (f : Field) : f.bytes.length = f.length := by
  rw [Field.bytes, List.length_flatMap, ← f.sum_pieces]
  simp only [Piece.length_bytes]

/-- The radix mark of an octal number changes nothing but its zeros. -/
lemma Layout.octal_eq (l : Layout) (v : UInt64) :
    (l.octal v).lead = [] ∧ (l.octal v).width = l.width ∧ (l.octal v).fill = l.numberFill := by
  unfold Layout.octal
  simp only
  split <;> exact ⟨rfl, rfl, rfl⟩

/-- The digits of a field are part of it, so their own buffer is never the first to be too small. -/
lemma Field.emit_eq_none_iff {length : Nat} (h : length ≤ maxLength) (f : Field) :
    (f.emit length).2 = none ↔ length + f.length ≤ maxLength := by
  have hdigits : f.zeros + f.body.length ≤ f.length := by
    unfold Field.length Field.contentLength
    omega
  rw [Field.emit]
  split
  · simp only [reduceCtorEq, false_iff]
    omega
  · rw [emitPieces_eq_none_iff h, f.sum_pieces]

lemma Field.emit_bytes {length : Nat} {f : Field} (h : (f.emit length).2 = none) :
    (f.emit length).1 = f.bytes := by
  rw [Field.emit] at h ⊢
  split at h
  · exact absurd h (by simp)
  · next hd =>
    rw [if_neg hd]
    exact emitPieces_bytes h

lemma emit_cons_of_none {length : Nat} {f : Field} (h : (f.emit length).2 = none)
    (fs : List Field) :
    emit length (f :: fs) =
      (f.bytes ++ (emit (length + f.length) fs).1, (emit (length + f.length) fs).2) := by
  have hb := Field.emit_bytes h
  rw [emit]
  rcases hf : f.emit length with ⟨bs, _ | panic⟩
  · obtain rfl : bs = f.bytes := by rw [← hb, hf]
    simp only [f.length_bytes]
  · rw [hf] at h
    exact absurd h (by simp)

lemma emit_cons_of_ne_none {length : Nat} {f : Field} (h : (f.emit length).2 ≠ none)
    (fs : List Field) : emit length (f :: fs) = f.emit length := by
  rw [emit]
  rcases hf : f.emit length with ⟨bs, _ | panic⟩
  · rw [hf] at h
    exact absurd rfl h
  · rfl

/-- Fields are written to the end exactly if the buffer with all of them is not too long. -/
theorem emit_eq_none_iff {length : Nat} (h : length ≤ maxLength) (fs : List Field) :
    (emit length fs).2 = none ↔ length + totalLength fs ≤ maxLength := by
  induction fs generalizing length with
  | nil => simpa [emit] using h
  | cons f fs ih =>
    have hf := f.emit_eq_none_iff h
    rw [totalLength_cons, ← Nat.add_assoc]
    by_cases hn : (f.emit length).2 = none
    · rw [emit_cons_of_none hn]
      exact ih (hf.1 hn)
    · rw [emit_cons_of_ne_none hn]
      rw [hf] at hn
      simp only [hf]
      omega

theorem emit_bytes {length : Nat} {fs : List Field} (h : (emit length fs).2 = none) :
    (emit length fs).1 = fs.flatMap Field.bytes := by
  induction fs generalizing length with
  | nil => rfl
  | cons f fs ih =>
    by_cases hn : (f.emit length).2 = none
    · rw [emit_cons_of_none hn] at h ⊢
      rw [List.flatMap_cons, ← ih h]
    · rw [emit_cons_of_ne_none hn] at h
      exact absurd h hn

/-- Once some fields are written, the others are written to the buffer that holds them. -/
theorem emit_append {length : Nat} {fs : List Field} (h : (emit length fs).2 = none)
    (gs : List Field) :
    emit length (fs ++ gs) =
      ((emit length fs).1 ++ (emit (length + (emit length fs).1.length) gs).1,
        (emit (length + (emit length fs).1.length) gs).2) := by
  induction fs generalizing length with
  | nil => simp [emit]
  | cons f fs ih =>
    by_cases hn : (f.emit length).2 = none
    · rw [emit_cons_of_none hn] at h
      rw [List.cons_append, emit_cons_of_none hn, emit_cons_of_none hn, ih h]
      simp only [List.length_append, List.append_assoc, f.length_bytes, Nat.add_assoc]
    · rw [emit_cons_of_ne_none hn] at h
      exact absurd h hn

/-! ## Writing behind fewer bytes -/

lemma emitPieces_eq_none_of_le {length less : Nat} (hle : less ≤ length) {ps : List Piece}
    (h : (emitPieces length ps).2 = none) : (emitPieces less ps).2 = none := by
  induction ps generalizing length less with
  | nil => rfl
  | cons p ps ih =>
    rw [emitPieces] at h ⊢
    cases hp : p.overflow? length with
    | some panic =>
      rw [hp] at h
      cases h
    | none =>
      have hfits := (p.overflow?_eq_none_iff length).1 hp
      have hless : p.overflow? less = none := (p.overflow?_eq_none_iff less).2 (by omega)
      rw [hp] at h
      rw [hless]
      exact ih (by omega) h

lemma Field.emit_eq_none_of_le {length less : Nat} (hle : less ≤ length) {f : Field}
    (h : (f.emit length).2 = none) : (f.emit less).2 = none := by
  rw [Field.emit] at h ⊢
  split at h
  · cases h
  · next hdigits =>
    rw [if_neg hdigits]
    exact emitPieces_eq_none_of_le hle h

/-- Fields that can be written behind some bytes can be written behind fewer. -/
theorem emit_eq_none_of_le {length less : Nat} (hle : less ≤ length) {fs : List Field}
    (h : (emit length fs).2 = none) : (emit less fs).2 = none := by
  induction fs generalizing length less with
  | nil => rfl
  | cons f fs ih =>
    by_cases hf : (f.emit length).2 = none
    · rw [emit_cons_of_none hf] at h
      rw [emit_cons_of_none (Field.emit_eq_none_of_le hle hf)]
      exact ih (by omega) h
    · rw [emit_cons_of_ne_none hf] at h
      exact absurd h hf

/-! ## Whole calls -/

/-- The walk along the segments of a format. -/
def rendering (fmt : Bytes) (args : List Argument) : Rendering := render ⟨0, args⟩ (segments 0 fmt)

/-- Writes a rendering behind what a buffer holds.  A panic on the way hides the error that the walk
stopped with. -/
def Rendering.writeTo (buffer : Bytes) (r : Rendering) : Bytes × Except Failure Nat :=
  (buffer ++ (emit buffer.length r.fields).1,
    match (emit buffer.length r.fields).2, r.stop with
    | some p, _ => .error (.panic p)
    | none, .error err => .error (.error err)
    | none, .ok () => .ok (emit buffer.length r.fields).1.length)

lemma formatInto_eq (buffer fmt : Bytes) (args : List Argument) :
    formatInto buffer fmt args = (rendering fmt args).writeTo buffer := rfl

/-- A call succeeds exactly if the walk comes to its end and all fields can be written. -/
lemma formatInto_eq_ok_iff {buffer fmt out : Bytes} {args : List Argument} {n : Nat} :
    formatInto buffer fmt args = (out, .ok n) ↔
      (rendering fmt args).stop = .ok () ∧
      (emit buffer.length (rendering fmt args).fields).2 = none ∧
      out = buffer ++ (emit buffer.length (rendering fmt args).fields).1 ∧
      n = (emit buffer.length (rendering fmt args).fields).1.length := by
  rw [formatInto_eq, Rendering.writeTo]
  rcases emit buffer.length (rendering fmt args).fields with ⟨bs, _ | panic⟩
  · cases (rendering fmt args).stop with
    | error e => simp
    | ok u => simp [eq_comm]
  · simp

/-- Formatting is appending to an empty buffer. -/
lemma format_eq_ok_iff {fmt out : Bytes} {args : List Argument} :
    format fmt args = .ok out ↔ formatInto [] fmt args = (out, .ok out.length) := by
  unfold format
  rcases hrun : formatInto [] fmt args with ⟨out', f | n⟩
  · simp
  · obtain ⟨-, -, hout, rfl⟩ := formatInto_eq_ok_iff.1 hrun
    rw [List.nil_append] at hout
    simp only [Except.ok.injEq, Prod.mk.injEq, ← hout]
    exact ⟨fun h => ⟨h, congrArg List.length h⟩, And.left⟩

lemma length_flatMap_bytes (fs : List Field) :
    (fs.flatMap Field.bytes).length = totalLength fs := by
  rw [List.length_flatMap, totalLength]
  simp only [Field.length_bytes]

/-- A call is accepted exactly if the walk comes to its end and the bytes of all fields, which are
what it answers, fit a buffer. -/
theorem format_eq_ok_iff_fields {fmt out : Bytes} {args : List Argument} :
    format fmt args = .ok out ↔ (rendering fmt args).stop = .ok () ∧
      out = (rendering fmt args).fields.flatMap Field.bytes ∧ out.length ≤ maxLength := by
  have hfits : (emit 0 (rendering fmt args).fields).2 = none ↔
      ((rendering fmt args).fields.flatMap Field.bytes).length ≤ maxLength := by
    rw [emit_eq_none_iff (Nat.zero_le _), Nat.zero_add, length_flatMap_bytes]
  rw [format_eq_ok_iff, formatInto_eq_ok_iff, List.nil_append, List.length_nil]
  constructor
  · rintro ⟨hstop, hemit, hout, -⟩
    rw [emit_bytes hemit] at hout
    exact ⟨hstop, hout, hout ▸ hfits.1 hemit⟩
  · rintro ⟨hstop, rfl, hlength⟩
    have hemit := hfits.2 hlength
    exact ⟨hstop, hemit, (emit_bytes hemit).symm, congrArg List.length (emit_bytes hemit).symm⟩

end RuntimeSupport.Format
