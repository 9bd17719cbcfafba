import RuntimeSupport.Proofs.Format.Padding

/-!
# Writing in place

Fields are written to the buffer itself.  Text is copied behind what it holds, and a fill brings it
to a length that is computed from the one it has (`resize`), so that a sum which came out too small
would cut it.  `writeFields_eq` says that this never happens: whatever stops the writing, the buffer
keeps what it had, and what is written behind depends on its length only.

The main statement is `formatInto_appends`: a call only appends, and unless it panics it appends
what it would write to an empty buffer.
-/

namespace RuntimeSupport

namespace Format

variable {buffer : Bytes} {p : Piece} {ps : List Piece} {f : Field} {fs : List Field}

/-- A buffer brought to a length: cut if it is longer, and filled with one byte if it is shorter. -/
def resize (buffer : Bytes) (length : Nat) (b : UInt8) : Bytes :=
  buffer.take length ++ List.replicate (length - buffer.length) b

/-- Writes a piece to a buffer. -/
def Piece.writeTo (buffer : Bytes) : Piece → Bytes
  | .text bs => buffer ++ bs
  | .fill b count => resize buffer (buffer.length + count) b

/-- Writes pieces to a buffer, up to the one that stops the writing. -/
def writePieces (buffer : Bytes) : List Piece → Bytes × Option Panic
  | [] => (buffer, none)
  | p :: rest =>
    match p.overflow? buffer.length with
    | some panic => (buffer, some panic)
    | none => writePieces (p.writeTo buffer) rest

/-- Writes a field to a buffer, once its digits are laid out. -/
def Field.writeTo (buffer : Bytes) (f : Field) : Bytes × Option Panic :=
  if maxLength < f.zeros + f.body.length then (buffer, some .capacityOverflow)
  else writePieces buffer f.pieces

/-- Writes fields to a buffer. -/
def writeFields (buffer : Bytes) : List Field → Bytes × Option Panic
  | [] => (buffer, none)
  | f :: rest =>
    match f.writeTo buffer with
    | (b, some panic) => (b, some panic)
    | (b, none) => writeFields b rest

/-! ## Nothing is cut -/

@[simp] lemma resize_length_add (buffer : Bytes) (n : Nat) (b : UInt8) :
    resize buffer (buffer.length + n) b = buffer ++ List.replicate n b := by
  rw [resize, List.take_of_length_le (Nat.le_add_right _ _), Nat.add_sub_cancel_left]

lemma Piece.writeTo_eq (buffer : Bytes) (p : Piece) : p.writeTo buffer = buffer ++ p.bytes := by
  cases p with
  | text bs => rfl
  | fill b count => exact resize_length_add buffer count b

lemma writePieces_eq (buffer : Bytes) (ps : List Piece) :
    writePieces buffer ps =
      (buffer ++ (emitPieces buffer.length ps).1, (emitPieces buffer.length ps).2) := by
  induction ps generalizing buffer with
  | nil => simp [writePieces, emitPieces]
  | cons p ps ih =>
    rw [writePieces, emitPieces]
    cases p.overflow? buffer.length with
    | some panic => simp
    | none =>
      simp only [ih, p.writeTo_eq, List.length_append, p.length_bytes, List.append_assoc]

lemma Field.writeTo_eq (buffer : Bytes) (f : Field) :
    f.writeTo buffer = (buffer ++ (f.emit buffer.length).1, (f.emit buffer.length).2) := by
  rw [Field.writeTo, Field.emit]
  split
  · simp
  · exact writePieces_eq buffer f.pieces

/-- Whatever stops the writing, the buffer keeps what it had. -/
theorem writeFields_eq (buffer : Bytes) (fs : List Field) :
    writeFields buffer fs =
      (buffer ++ (emit buffer.length fs).1, (emit buffer.length fs).2) := by
  induction fs generalizing buffer with
  | nil => simp [writeFields, emit]
  | cons f fs ih =>
    rw [writeFields, f.writeTo_eq, emit]
    rcases f.emit buffer.length with ⟨bs, _ | panic⟩
    · simp only [ih, List.length_append, List.append_assoc]
    · rfl

/-! ## Panics -/

/-- A call ends in a panic. -/
def Panics (r : Bytes × Except Failure Nat) : Prop := ∃ p, r.2 = .error (.panic p)

lemma Rendering.panics_writeTo_iff (buffer : Bytes) (r : Rendering) :
    Panics (r.writeTo buffer) ↔ (emit buffer.length r.fields).2 ≠ none := by
  rw [Panics, Rendering.writeTo]
  cases (emit buffer.length r.fields).2 with
  | some panic => simp
  | none => cases r.stop <;> simp

/-- Writing that does not panic comes out the same behind any buffer that has room for it. -/
lemma Rendering.writeTo_eq_of_not_panics {r : Rendering} (h : ¬Panics (r.writeTo buffer)) :
    ¬Panics (r.writeTo []) ∧ r.writeTo buffer = (buffer ++ (r.writeTo []).1, (r.writeTo []).2) := by
  rw [r.panics_writeTo_iff, not_not] at h
  have hempty : (emit 0 r.fields).2 = none := emit_eq_none_of_le (Nat.zero_le _) h
  have hsame : emit buffer.length r.fields = emit 0 r.fields :=
    Prod.ext ((emit_bytes h).trans (emit_bytes hempty).symm) (h.trans hempty.symm)
  refine ⟨?_, ?_⟩
  · rw [r.panics_writeTo_iff, not_not]
    exact hempty
  · simp only [Rendering.writeTo, List.nil_append, List.length_nil, hsame]

end Format

open Format

/-- Formatting only appends, and does not look at the buffer.  The fields are written in place;
after any outcome, panics included, the buffer is what it was with a part of the rendering behind
it, and the rendering does not depend on the buffer.  The number of bytes that is answered is the
number of bytes appended.  A call that does not panic does not do so on an empty buffer either, and
comes to the same result and appends the same bytes there. -/
theorem formatInto_appends (buffer fmt : Bytes) (args : List Argument) :
    let r := formatInto buffer fmt args
    let fresh := formatInto [] fmt args
    r.1 = (writeFields buffer (rendering fmt args).fields).1 ∧
    buffer <+: r.1 ∧
    (∃ written, r.1 = buffer ++ written ∧
      written <+: (rendering fmt args).fields.flatMap Field.bytes) ∧
    (∀ n, r.2 = .ok n → r.1.length = buffer.length + n) ∧
    (¬Panics r → ¬Panics fresh ∧ r.2 = fresh.2 ∧ r.1 = buffer ++ fresh.1) := by
  intro r fresh
  refine ⟨?_, List.prefix_append _ _, ⟨_, rfl, emit_isPrefix buffer.length _⟩, ?_, ?_⟩
  · rw [writeFields_eq]
    rfl
  · intro n hn
    have hrun : formatInto buffer fmt args = (r.1, .ok n) := Prod.ext rfl hn
    obtain ⟨-, -, hout, rfl⟩ := formatInto_eq_ok_iff.1 hrun
    rw [hout, List.length_append]
  · intro h
    obtain ⟨hfresh, hsame⟩ := Rendering.writeTo_eq_of_not_panics h
    have hcall : r = (buffer ++ fresh.1, fresh.2) := hsame
    exact ⟨hfresh, by rw [hcall], by rw [hcall]⟩

end RuntimeSupport
