import Mathlib.Algebra.GroupWithZero.Nat
import RuntimeSupport.Arguments

/-!
# Arguments are copied exactly

The system hands over a count and a vector whose entries are null or strings, with a null entry
after the last one.  What is copied from it is said here without the reader, entry by entry: the
text of an entry is what comes before its first NUL byte (`HoldsText`), and the entries count up to
the number that is claimed.  A vector whose first entries are all strings is a list of strings with
something behind (`exists_texts`); that is what the reader recurses on.

The main statement is `arguments_copied_exactly`.
-/

namespace RuntimeSupport

/-- The text that an entry holds.  Behind the bytes of an entry there is a NUL byte, so it holds one
even if there is none among them. -/
def HoldsText (entry text : Bytes) : Prop := 0 ∉ text ∧ ∃ rest, entry ++ [0] = text ++ 0 :: rest

/-- A vector as it lies in memory: a null entry follows the last one. -/
def RawArguments.vector (entries : List (Option Bytes)) : List (Option Bytes) := entries ++ [none]

/-- What is copied of arguments as the system hands them over, whatever it claims and whatever there
is. -/
structure RawArguments.CopiedExactly (raw : RawArguments) : Prop where
  /-- A negative count is refused as such, and no other. -/
  negative_iff : ∀ c, Arguments.ofRaw raw = .error (.invalidArgumentCount c) ↔
    raw.count.toInt < 0 ∧ c.toInt = raw.count.toInt
  /-- Where there are no arguments, there need not be a vector. -/
  zero : raw.count.toInt = 0 → Arguments.ofRaw raw = .ok .empty
  /-- Where there are some, there must be one. -/
  nullVector_iff : Arguments.ofRaw raw = .error (.nullPointer "argv") ↔
    0 < raw.count.toInt ∧ raw.entries = none
  /-- A null entry is refused if the count reaches it, and only then. -/
  nullEntry_iff : Arguments.ofRaw raw = .error (.nullPointer "argv entry") ↔
    0 < raw.count.toInt ∧ ∃ entries, raw.entries = some entries ∧
      ∃ i : Nat, i < raw.count.toInt ∧ (vector entries)[i]? = some none
  /-- Otherwise there are as many arguments as the count claims, each of them the text of the entry
  in its place. -/
  copied : ∀ entries, raw.entries = some entries → 0 < raw.count.toInt →
    (∀ i : Nat, i < raw.count.toInt → (vector entries)[i]? ≠ some none) →
    ∃ a, Arguments.ofRaw raw = .ok a ∧ (a.count : Int) = raw.count.toInt ∧
      ∀ i < a.count, ∃ entry text, (vector entries)[i]? = some (some entry) ∧
        a.entries[i]? = some text ∧ HoldsText entry text

/-- The ways to an argument lead to the same bytes, and are closed to the same numbers. -/
structure Arguments.FoundAlike (a : Arguments) : Prop where
  /-- An argument is found by its number in each way. -/
  found : ∀ n < a.count, ∃ bs, a.entries[n]? = some bs ∧ a.get n = .ok bs ∧ a.span n = .ok ⟨bs⟩
  /-- There is none behind the last one. -/
  entry_iff : ∀ n, a.entries[n]? = none ↔ a.count ≤ n
  /-- Whoever asks for one is told how many there are, and is told so for no other reason. -/
  get_iff : ∀ n, a.get n = .error (.argumentOutOfRange n a.count) ↔ a.count ≤ n
  span_iff : ∀ n, a.span n = .error (.argumentOutOfRange n a.count) ↔ a.count ≤ n

/-! ## Texts -/

lemma holdsText_self {text : Bytes} (h : 0 ∉ text) : HoldsText text text := ⟨h, [], rfl⟩

lemma holdsText_untilNul (entry : Bytes) : HoldsText entry (untilNul entry) := by
  induction entry with
  | nil => exact holdsText_self List.not_mem_nil
  | cons b entry ih =>
    obtain ⟨hnul, rest, hsplit⟩ := ih
    by_cases hb : b = 0
    · have hempty : untilNul (b :: entry) = [] := by simp [untilNul, hb]
      rw [hempty, hb]
      exact ⟨List.not_mem_nil, entry ++ [0], rfl⟩
    · have hcons : untilNul (b :: entry) = b :: untilNul entry := by simp [untilNul, hb]
      rw [hcons]
      refine ⟨?_, rest, congrArg (b :: ·) hsplit⟩
      rw [List.mem_cons, not_or]
      exact ⟨Ne.symm hb, hnul⟩

/-- An entry holds one text only. -/
lemma HoldsText.unique {entry text text' : Bytes} (h : HoldsText entry text)
    (h' : HoldsText entry text') : text = text' := by
  obtain ⟨hnul, rest, hsplit⟩ := h
  obtain ⟨hnul', rest', hsplit'⟩ := h'
  have hpass : ∀ bs : Bytes, 0 ∉ bs → ∀ b ∈ bs, decide (b ≠ 0) = true := by
    rintro bs hbs b hb
    exact decide_eq_true fun hzero => hbs (hzero ▸ hb)
  have hcut : ∀ (bs tail : Bytes), 0 ∉ bs → (bs ++ 0 :: tail).takeWhile (· ≠ 0) = bs := by
    intro bs tail hbs
    rw [List.takeWhile_append_of_pos (hpass bs hbs), List.takeWhile_cons]
    simp
  rw [← hcut text rest hnul, ← hsplit, hsplit', hcut text' rest' hnul']

/-! ## Vectors -/

namespace Arguments

variable {entries : List (Option Bytes)} {n : Nat}

lemma readEntries_texts (texts : List Bytes) (rest : List (Option Bytes)) :
    readEntries texts.length (texts.map some ++ rest) = .ok (texts.map untilNul) := by
  induction texts with
  | nil => rfl
  | cons text texts ih =>
    rw [List.length_cons, List.map_cons, List.cons_append, readEntries, ih]
    rfl

lemma readEntries_of_null {i : Nat} (hi : i < n)
    (hnull : (RawArguments.vector entries)[i]? = some none) :
    readEntries n entries = .error (.nullPointer "argv entry") := by
  -- entries before the null one are read, or refused for the same reason
  induction n generalizing i entries with
  | zero => exact absurd hi (Nat.not_lt_zero i)
  | succ n ih =>
    rcases entries with _ | ⟨_ | entry, rest⟩
    · rfl
    · rfl
    · cases i with
      | zero => simp [RawArguments.vector] at hnull
      | succ i =>
        rw [readEntries, ih (Nat.lt_of_succ_lt_succ hi) hnull]
        rfl

lemma exists_texts (h : ∀ i < n, (RawArguments.vector entries)[i]? ≠ some none) :
    ∃ (texts : List Bytes) (rest : List (Option Bytes)),
      texts.length = n ∧ entries = texts.map some ++ rest := by
  induction n generalizing entries with
  | zero => exact ⟨[], entries, rfl, rfl⟩
  | succ n ih =>
    rcases entries with _ | ⟨_ | entry, tail⟩
    · exact absurd rfl (h 0 (Nat.succ_pos n))
    · exact absurd rfl (h 0 (Nat.succ_pos n))
    · have hbehind : ∀ i < n, (RawArguments.vector tail)[i]? ≠ some none :=
        fun i hi => h (i + 1) (Nat.succ_lt_succ hi)
      obtain ⟨texts, rest, hlength, htail⟩ := ih hbehind
      refine ⟨entry :: texts, rest, congrArg (· + 1) hlength, ?_⟩
      rw [htail]
      rfl

end Arguments

namespace RawArguments

variable {raw : RawArguments} {entries : List (Option Bytes)}

lemma ofRaw_of_neg (h : raw.count.toInt < 0) :
    Arguments.ofRaw raw = .error (.invalidArgumentCount raw.count.toInt64) :=
  if_pos (Int32.lt_iff_toInt_lt.2 h)

lemma ofRaw_of_zero (h : raw.count.toInt = 0) : Arguments.ofRaw raw = .ok .empty := by
  have hzero : raw.count = 0 := Int32.toInt_inj.1 h
  rw [Arguments.ofRaw, hzero]
  rfl

lemma ofRaw_of_pos (h : 0 < raw.count.toInt) :
    Arguments.ofRaw raw =
      match raw.entries with
      | none => .error (.nullPointer "argv")
      | some entries => do
        let copied ← Arguments.readEntries raw.count.toInt.toNat entries
        return ⟨copied⟩ := by
  have hneg : ¬raw.count < 0 := by
    rw [Int32.lt_iff_toInt_lt]
    exact Int.not_lt.2 (Int.le_of_lt h)
  have hzero : ¬raw.count = 0 := by
    intro hcount
    rw [hcount] at h
    exact absurd h (by decide)
  rw [Arguments.ofRaw, if_neg hneg, if_neg hzero]
  cases raw.entries <;> rfl

lemma ofRaw_of_null (h : 0 < raw.count.toInt) (hentries : raw.entries = some entries) {i : Nat}
    (hi : i < raw.count.toInt) (hnull : (vector entries)[i]? = some none) :
    Arguments.ofRaw raw = .error (.nullPointer "argv entry") := by
  rw [ofRaw_of_pos h, hentries]
  simp only
  rw [Arguments.readEntries_of_null (Int.lt_toNat.2 hi) hnull]
  rfl

lemma ofRaw_of_texts {texts : List Bytes} {rest : List (Option Bytes)}
    (h : 0 < raw.count.toInt) (hlength : (texts.length : Int) = raw.count.toInt)
    (hentries : raw.entries = some (texts.map some ++ rest)) :
    Arguments.ofRaw raw = .ok ⟨texts.map untilNul⟩ := by
  rw [ofRaw_of_pos h, hentries, ← hlength]
  simp only
  rw [Int.toNat_natCast, Arguments.readEntries_texts]
  rfl

/-- Once the count is known to be positive and the vector to be there, a null entry in reach
decides. -/
lemma ofRaw_cases (raw : RawArguments) :
    (raw.count.toInt < 0 ∧
      Arguments.ofRaw raw = .error (.invalidArgumentCount raw.count.toInt64)) ∨
    (raw.count.toInt = 0 ∧ Arguments.ofRaw raw = .ok .empty) ∨
    (0 < raw.count.toInt ∧ raw.entries = none ∧
      Arguments.ofRaw raw = .error (.nullPointer "argv")) ∨
    (0 < raw.count.toInt ∧ ∃ entries, raw.entries = some entries ∧
      ((∃ i : Nat, i < raw.count.toInt ∧ (vector entries)[i]? = some none) ∧
          Arguments.ofRaw raw = .error (.nullPointer "argv entry") ∨
        ∃ (texts : List Bytes) (rest : List (Option Bytes)),
          (texts.length : Int) = raw.count.toInt ∧ entries = texts.map some ++ rest ∧
            Arguments.ofRaw raw = .ok ⟨texts.map untilNul⟩)) := by
  rcases Int.lt_trichotomy raw.count.toInt 0 with hneg | hzero | hpos
  · exact .inl ⟨hneg, ofRaw_of_neg hneg⟩
  · exact .inr (.inl ⟨hzero, ofRaw_of_zero hzero⟩)
  · refine .inr (.inr ?_)
    cases hentries : raw.entries with
    | none =>
      refine .inl ⟨hpos, rfl, ?_⟩
      rw [ofRaw_of_pos hpos, hentries]
    | some entries =>
      refine .inr ⟨hpos, entries, rfl, ?_⟩
      by_cases hnull : ∃ i : Nat, i < raw.count.toInt ∧ (vector entries)[i]? = some none
      · obtain ⟨i, hi, hentry⟩ := hnull
        exact .inl ⟨⟨i, hi, hentry⟩, ofRaw_of_null hpos hentries hi hentry⟩
      · have hreach : ∀ i < raw.count.toInt.toNat, (vector entries)[i]? ≠ some none :=
          fun i hi hentry => hnull ⟨i, Int.lt_toNat.1 hi, hentry⟩
        obtain ⟨texts, rest, hlength, rfl⟩ := Arguments.exists_texts hreach
        have hcount : (texts.length : Int) = raw.count.toInt := by omega
        exact .inr ⟨texts, rest, hcount, rfl, ofRaw_of_texts hpos hcount hentries⟩

lemma copiedExactly (raw : RawArguments) : raw.CopiedExactly where
  negative_iff c := by
    constructor
    · intro h
      rcases ofRaw_cases raw with ⟨hneg, hout⟩ | ⟨-, hout⟩ | ⟨-, -, hout⟩ |
        ⟨-, _, -, ⟨-, hout⟩ | ⟨_, _, -, -, hout⟩⟩ <;> rw [hout] at h <;> cases h
      exact ⟨hneg, Int32.toInt_toInt64 raw.count⟩
    · rintro ⟨hneg, hc⟩
      have hcount : raw.count.toInt64 = c := by
        rw [← Int64.toInt_inj, Int32.toInt_toInt64, hc]
      rw [ofRaw_of_neg hneg, hcount]
  zero := ofRaw_of_zero
  nullVector_iff := by
    constructor
    · intro h
      rcases ofRaw_cases raw with ⟨-, hout⟩ | ⟨-, hout⟩ | ⟨hpos, hnone, -⟩ |
        ⟨-, _, -, ⟨-, hout⟩ | ⟨_, _, -, -, hout⟩⟩
      case inr.inr.inl => exact ⟨hpos, hnone⟩
      all_goals
        rw [hout] at h
        simp at h
    · rintro ⟨hpos, hnone⟩
      rw [ofRaw_of_pos hpos, hnone]
  nullEntry_iff := by
    constructor
    · intro h
      rcases ofRaw_cases raw with ⟨-, hout⟩ | ⟨-, hout⟩ | ⟨-, -, hout⟩ |
        ⟨hpos, entries, hsome, ⟨hreach, -⟩ | ⟨_, _, -, -, hout⟩⟩
      case inr.inr.inr.inl => exact ⟨hpos, entries, hsome, hreach⟩
      all_goals
        rw [hout] at h
        simp at h
    · rintro ⟨hpos, entries, hsome, i, hi, hnull⟩
      exact ofRaw_of_null hpos hsome hi hnull
  copied entries hsome hpos hnonnull := by
    have hreach : ∀ i < raw.count.toInt.toNat, (vector entries)[i]? ≠ some none :=
      fun i hi => hnonnull i (Int.lt_toNat.1 hi)
    obtain ⟨texts, rest, hlength, rfl⟩ := Arguments.exists_texts hreach
    have hcount : (texts.length : Int) = raw.count.toInt := by omega
    refine ⟨⟨texts.map untilNul⟩, ofRaw_of_texts hpos hcount hsome, ?_, ?_⟩
    · rw [Arguments.count, List.length_map, hcount]
    · intro i hi
      rw [Arguments.count, List.length_map] at hi
      have hentry : (vector (texts.map some ++ rest))[i]? = some (some texts[i]) := by
        rw [vector, List.append_assoc, List.getElem?_append_left (by simpa using hi)]
        simp [hi]
      have htext : (texts.map untilNul)[i]? = some (untilNul texts[i]) := by simp [hi]
      exact ⟨texts[i], untilNul texts[i], hentry, htext, holdsText_untilNul texts[i]⟩

end RawArguments

/-! ## Ways to an argument -/

lemma Arguments.foundAlike (a : Arguments) : a.FoundAlike := by
  have hentry : ∀ n, a.entries[n]? = none ↔ a.count ≤ n := fun n => List.getElem?_eq_none_iff
  have hget : ∀ n < a.count, ∃ bs, a.entries[n]? = some bs ∧ a.get n = .ok bs := by
    intro n hn
    have hsome : a.entries[n]? = some a.entries[n] := List.getElem?_eq_getElem hn
    exact ⟨a.entries[n], hsome, by rw [Arguments.get, hsome]⟩
  have hrefused : ∀ n, a.count ≤ n → a.get n = .error (.argumentOutOfRange n a.count) := by
    intro n hn
    rw [Arguments.get, (hentry n).2 hn]
  constructor
  case found =>
    intro n hn
    obtain ⟨bs, hsome, hok⟩ := hget n hn
    exact ⟨bs, hsome, hok, by rw [Arguments.span, hok]; rfl⟩
  case entry_iff => exact hentry
  case get_iff =>
    refine fun n => ⟨fun h => Nat.not_lt.1 fun hn => ?_, hrefused n⟩
    obtain ⟨bs, -, hok⟩ := hget n hn
    rw [hok] at h
    cases h
  case span_iff =>
    refine fun n => ⟨fun h => Nat.not_lt.1 fun hn => ?_, fun hn => ?_⟩
    · obtain ⟨bs, -, hok⟩ := hget n hn
      rw [Arguments.span, hok] at h
      cases h
    · rw [Arguments.span, hrefused n hn]
      rfl

/-! ## Given strings -/

namespace RawArguments

variable {args : List Bytes} {raw : RawArguments}

lemma ofStrings?_eq_some_iff : ofStrings? args = some raw ↔
    (∀ bs ∈ args, 0 ∉ bs) ∧ args.length < 2 ^ 31 ∧
      raw = ⟨Int32.ofNat args.length, some (args.map some)⟩ := by
  have hcheck : ((args.all fun bs => !bs.contains 0) && decide (args.length < 0x8000_0000)) = true ↔
      (∀ bs ∈ args, 0 ∉ bs) ∧ args.length < 2 ^ 31 := by
    simp
  by_cases hboth : (∀ bs ∈ args, 0 ∉ bs) ∧ args.length < 2 ^ 31
  · rw [ofStrings?, if_pos (hcheck.2 hboth), Option.some_inj]
    exact ⟨fun heq => ⟨hboth.1, hboth.2, heq.symm⟩, fun ⟨_, _, heq⟩ => heq.symm⟩
  · rw [ofStrings?, if_neg (mt hcheck.1 hboth)]
    exact ⟨(nomatch ·), fun ⟨hnul, hlength, _⟩ => absurd ⟨hnul, hlength⟩ hboth⟩

lemma count_ofStrings? (h : ofStrings? args = some raw) : raw.count.toInt = args.length := by
  obtain ⟨-, hlength, rfl⟩ := ofStrings?_eq_some_iff.1 h
  exact Int32.toInt_ofNat_of_lt hlength

lemma entries_ofStrings? (h : ofStrings? args = some raw) : raw.entries = some (args.map some) := by
  obtain ⟨-, -, rfl⟩ := ofStrings?_eq_some_iff.1 h
  rfl

lemma ofRaw_ofStrings? (h : ofStrings? args = some raw) : Arguments.ofRaw raw = .ok ⟨args⟩ := by
  obtain ⟨hnul, -, -⟩ := ofStrings?_eq_some_iff.1 h
  have hcount := count_ofStrings? h
  have huncut : args.map untilNul = args := by
    refine (List.map_congr_left fun bs hbs => ?_).trans (List.map_id args)
    exact (holdsText_untilNul bs).unique (holdsText_self (hnul bs hbs))
  rcases Nat.eq_zero_or_pos args.length with hzero | hpos
  · rw [hzero] at hcount
    rw [ofRaw_of_zero hcount, List.length_eq_zero_iff.1 hzero]
    rfl
  · have hclaim : 0 < raw.count.toInt := hcount ▸ Int.natCast_pos.2 hpos
    have hentries : raw.entries = some (args.map some ++ []) := by
      rw [List.append_nil, entries_ofStrings? h]
    rw [ofRaw_of_texts hclaim hcount.symm hentries, huncut]

end RawArguments

/-! ## The statement -/

/-- What is copied is what was handed over.  Strings can be handed over if none holds a NUL byte and
a count can tell how many there are; then they are copied back as they are. -/
theorem arguments_copied_exactly :
    (∀ raw : RawArguments, raw.CopiedExactly) ∧
      (∀ args, (∃ raw, RawArguments.ofStrings? args = some raw) ↔
        (∀ bs ∈ args, 0 ∉ bs) ∧ args.length < 2 ^ 31) ∧
      (∀ args raw, RawArguments.ofStrings? args = some raw →
        raw.count.toInt = args.length ∧ raw.entries = some (args.map some) ∧
          Arguments.ofRaw raw = .ok ⟨args⟩) ∧
      ∀ a : Arguments, a.FoundAlike := by
  refine ⟨RawArguments.copiedExactly, fun args => ⟨?_, ?_⟩, fun args raw h => ?_,
    Arguments.foundAlike⟩
  · rintro ⟨raw, h⟩
    obtain ⟨hnul, hlength, -⟩ := RawArguments.ofStrings?_eq_some_iff.1 h
    exact ⟨hnul, hlength⟩
  · rintro ⟨hnul, hlength⟩
    exact ⟨_, RawArguments.ofStrings?_eq_some_iff.2 ⟨hnul, hlength, rfl⟩⟩
  · exact ⟨RawArguments.count_ofStrings? h, RawArguments.entries_ofStrings? h,
      RawArguments.ofRaw_ofStrings? h⟩

/-- Of three entries two are asked for: the first is cut at its NUL byte, the second is empty and
stays an argument. -/
theorem arguments_cut_in_place :
    Arguments.ofRaw ⟨2, some [some [97, 0, 98], some [], none]⟩ = .ok ⟨[[97], []]⟩ ∧
      Arguments.ofRaw ⟨3, some [some [97, 0, 98], some [], none]⟩ =
        .error (.nullPointer "argv entry") ∧
      (∃ raw, RawArguments.ofStrings? [[], [97]] = some raw ∧
        Arguments.ofRaw raw = .ok ⟨[[], [97]]⟩) := by
  obtain ⟨hcopied, hgiven, hback, -⟩ := arguments_copied_exactly
  have hnull : Arguments.ofRaw ⟨3, some [some [97, 0, 98], some [], none]⟩ =
      .error (.nullPointer "argv entry") :=
    (hcopied _).nullEntry_iff.2 ⟨by decide, _, rfl, 2, by decide, rfl⟩
  obtain ⟨raw, hraw⟩ := (hgiven [[], [97]]).2 (by decide)
  exact ⟨by rfl, hnull, raw, hraw, (hback _ raw hraw).2.2⟩

end RuntimeSupport
