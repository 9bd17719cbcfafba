import RuntimeSupport.Proofs.Program.Ownership

/-!
# Runs of memory calls

A copy involves two blocks, or one of them twice, or null pointers; it is refused where its outcome
would not be defined, and so is the owner's (`rawTransfer_eq`).  With copies in place every call
that keeps to its contract agrees with its owner (`agrees_of_proper`), and `matches_after?` is the
induction over a run.  The main statement is `memory_calls_refine_owners`.
-/

namespace RuntimeSupport.Program

open Memory

variable {p q : Program} {s : Session} {taken : List Nat} {x : Handle}

/-! ## Copies -/

/-- What lets a copy between two blocks be carried out. -/
structure Carries (t : Action.Transfer) (p : Program) (count : UInt64) (l m : Location) : Prop where
  dest : p.reaches count (some l) = true
  source : p.reaches count (some m) = true
  apart : t = .copy → overlapping (some l) (some m) count = false

section

variable {t : Action.Transfer} {d e : Place} {count : UInt64} {y : Handle}

lemma carries_iff {l m : Location} :
    Carries t p count l m ↔
      (t = .copy && overlapping (some l) (some m) count) = false ∧
        (p.reaches count (some l) && p.reaches count (some m)) = true := by
  constructor
  · rintro ⟨hl, hm, hapart⟩
    refine ⟨?_, by rw [hl, hm]; rfl⟩
    by_cases ht : t = .copy
    · rw [hapart ht, Bool.and_false]
    · rw [decide_eq_false ht, Bool.false_and]
  · rintro ⟨hapart, hreach⟩
    obtain ⟨hl, hm⟩ := Bool.and_eq_true_iff.1 hreach
    refine ⟨hl, hm, ?_⟩
    rintro rfl
    simpa using hapart

lemma location?_some (hx : p.pointee? d.id = some x) :
    p.location? (some d) = some (some ⟨x, d.offset⟩) := by
  rw [location?, hx, Option.map_some]

/-- A copy is refused where its outcome is not defined; otherwise the call is made. -/
lemma perform_transfer_eq {dest source : Option Place} {l m : Option Location}
    (hl : p.location? dest = some l) (hm : p.location? source = some m) :
    (Step.transfer t dest source count).perform p =
      if t = .copy && overlapping l m count then .ok (.refused .overlap) p
      else if count > 0 && !(p.reaches count l && p.reaches count m) then .ok (.refused .range) p
      else
        (do
          let copied ← Action.transfer t l m count
          let p ← get
          return .destination <| copied.map fun l =>
            ((p.heap.ofRaw l.handle).length, (p.heap.span (p.heap.ofRaw l.handle)).bytes) :
          Action Answer) p := by
  rw [Step.perform, Program.transfer, Action.get_bind]
  simp only [hl, hm]
  split
  · rfl
  · split <;> rfl

lemma perform_transfer_of_carries (hx : p.pointee? d.id = some x) (hy : p.pointee? e.id = some y)
    (hcount : count ≠ 0) (hc : Carries t p count ⟨x, d.offset⟩ ⟨y, e.offset⟩) :
    (Step.transfer t (some d) (some e) count).perform p =
      let heap := t.apply p.heap ⟨x, d.offset⟩ ⟨y, e.offset⟩ count
      .ok (.destination (some ((heap.ofRaw x).length, (heap.span (heap.ofRaw x)).bytes)))
        { p with heap } := by
  obtain ⟨hapart, hreach⟩ := carries_iff.1 hc
  rw [perform_transfer_eq (location?_some hx) (location?_some hy), hapart, hreach, Bool.not_true,
    Bool.and_false, Action.transfer, if_neg hcount]
  rfl

lemma perform_transfer_of_not_carries (hx : p.pointee? d.id = some x)
    (hy : p.pointee? e.id = some y) (hcount : count ≠ 0)
    (hc : ¬Carries t p count ⟨x, d.offset⟩ ⟨y, e.offset⟩) :
    ∃ r, (Step.transfer t (some d) (some e) count).perform p = .ok (.refused r) p := by
  have hpos : count > 0 := UInt64.pos_iff_ne_zero.2 hcount
  rw [carries_iff, not_and, Bool.not_eq_true] at hc
  rw [perform_transfer_eq (location?_some hx) (location?_some hy)]
  split
  · exact ⟨_, rfl⟩
  · next hapart =>
    rw [hc (Bool.not_eq_true _ ▸ hapart), decide_eq_true hpos]
    exact ⟨_, rfl⟩

/-- A copy that has nothing to do is carried out by doing nothing. -/
lemma perform_transfer_zero {dest source : Option Place} {l m : Option Location}
    (hl : p.location? dest = some l) (hm : p.location? source = some m) :
    (Step.transfer t dest source 0).perform p =
      .ok (.destination (l.map fun l =>
        ((p.heap.ofRaw l.handle).length, (p.heap.span (p.heap.ofRaw l.handle)).bytes))) p := by
  have hapart : overlapping l m 0 = false := by
    rcases l with _ | l
    · rfl
    rcases m with _ | m
    · rfl
    · simp [overlapping]
  rw [perform_transfer_eq hl hm, hapart, Bool.and_false]
  rfl

/-- A null pointer is reported if there is something to copy, unless the other pointer leads out of
its block. -/
lemma perform_transfer_of_null {dest source : Option Place} {l m : Option Location} {f : Fault}
    (hl : p.location? dest = some l) (hm : p.location? source = some m) (hcount : count ≠ 0)
    (hf : t.nullFault? l m = some f) :
    (Step.transfer t dest source count).perform p =
      if p.reaches count l && p.reaches count m then Action.abortWith f p
      else .ok (.refused .range) p := by
  have hpos : count > 0 := UInt64.pos_iff_ne_zero.2 hcount
  have hapart : overlapping l m count = false := by
    cases h : overlapping l m count with
    | false => rfl
    | true =>
      rw [nullFault?_of_overlapping h] at hf
      cases hf
  have hcall : Action.transfer t l m count = Action.abortWith f := by
    simp only [Action.transfer, if_neg hcount]
    rcases l with _ | l
    · cases hf
      rfl
    rcases m with _ | m
    · cases hf
      rfl
    · cases hf
  rw [perform_transfer_eq hl hm, hapart, Bool.and_false, decide_eq_true hpos, hcall]
  cases p.reaches count l && p.reaches count m <;> rfl

lemma perform_transfer_of_missing {dest source : Option Place}
    (h : p.location? dest = none ∨ p.location? source = none) :
    (Step.transfer t dest source count).perform p = .ok (.refused .noBlock) p := by
  rw [Step.perform, Program.transfer, Action.get_bind]
  rcases h with h | h
  · rw [h]
    rfl
  · rw [h]
    cases p.location? dest <;> rfl

/-- The owner's copy, once it has taken back both blocks, meets the same three conditions. -/
lemma rawTransfer_eq (t : Action.Transfer) (count : UInt64) (hm : p.Matches taken s)
    (hd : d.id ∈ taken) (he : e.id ∈ taken) (hx : p.pointee? d.id = some x)
    (hy : p.pointee? e.id = some y) (hsame : d.id = e.id ↔ x = y) :
    s.step (t.ownerStep d e count) =
      if p.reaches count (some ⟨y, e.offset⟩) then
        if t = .copy && overlapping (some ⟨x, d.offset⟩) (some ⟨y, e.offset⟩) count then
          (s, .refused .overlap)
        else if p.reaches count (some ⟨x, d.offset⟩) then
          let heap := t.apply p.heap ⟨x, d.offset⟩ ⟨y, e.offset⟩ count
          ({ s with heap }, .destination (p.heap.ofRaw x).length (heap.span (p.heap.ofRaw x)).bytes)
        else (s, .refused .destinationRange)
      else (s, .refused .sourceRange) := by
  have hstep : s.step (t.ownerStep d e count) =
      s.rawTransfer (t = .copy) t.apply d.id e.id d.offset e.offset count := by
    cases t <;> rfl
  have hids : (d.id == e.id) = (x == y) := by
    rw [Bool.eq_iff_iff, beq_iff_eq, beq_iff_eq]
    exact hsame
  have hinside : ∀ (z : Handle) (o : UInt64),
      p.reaches count (some ⟨z, o⟩) = Session.inside (p.heap.ofRaw z) o.toNat count.toNat :=
    fun _ _ => rfl
  rw [hstep, Session.rawTransfer, hm.owned?_of_mem he hy, hinside, hinside, Option.filter_some]
  cases Session.inside (p.heap.ofRaw y) e.offset.toNat count.toNat with
  | false => rfl
  | true =>
    simp only [if_true, hids, Bool.and_assoc, Session.withOwned, hm.owned?_of_mem hd hx, hm.heap]
    rfl

/-- A copy from or to a null pointer that comes back has changed nothing. -/
lemma eq_of_transfer_null {dest source : Option Place} {a : Answer}
    (hnull : dest = none ∨ source = none)
    (hc : (Step.transfer t dest source count).perform p = .ok a q) : q = p := by
  cases hl : p.location? dest with
  | none =>
    rw [perform_transfer_of_missing (.inl hl)] at hc
    cases hc
    rfl
  | some l =>
    cases hm : p.location? source with
    | none =>
      rw [perform_transfer_of_missing (.inr hm)] at hc
      cases hc
      rfl
    | some m =>
      by_cases hcount : count = 0
      · subst hcount
        rw [perform_transfer_zero hl hm] at hc
        cases hc
        rfl
      · obtain ⟨f, hf⟩ : ∃ f, t.nullFault? l m = some f := by
          rcases hnull with rfl | rfl
          · cases hl
            exact ⟨_, rfl⟩
          · cases hm
            cases l <;> exact ⟨_, rfl⟩
        rw [perform_transfer_of_null hl hm hcount hf] at hc
        split at hc
        · exact absurd hc (abortWith_ne_ok f)
        · cases hc
          rfl

/-- Two variables point at the same block only if they are the same. -/
lemma Matches.same_iff (hm : p.Matches [] s) (hx : p.pointee? d.id = some x)
    (hy : p.pointee? e.id = some y) : d.id = e.id ↔ x = y := by
  constructor
  · intro h
    rw [h, hy] at hx
    exact (Option.some.inj hx).symm
  · rintro rfl
    exact hm.eq_of_pointee? hx hy

/-- The owner's copy leaves a heap that is the program's, whether it is carried out or not, and
without a fault. -/
lemma matches_ownerStep (hm : p.Matches taken s) (hd : d.id ∈ taken) (he : e.id ∈ taken)
    (hx : p.pointee? d.id = some x) (hy : p.pointee? e.id = some y)
    (hsame : d.id = e.id ↔ x = y) (hcount : count ≠ 0) :
    (s.step (t.ownerStep d e count)).2.fault? = none ∧
      ∀ a q, (Step.transfer t (some d) (some e) count).perform p = .ok a q →
        q.Matches taken (s.step (t.ownerStep d e count)).1 := by
  have hsound := hm.sound.step (t.ownerStep d e count)
  have hstep := rawTransfer_eq t count hm hd he hx hy hsame
  by_cases hc : Carries t p count ⟨x, d.offset⟩ ⟨y, e.offset⟩
  · obtain ⟨hapart, hreach⟩ := carries_iff.1 hc
    rw [hc.source, hapart, hc.dest] at hstep
    simp only [if_true] at hstep
    rw [hstep] at hsound ⊢
    refine ⟨rfl, fun a q hcall => ?_⟩
    rw [perform_transfer_of_carries hx hy hcount hc] at hcall
    cases hcall
    exact hm.rewrite hsound rfl rfl rfl
  · -- the three conditions are met in another order, but none of them is met twice
    obtain ⟨r, hrefused⟩ : ∃ r, s.step (t.ownerStep d e count) = (s, .refused r) := by
      rw [carries_iff, not_and, Bool.not_eq_true] at hc
      rw [hstep]
      split
      · next hsource =>
        split
        · exact ⟨_, rfl⟩
        · next hapart =>
          have hdest := hc (by simpa using hapart)
          rw [hsource, Bool.and_true] at hdest
          rw [hdest]
          exact ⟨_, rfl⟩
      · exact ⟨_, rfl⟩
    rw [hrefused]
    refine ⟨rfl, fun a q hcall => ?_⟩
    obtain ⟨r', hcall'⟩ := perform_transfer_of_not_carries hx hy hcount hc
    rw [hcall'] at hcall
    cases hcall
    exact hm

/-- A copy between two blocks and the owner's script for it. -/
lemma matches_transfer_blocks (hm : p.Matches [] s) (hx : p.pointee? d.id = some x)
    (hy : p.pointee? e.id = some y) (hcount : count ≠ 0) :
    s.fault? ((Step.transfer t (some d) (some e) count).counterpart p) = none ∧
      ∀ a q, (Step.transfer t (some d) (some e) count).perform p = .ok a q →
        q.Matches [] (s.run ((Step.transfer t (some d) (some e) count).counterpart p)).1 := by
  have hsame := hm.same_iff hx hy
  set s₁ := (s.step (.ofRaw d.id)).1 with hs₁
  have hm₁ : p.Matches [d.id] s₁ := hm.takeBack List.not_mem_nil
  rw [Step.counterpart, hx, hy]
  simp only [if_neg hcount]
  by_cases hid : d.id = e.id
  · have hmem : e.id ∈ [d.id] := List.mem_singleton.2 hid.symm
    obtain ⟨hfault, hcopy⟩ :=
      matches_ownerStep (t := t) hm₁ List.mem_cons_self hmem hx hy hsame hcount
    rw [if_pos hid]
    constructor
    · rw [Session.fault?_cons, Session.fault?_step_ofRaw, ← hs₁, Session.fault?_cons, hfault,
        Session.fault?_cons, Session.fault?_step_intoRaw]
      rfl
    · intro a q hcall
      rw [Session.run_cons, ← hs₁, Session.run_cons, Session.run_cons]
      exact (hcopy a q hcall).giveUp List.not_mem_nil
  · have hnot : e.id ∉ [d.id] := fun h => hid (List.mem_singleton.1 h).symm
    set s₂ := (s₁.step (.ofRaw e.id)).1 with hs₂
    have hm₂ : p.Matches [e.id, d.id] s₂ := hm₁.takeBack hnot
    obtain ⟨hfault, hcopy⟩ := matches_ownerStep (t := t) hm₂
      (List.mem_cons_of_mem _ List.mem_cons_self) List.mem_cons_self hx hy hsame hcount
    rw [if_neg hid]
    constructor
    · rw [Session.fault?_cons, Session.fault?_step_ofRaw, ← hs₁, Session.fault?_cons,
        Session.fault?_step_ofRaw, ← hs₂, Session.fault?_cons, hfault, Session.fault?_cons,
        Session.fault?_step_intoRaw, Session.fault?_cons, Session.fault?_step_intoRaw]
      rfl
    · intro a q hcall
      rw [Session.run_cons, ← hs₁, Session.run_cons, ← hs₂, Session.run_cons, Session.run_cons,
        Session.run_cons]
      exact ((hcopy a q hcall).giveUp hnot).giveUp List.not_mem_nil

lemma counterpart_transfer_zero (dest source : Option Place) :
    (Step.transfer t dest source 0).counterpart p = [] := by
  rcases dest with _ | d
  · rfl
  rcases source with _ | e
  · rfl
  rw [Step.counterpart]
  cases p.pointee? d.id with
  | none => rfl
  | some x => cases p.pointee? e.id <;> rfl

lemma location?_eq_none (hx : p.pointee? d.id = none) : p.location? (some d) = none := by
  rw [location?, hx, Option.map_none]

/-- A copy comes to the same for the owner, whether it is carried out or not. -/
lemma matches_transfer {dest source : Option Place} {a : Answer} (hm : p.Matches [] s)
    (hc : (Step.transfer t dest source count).perform p = .ok a q) :
    q.Matches [] (s.run ((Step.transfer t dest source count).counterpart p)).1 := by
  rcases dest with _ | d
  · obtain rfl := eq_of_transfer_null (.inl rfl) hc
    exact hm
  rcases source with _ | e
  · obtain rfl := eq_of_transfer_null (.inr rfl) hc
    exact hm
  cases hx : p.pointee? d.id with
  | none =>
    rw [perform_transfer_of_missing (.inl (location?_eq_none hx))] at hc
    cases hc
    rw [Step.counterpart, hx]
    exact hm
  | some x =>
    cases hy : p.pointee? e.id with
    | none =>
      rw [perform_transfer_of_missing (.inr (location?_eq_none hy))] at hc
      cases hc
      rw [Step.counterpart, hx, hy]
      exact hm
    | some y =>
      by_cases hcount : count = 0
      · subst hcount
        rw [perform_transfer_zero (location?_some hx) (location?_some hy)] at hc
        cases hc
        rw [counterpart_transfer_zero]
        exact hm
      · exact (matches_transfer_blocks hm hx hy hcount).2 a q hc

/-- A pointer that keeps to the contract leads where the call may go. -/
lemma exists_location {place : Option Place} (h : ∀ d ∈ place, d.Valid p count.toNat) :
    ∃ l, p.location? place = some l ∧ p.reaches count l = true ∧
      (l.map fun l => ((p.heap.ofRaw l.handle).length,
        (p.heap.span (p.heap.ofRaw l.handle)).bytes)) =
      place.bind fun d => (p.pointee? d.id).map fun x =>
        ((p.heap.ofRaw x).length, (p.heap.span (p.heap.ofRaw x)).bytes) := by
  rcases place with _ | d
  · exact ⟨none, rfl, rfl, rfl⟩
  · obtain ⟨x, hx, hrange⟩ := h d rfl
    refine ⟨some ⟨x, d.offset⟩, location?_some hx, decide_eq_true hrange, ?_⟩
    rw [Option.bind_some, hx]
    rfl

/-- Places that share no byte do not overlap. -/
lemma overlapping_eq_false (hsame : d.id = e.id ↔ x = y) (h : d.Disjoint count.toNat e) :
    overlapping (some ⟨x, d.offset⟩) (some ⟨y, e.offset⟩) count = false := by
  rw [overlapping, Bool.and_eq_false_iff]
  by_cases hxy : x = y
  · have hne := h (hsame.2 hxy)
    refine .inr (decide_eq_false fun hnear => ?_)
    simp only at hnear
    -- the start of one of the two is a byte of the other
    rcases Nat.le_total d.offset.toNat e.offset.toNat with hle | hle
    · exact hne (e.offset.toNat - d.offset.toNat) (by omega) 0 (by omega) (by omega)
    · exact hne 0 (by omega) (d.offset.toNat - e.offset.toNat) (by omega) (by omega)
  · exact .inl (beq_eq_false_iff_ne.2 hxy)

lemma agrees_transfer_blocks (hm : p.Matches [] s) (hx : p.pointee? d.id = some x)
    (hy : p.pointee? e.id = some y) (hcount : count ≠ 0)
    (hc : Carries t p count ⟨x, d.offset⟩ ⟨y, e.offset⟩) :
    (Step.transfer t (some d) (some e) count).Agrees p s := by
  obtain ⟨hfault, hmatches⟩ := matches_transfer_blocks (t := t) hm hx hy hcount
  have hcall := perform_transfer_of_carries hx hy hcount hc
  have hafter := hmatches _ _ hcall
  refine .of_ok ?_ hcall hafter ?_
  · rw [Step.failure?, hfault]
    rfl
  · rw [Step.Answers, Option.bind_some, hafter.shown?_eq]
    show _ = Answer.destination ((p.pointee? d.id).map _)
    rw [hx]
    rfl

lemma agrees_transfer {dest source : Option Place} (hm : p.Matches [] s)
    (hproper : (Step.transfer t dest source count).Proper p) :
    (Step.transfer t dest source count).Agrees p s := by
  obtain ⟨hdest, hsource, hdisjoint⟩ := hproper
  obtain ⟨l, hl, hreachl, hshown⟩ := exists_location hdest
  obtain ⟨m, hm', hreachm, -⟩ := exists_location hsource
  by_cases hcount : count = 0
  · subst hcount
    refine .of_ok ?_ (perform_transfer_zero hl hm') ?_ ?_
    · rw [Step.failure?, counterpart_transfer_zero]
      rcases dest with _ | d
      · rfl
      · cases source <;> rfl
    · rw [counterpart_transfer_zero]
      exact hm
    · rw [counterpart_transfer_zero, Step.Answers, hshown]
      simp only [Session.run, hm.shown?_eq]
  · have hnull : ∀ f, t.nullFault? l m = some f →
        (Step.transfer t dest source count).nullFault? = some f →
        (Step.transfer t dest source count).Agrees p s := by
      intro f hf hfails
      refine .of_fault (f := f) ?_ (.refl p) ?_
      · rw [Step.failure?, hfails, Option.some_or]
      · rw [perform_transfer_of_null hl hm' hcount hf, hreachl, hreachm]
        rfl
    rcases dest with _ | d
    · cases hl
      refine hnull _ rfl ?_
      rw [Step.nullFault?, if_neg hcount]
    rcases source with _ | e
    · cases hm'
      obtain ⟨x, hx, -⟩ := hdest d rfl
      rw [location?_some hx] at hl
      cases hl
      refine hnull _ rfl ?_
      rw [Step.nullFault?, if_neg hcount]
    · obtain ⟨x, hx, -⟩ := hdest d rfl
      obtain ⟨y, hy, -⟩ := hsource e rfl
      rw [location?_some hx] at hl
      rw [location?_some hy] at hm'
      cases hl
      cases hm'
      refine agrees_transfer_blocks hm hx hy hcount ⟨hreachl, hreachm, fun ht => ?_⟩
      exact overlapping_eq_false (hm.same_iff hx hy) (hdisjoint ht d rfl e rfl)

end

/-! ## All calls -/

variable {c : Step}

/-- Every call that keeps to its contract succeeds as the owner does, or ends the process if the
owner fails. -/
theorem agrees_of_proper (hm : p.Matches [] s) (hc : c.OfMemory) (hproper : c.Proper p) :
    c.Agrees p s := by
  cases hc with
  | allocate id size count => exact agrees_allocate hm size count
  | reallocate id length => exact agrees_reallocate hm id length
  | free id => exact agrees_free hm id
  | poke id offset bs => exact agrees_poke hm hproper
  | transfer t dest source count => exact agrees_transfer hm hproper

/-- A call that comes back has done what the owner has done. -/
lemma matches_perform {a : Answer} (hm : p.Matches [] s) (hc : c.OfMemory)
    (h : c.perform p = .ok a q) : q.Matches [] (s.run (c.counterpart p)).1 := by
  -- a store or a copy that breaks its contract is not made, and neither is the owner's
  cases hc with
  | allocate id size count => exact (agrees_allocate hm size count).matches_of_ok h
  | reallocate id length => exact (agrees_reallocate hm id length).matches_of_ok h
  | free id => exact (agrees_free hm id).matches_of_ok h
  | poke id offset bs => exact matches_poke hm h
  | transfer t dest source count => exact matches_transfer hm h

/-! ## Whole runs -/

theorem matches_after? {calls : List Step} (hm : p.Matches [] s) (hcalls : ∀ c ∈ calls, c.OfMemory)
    (h : p.after? calls = some q) : q.Matches [] (s.run (p.ownerScript calls)).1 := by
  induction calls generalizing p s with
  | nil =>
    cases h
    exact hm
  | cons c calls ih =>
    rw [List.forall_mem_cons] at hcalls
    obtain ⟨a, r, hc, hrest⟩ := after?_cons_eq_some.1 h
    have hr := matches_perform hm hcalls.1 hc
    rw [ownerScript, hc, Session.run_append]
    exact ih hr hcalls.2 hrest

lemma eq_of_transfer_ok {t : Action.Transfer} {dest source l : Option Location} {count : UInt64}
    (h : Action.transfer t dest source count p = .ok l q) : l = dest := by
  unfold Action.transfer at h
  split at h
  · cases h
    rfl
  · split at h
    · exact absurd h (abortWith_ne_ok _)
    · exact absurd h (abortWith_ne_ok _)
    · cases h
      rfl

/-- Whatever calls a compiled program has made, the bytes, lengths and counters of its memory are
those of the owner who has run the matching operations.  The next call succeeds and shows what the
owner would see if its operation succeeds, and ends the process with the fault of that operation
otherwise; a copy does so too that needs a pointer and has none.  A copy answers its destination. -/
theorem memory_calls_refine_owners :
    (∀ platform environment args device,
      (start platform environment args device).Matches [] (.start platform.capacity)) ∧
    (∀ (p q : Program) (s : Session) (calls : List Step), p.Matches [] s →
      (∀ c ∈ calls, c.OfMemory) → p.after? calls = some q →
        q.Matches [] (s.run (p.ownerScript calls)).1 ∧
          ∀ c : Step, c.OfMemory → c.Proper q → c.Agrees q (s.run (p.ownerScript calls)).1) ∧
    ∀ (t : Action.Transfer) (dest source l : Option Location) (count : UInt64) (p q : Program),
      Action.transfer t dest source count p = .ok l q → l = dest := by
  refine ⟨matches_start, ?_, fun _ _ _ _ _ _ _ => eq_of_transfer_ok⟩
  intro p q s calls hm hcalls hrun
  have hq := matches_after? hm hcalls hrun
  exact ⟨hq, fun c hc hproper => agrees_of_proper hq hc hproper⟩

/-- A block that is asked for, written to and moved, and a copy to nowhere. -/
theorem memory_calls_refine_owners_moved :
    let p := start .standard .empty [] .working
    let calls : List Step := [.allocate 0 2 2, .poke 0 1 [7, 8], .reallocate 0 5]
    ∃ q, p.after? calls = some q ∧
      (∃ a r, (Step.transfer .move (some ⟨0, 2⟩) (some ⟨0, 1⟩) 2).perform q = .ok a r ∧
        a = .destination (some (5, [0, 7, 7, 8, 0]))) ∧
      ∃ r, (Step.transfer .copy none none 1).perform q =
        Action.abortWith (.nullPointer "memcpy destination") r := by
  intro p calls
  obtain ⟨hstart, hruns, -⟩ := memory_calls_refine_owners
  have hcalls : ∀ c ∈ calls, c.OfMemory := by
    intro c hc
    simp only [calls, List.mem_cons, List.not_mem_nil, or_false] at hc
    rcases hc with rfl | rfl | rfl
    · exact .allocate 0 2 2
    · exact .poke 0 1 [7, 8]
    · exact .reallocate 0 5
  obtain ⟨-, hnext⟩ := hruns p _ _ calls (hstart .standard .empty [] .working) hcalls rfl
  refine ⟨_, rfl, ?_, ?_⟩
  · have hmove := hnext (.transfer .move (some ⟨0, 2⟩) (some ⟨0, 1⟩) 2) (.transfer _ _ _ _)
      ⟨by rintro _ ⟨⟩; exact ⟨_, rfl, by decide +kernel⟩,
        by rintro _ ⟨⟩; exact ⟨_, rfl, by decide +kernel⟩, nofun⟩
    rw [Step.Agrees, show Step.failure? _ _ _ = none by decide +kernel] at hmove
    obtain ⟨a, r, hcall, -, hanswers⟩ := hmove
    exact ⟨a, r, hcall, hanswers.trans (congrArg Answer.destination (by decide +kernel))⟩
  · have hnull := hnext (.transfer .copy none none 1) (.transfer _ _ _ _) ⟨nofun, nofun, nofun⟩
    obtain ⟨r, -, hcall⟩ := hnull
    exact ⟨r, hcall⟩

end RuntimeSupport.Program
