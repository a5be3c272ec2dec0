import RelyingParty.Proofs.Text.Encoding

set_option autoImplicit false

/-! # Surrogate pairs come together again

Code points that are written by their UTF-16 units come back when the pairs are joined, unless two
halves that stood side by side make a pair by themselves: `joinSurrogates_pointUnits`. Text has no
halves in it, so that it is left as it is: `joinSurrogates_map_toNat`. -/

namespace RelyingParty.Text

/-! ## Joining -/

theorem joinSurrogates_of_not_high {n : Nat} (h : isHighSurrogate n = false) (ms : List Nat) :
    joinSurrogates (n :: ms) = n :: joinSurrogates ms := by
  cases ms with
  | nil => rfl
  | cons m rest => rw [joinSurrogates, h, Bool.false_and, if_neg Bool.false_ne_true]

theorem joinSurrogates_of_not_low {m : Nat} (n : Nat) (h : isLowSurrogate m = false)
    (ms : List Nat) : joinSurrogates (n :: m :: ms) = n :: joinSurrogates (m :: ms) := by
  rw [joinSurrogates, h, Bool.and_false, if_neg Bool.false_ne_true]

theorem joinSurrogates_pair {n m : Nat} (hn : isHighSurrogate n = true)
    (hm : isLowSurrogate m = true) (ms : List Nat) :
    joinSurrogates (n :: m :: ms) = pairPoint n m :: joinSurrogates ms := by
  rw [joinSurrogates, hn, hm, Bool.and_true, if_pos rfl]

/-- The code point of a pair is no half of one. -/
theorem not_surrogate_pairPoint (n m : Nat) :
    isHighSurrogate (pairPoint n m) = false ∧ isLowSurrogate (pairPoint n m) = false := by
  have hlarge : 0x10000 ≤ pairPoint n m := by
    unfold pairPoint
    omega
  simp only [isHighSurrogate, isLowSurrogate, Bool.and_eq_false_iff, decide_eq_false_iff_not]
  omega

/-- Joining makes no second half of a pair. -/
theorem exists_joinSurrogates_cons {n : Nat} (h : isLowSurrogate n = false) (ns : List Nat) :
    ∃ m ms, joinSurrogates (n :: ns) = m :: ms ∧ isLowSurrogate m = false := by
  cases ns with
  | nil => exact ⟨n, [], rfl, h⟩
  | cons k ks =>
    rw [joinSurrogates]
    split
    · exact ⟨_, _, rfl, (not_surrogate_pairPoint n k).2⟩
    · exact ⟨n, _, rfl, h⟩

/-- **After joining, no pair is left.** -/
theorem joinSurrogates_joinSurrogates (points : List Nat) :
    joinSurrogates (joinSurrogates points) = joinSurrogates points := by
  induction points using joinSurrogates.induct with
  | case1 => rfl
  | case2 n => rfl
  | case3 n m rest hpair ih =>
    rw [joinSurrogates, if_pos hpair,
      joinSurrogates_of_not_high (not_surrogate_pairPoint n m).1, ih]
  | case4 n m rest hpair ih =>
    rw [joinSurrogates, if_neg hpair]
    cases hn : isHighSurrogate n with
    | false => rw [joinSurrogates_of_not_high hn, ih]
    | true =>
      -- a first half stands alone, since no second one comes after it
      have hm : isLowSurrogate m = false := by simpa [hn] using hpair
      obtain ⟨k, ks, hjoined, hk⟩ := exists_joinSurrogates_cons hm rest
      rw [hjoined] at ih ⊢
      rw [joinSurrogates_of_not_low n hk, ih]

theorem joinSurrogates_lt {points : List Nat} (h : ∀ n ∈ points, n < 0x110000) :
    ∀ n ∈ joinSurrogates points, n < 0x110000 := by
  induction points using joinSurrogates.induct with
  | case1 => exact h
  | case2 n => exact h
  | case3 n m rest hpair ih =>
    rw [joinSurrogates, if_pos hpair]
    have hpoint : pairPoint n m < 0x110000 := by
      simp only [isHighSurrogate, isLowSurrogate, Bool.and_eq_true, decide_eq_true_eq] at hpair
      unfold pairPoint
      omega
    exact List.forall_mem_cons.2 ⟨hpoint, ih fun k hk => h k (by simp [hk])⟩
  | case4 n m rest hpair ih =>
    rw [joinSurrogates, if_neg hpair]
    exact List.forall_mem_cons.2 ⟨h n (List.mem_cons_self ..),
      ih fun k hk => h k (List.mem_cons_of_mem _ hk)⟩

/-! ## Units of code points -/

/-- The units of sixteen bits of a code point; a half of a pair is its own. -/
def pointUnits (n : Nat) : List Nat :=
  if n < 0x10000 then [n] else [0xD800 + (n - 0x10000) / 1024, 0xDC00 + (n - 0x10000) % 1024]

theorem pointUnits_of_small {n : Nat} (h : n < 0x10000) : pointUnits n = [n] := if_pos h

/-- A large code point has the units of a pair. -/
theorem pointUnits_of_large {n : Nat} (h : ¬ n < 0x10000) (hn : n < 0x110000) :
    ∃ high low, pointUnits n = [high, low] ∧ isHighSurrogate high = true
      ∧ isLowSurrogate low = true ∧ isLowSurrogate high = false ∧ pairPoint high low = n := by
  refine ⟨_, _, if_neg h, ?_, ?_, ?_, ?_⟩
  · simp only [isHighSurrogate, Bool.and_eq_true, decide_eq_true_eq]
    omega
  · simp only [isLowSurrogate, Bool.and_eq_true, decide_eq_true_eq]
    omega
  · simp only [isLowSurrogate, Bool.and_eq_false_iff, decide_eq_false_iff_not]
    omega
  · unfold pairPoint
    omega

/-- **The units of code points join to what the code points join to.** -/
theorem joinSurrogates_pointUnits {points : List Nat} (h : ∀ n ∈ points, n < 0x110000) :
    joinSurrogates (points.flatMap pointUnits) = joinSurrogates points := by
  induction points using joinSurrogates.induct with
  | case1 => rfl
  | case2 n =>
    rw [List.flatMap_cons, List.flatMap_nil, List.append_nil]
    by_cases hsmall : n < 0x10000
    · rw [pointUnits_of_small hsmall]
    · obtain ⟨high, low, hunits, hhigh, hlow, -, hpair⟩ :=
        pointUnits_of_large hsmall (h n (List.mem_cons_self ..))
      rw [hunits, joinSurrogates_pair hhigh hlow, hpair]
      rfl
  | case3 n m rest hpair ih =>
    rw [Bool.and_eq_true] at hpair
    obtain ⟨hn, hm⟩ := hpair
    have hnsmall : n < 0x10000 := by
      simp only [isHighSurrogate, Bool.and_eq_true, decide_eq_true_eq] at hn
      omega
    have hmsmall : m < 0x10000 := by
      simp only [isLowSurrogate, Bool.and_eq_true, decide_eq_true_eq] at hm
      omega
    rw [List.flatMap_cons, List.flatMap_cons, pointUnits_of_small hnsmall,
      pointUnits_of_small hmsmall, List.singleton_append, List.singleton_append,
      joinSurrogates_pair hn hm, joinSurrogates_pair hn hm,
      ih fun k hk => h k (List.mem_cons_of_mem _ (List.mem_cons_of_mem _ hk))]
  | case4 n m rest hpair ih =>
    have hrest := ih fun k hk => h k (List.mem_cons_of_mem _ hk)
    have hself : joinSurrogates (n :: m :: rest) = n :: joinSurrogates (m :: rest) := by
      rw [joinSurrogates, if_neg hpair]
    rw [List.flatMap_cons, hself, ← hrest]
    by_cases hsmall : n < 0x10000
    · rw [pointUnits_of_small hsmall, List.singleton_append]
      cases hn : isHighSurrogate n with
      | false => exact joinSurrogates_of_not_high hn _
      | true =>
        -- what comes after a first half does not begin with a second one
        have hm : isLowSurrogate m = false := by simpa [hn] using hpair
        rw [List.flatMap_cons]
        by_cases hmsmall : m < 0x10000
        · rw [pointUnits_of_small hmsmall, List.singleton_append]
          exact joinSurrogates_of_not_low n hm _
        · obtain ⟨high, low, hunits, -, -, hhigh, -⟩ := pointUnits_of_large hmsmall
            (h m (List.mem_cons_of_mem _ (List.mem_cons_self ..)))
          rw [hunits]
          exact joinSurrogates_of_not_low n hhigh _
    · obtain ⟨high, low, hunits, hhigh, hlow, -, hpoint⟩ :=
        pointUnits_of_large hsmall (h n (List.mem_cons_self ..))
      rw [hunits]
      show joinSurrogates (high :: low :: (m :: rest).flatMap pointUnits) = _
      rw [joinSurrogates_pair hhigh hlow, hpoint]

/-! ## Units of text -/

theorem isHighSurrogate_toNat (c : Char) : isHighSurrogate c.toNat = false := by
  have hvalid : c.toNat < 0xD800 ∨ 0xDFFF < c.toNat ∧ c.toNat < 0x110000 := c.valid
  simp only [isHighSurrogate, Bool.and_eq_false_iff, decide_eq_false_iff_not]
  omega

theorem utf16Units_lt (c : Char) : ∀ n ∈ utf16Units c, n < 0x10000 := by
  have hvalid : c.toNat < 0xD800 ∨ 0xDFFF < c.toNat ∧ c.toNat < 0x110000 := c.valid
  intro n hn
  unfold utf16Units at hn
  split at hn
  · next hsmall =>
    rw [List.mem_singleton.1 hn]
    exact hsmall
  · simp only [List.mem_cons, List.not_mem_nil, or_false] at hn
    omega

theorem utf16Units_of_ascii {c : Char} (h : c.toNat < 0x80) : utf16Units c = [c.toNat] :=
  if_pos (by omega)

theorem toNat_lt_of_mem {cs : List Char} : ∀ n ∈ cs.map Char.toNat, n < 0x110000 := by
  intro n hn
  obtain ⟨c, -, rfl⟩ := List.mem_map.1 hn
  have hvalid : c.toNat < 0xD800 ∨ 0xDFFF < c.toNat ∧ c.toNat < 0x110000 := c.valid
  omega

/-- There is no pair among characters. -/
theorem joinSurrogates_map_toNat (cs : List Char) :
    joinSurrogates (cs.map Char.toNat) = cs.map Char.toNat := by
  refine joinSurrogates_eq_self fun n hn => ?_
  obtain ⟨c, -, rfl⟩ := List.mem_map.1 hn
  exact isHighSurrogate_toNat c

end RelyingParty.Text
