import RelyingParty.Json.Printer

set_option autoImplicit false

/-! # Integers of JSON come back

An integer is written with ASCII digits, without a zero before them, and nothing that may follow a
value continues a number: `value_of_integerText`. The writer refuses what has too many digits for
the reader, so that every integer that is written is read. -/

namespace RelyingParty.Json

/-! ## Ends -/

/-- What may follow a value: nothing, or the end or the next item of what it is in. -/
def Closes (rest : List Char) : Prop := ∀ c ∈ rest.head?, c = ',' ∨ c = ']' ∨ c = '\x7d'

theorem closes_nil : Closes [] := by simp [Closes]

theorem closes_comma (rest : List Char) : Closes (',' :: rest) := by simp [Closes]

theorem closes_bracket (rest : List Char) : Closes (']' :: rest) := by simp [Closes]

theorem closes_brace (rest : List Char) : Closes ('\x7d' :: rest) := by simp [Closes]

/-- An end is nothing, or a character that is none of a number's. -/
theorem Closes.cases {rest : List Char} (h : Closes rest) :
    rest = [] ∨ ∃ c cs, rest = c :: cs ∧ Text.asciiDigit? c = none ∧ c ≠ '.' ∧ c ≠ 'e'
      ∧ c ≠ 'E' := by
  cases rest with
  | nil => exact Or.inl rfl
  | cons c cs =>
    refine Or.inr ⟨c, cs, rfl, ?_⟩
    rcases h c rfl with rfl | rfl | rfl
    · decide
    · decide
    · decide

theorem digitRun_of_closes {rest : List Char} (h : Closes rest) : digitRun rest = ([], rest) := by
  rcases h.cases with rfl | ⟨c, cs, rfl, hdigit, -⟩
  · rfl
  · rw [digitRun, hdigit]

theorem fraction_of_closes {rest : List Char} (h : Closes rest) : fraction rest = ([], rest) := by
  rcases h.cases with rfl | ⟨c, cs, rfl, -, hpoint, -⟩
  · rfl
  · rw [fraction]
    intro _ heq
    exact hpoint (List.cons.inj heq).1

theorem exponent?_of_closes {rest : List Char} (h : Closes rest) :
    exponent? rest = (none, rest) := by
  rcases h.cases with rfl | ⟨c, cs, rfl, -, -, hlower, hupper⟩
  · rfl
  · unfold exponent?
    exact if_neg (not_or.2 ⟨hlower, hupper⟩)

/-! ## Digits -/

theorem ne_of_isDigit {c d : Char} (hc : c.isDigit = true) (hd : d.isDigit = false) : c ≠ d := by
  rintro rfl
  exact absurd hc (by simp [hd])

theorem asciiDigit?_of_isDigit {c : Char} (h : c.isDigit = true) :
    Text.asciiDigit? c = some (c.toNat - 48) := by
  simp only [Char.isDigit, Bool.and_eq_true, decide_eq_true_eq] at h
  exact if_pos h

theorem digitRun_append {cs rest : List Char} (hcs : ∀ c ∈ cs, c.isDigit = true)
    (hrest : Closes rest) :
    digitRun (cs ++ rest) = (cs.map (fun c => c.toNat - 48), rest) := by
  induction cs with
  | nil => exact digitRun_of_closes hrest
  | cons c cs ih =>
    rw [List.cons_append, digitRun, asciiDigit?_of_isDigit (hcs c (List.mem_cons_self ..)),
      ih fun d hd => hcs d (List.mem_cons_of_mem _ hd)]
    rfl

/-- The digits a number is written with. -/
def digitsOf (n : Nat) : List Nat := (Nat.toDigits 10 n).map fun c => c.toNat - 48

theorem ofDigits_digitsOf (n : Nat) : Integer.ofDigits (digitsOf n) = n := by
  rw [Integer.ofDigits, digitsOf, List.foldl_map]
  exact Nat.ofDigitChars_ten_toDigits

theorem isDigit_of_mem {n : Nat} {c : Char} (h : c ∈ Nat.toDigits 10 n) : c.isDigit = true :=
  Nat.isDigit_of_mem_toDigits (by decide) (by decide) h

/-- The first digit is no zero, unless it is the only one. -/
theorem digitsOf_cases (n : Nat) :
    n = 0 ∨ ∃ d ds, digitsOf n = d :: ds ∧ d ≠ 0 := by
  -- all digits but the last one are those of a tenth
  induction n using Nat.strongRecOn with
  | ind n ih =>
    by_cases hsmall : n < 10
    · rcases Nat.eq_zero_or_pos n with hzero | hpos
      · exact Or.inl hzero
      · refine Or.inr ⟨n, [], ?_, by omega⟩
        rw [digitsOf, Nat.toDigits_of_lt_base hsmall, List.map_singleton,
          Nat.toNat_digitChar_sub_48_of_lt_ten hsmall]
    · rcases ih (n / 10) (by omega) with hzero | ⟨d, ds, hdigits, hd⟩
      · omega
      · refine Or.inr ⟨d, ds ++ [n % 10], ?_, hd⟩
        rw [digitsOf, Nat.toDigits_of_base_le (by decide) (by omega), List.map_append,
          List.map_singleton, Nat.toNat_digitChar_sub_48_of_lt_ten (Nat.mod_lt _ (by decide))]
        rw [digitsOf] at hdigits
        rw [hdigits, List.cons_append]

theorem wholePart_toDigits (n : Nat) {rest : List Char} (hrest : Closes rest) :
    wholePart (Nat.toDigits 10 n ++ rest) = (digitsOf n, rest) := by
  have hrun : digitRun (Nat.toDigits 10 n ++ rest) = (digitsOf n, rest) :=
    digitRun_append (fun c => isDigit_of_mem) hrest
  rcases digitsOf_cases n with rfl | ⟨d, ds, hdigits, hd⟩
  · rw [wholePart, hrun]
    rfl
  · rw [wholePart, hrun, hdigits]
    cases d with
    | zero => exact absurd rfl hd
    | succ d => rfl

/-! ## Numbers -/

/-- A whole number by its digits. -/
def wholeNumeral (n : Nat) : Numeral := ⟨digitsOf n, [], none⟩

theorem numeral?_toDigits (n : Nat) {rest : List Char} (hrest : Closes rest) :
    numeral? (Nat.toDigits 10 n ++ rest) = some (wholeNumeral n, rest) := by
  obtain ⟨d, ds, hdigits⟩ : ∃ d ds, digitsOf n = d :: ds :=
    List.exists_cons_of_ne_nil (by simp [digitsOf])
  simp only [numeral?, wholePart_toDigits n hrest, wholeNumeral, hdigits,
    fraction_of_closes hrest, exponent?_of_closes hrest]

theorem value_wholeNumeral {n : Nat}
    (hlength : ¬ Integer.maxDigits < (Nat.toDigits 10 n).length) (negative : Bool) :
    (wholeNumeral n).value negative = .ok (.int (Binary64.signed negative n)) := by
  have hshort : ¬ Integer.maxDigits < (wholeNumeral n).whole.length := by
    rw [wholeNumeral, digitsOf, List.length_map]
    exact hlength
  unfold Numeral.value
  rw [if_neg hshort, wholeNumeral, ofDigits_digitsOf]
  rfl

/-- A number is read up to its end. -/
theorem number_toDigits {n : Nat} (hlength : ¬ Integer.maxDigits < (Nat.toDigits 10 n).length)
    (negative : Bool) {rest : List Char} (hrest : Closes rest) :
    number .exact negative (Nat.toDigits 10 n ++ rest)
      = .ok (.int (Binary64.signed negative n), rest) := by
  rw [number, numeral?_toDigits n hrest]
  show ((wholeNumeral n).value negative).map _ = _
  rw [value_wholeNumeral hlength]
  rfl

variable {style : NumberStyle} {depth fuel : Nat}

/-- A digit begins a number. -/
theorem value_of_digit {c : Char} (hc : c.isDigit = true) (cs : List Char) :
    value style depth (fuel + 1) (c :: cs) = number style false (c :: cs) := by
  rw [value]
  all_goals
    intros
    rename_i h
    exact ne_of_isDigit hc (by decide) (List.cons.inj h).1

/-- A digit after a sign begins a negative number. -/
theorem value_of_sign {c : Char} (hc : c.isDigit = true) (cs : List Char) :
    value style depth (fuel + 1) ('-' :: c :: cs) = number style true (c :: cs) := by
  rw [value]
  intro _ h
  exact ne_of_isDigit hc (by decide) (List.cons.inj h).1

theorem exists_toDigits (n : Nat) :
    ∃ c cs, Nat.toDigits 10 n = c :: cs ∧ c.isDigit = true := by
  obtain ⟨c, cs, hdigits⟩ := List.exists_cons_of_ne_nil (Nat.toDigits_ne_nil (n := n) (b := 10))
  exact ⟨c, cs, hdigits, isDigit_of_mem (by rw [hdigits]; exact List.mem_cons_self ..)⟩

theorem value_toDigits {n : Nat} (hlength : ¬ Integer.maxDigits < (Nat.toDigits 10 n).length)
    {rest : List Char} (hrest : Closes rest) :
    value .exact depth (fuel + 1) (Nat.toDigits 10 n ++ rest) = .ok (.int n, rest) := by
  obtain ⟨c, cs, hdigits, hc⟩ := exists_toDigits n
  have hnumber := number_toDigits hlength false hrest
  rw [hdigits, List.cons_append] at hnumber ⊢
  rw [value_of_digit hc, hnumber]
  rfl

theorem value_sign_toDigits {n : Nat} (hlength : ¬ Integer.maxDigits < (Nat.toDigits 10 n).length)
    {rest : List Char} (hrest : Closes rest) :
    value .exact depth (fuel + 1) ('-' :: (Nat.toDigits 10 n ++ rest))
      = .ok (.int (-n), rest) := by
  obtain ⟨c, cs, hdigits, hc⟩ := exists_toDigits n
  have hnumber := number_toDigits hlength true hrest
  rw [hdigits, List.cons_append] at hnumber ⊢
  rw [value_of_sign hc, hnumber]
  rfl

/-- An integer is written as its digits, after a sign if it is negative. -/
theorem toList_of_integerText {n : Int} {text : String} (h : integerText n = .ok text) :
    ¬ Integer.maxDigits < (Nat.toDigits 10 n.natAbs).length ∧
      (text.toList = Nat.toDigits 10 n.natAbs ∧ (n.natAbs : Int) = n
        ∨ text.toList = '-' :: Nat.toDigits 10 n.natAbs ∧ -(n.natAbs : Int) = n) := by
  unfold integerText at h
  split at h
  · exact absurd h (by simp)
  · next hlength =>
    refine ⟨hlength, ?_⟩
    rw [← Except.ok.inj h, Int.toString_eq_repr, Int.repr_eq_if]
    split
    · next hsign =>
      have habs : n.toNat = n.natAbs := by omega
      exact Or.inl ⟨by rw [Nat.toList_repr, habs], by omega⟩
    · next hsign =>
      have habs : (-n).toNat = n.natAbs := by omega
      refine Or.inr ⟨?_, by omega⟩
      rw [String.toList_append, Nat.toList_repr, habs]
      rfl

/-- **An integer that is written is read.** -/
theorem value_of_integerText {n : Int} {text : String} (h : integerText n = .ok text)
    {rest : List Char} (hrest : Closes rest) :
    value .exact depth (fuel + 1) (text.toList ++ rest) = .ok (.int n, rest) := by
  obtain ⟨hlength, htext⟩ := toList_of_integerText h
  rcases htext with ⟨htext, hn⟩ | ⟨htext, hn⟩
  · rw [htext, value_toDigits hlength hrest, hn]
  · rw [htext, List.cons_append, value_sign_toDigits hlength hrest, hn]

/-- An integer is written with digits and perhaps a sign. -/
theorem mem_of_integerText {n : Int} {text : String} (h : integerText n = .ok text) {c : Char}
    (hc : c ∈ text.toList) : c = '-' ∨ c.isDigit = true := by
  rcases (toList_of_integerText h).2 with ⟨htext, -⟩ | ⟨htext, -⟩
  · rw [htext] at hc
    exact Or.inr (isDigit_of_mem hc)
  · rw [htext] at hc
    exact (List.mem_cons.1 hc).imp_right isDigit_of_mem

theorem ne_nil_of_integerText {n : Int} {text : String} (h : integerText n = .ok text) :
    text.toList ≠ [] := by
  rcases (toList_of_integerText h).2 with ⟨htext, -⟩ | ⟨htext, -⟩
  · rw [htext]
    exact Nat.toDigits_ne_nil
  · rw [htext]
    exact List.cons_ne_nil _ _

end RelyingParty.Json
