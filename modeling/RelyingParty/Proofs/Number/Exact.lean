import Mathlib.Algebra.Order.Field.Power
import Mathlib.Data.Rat.Cast.Order
import Mathlib.Tactic.NormNum
import Mathlib.Tactic.Ring
import RelyingParty.Value.Basic

set_option autoImplicit false

/-! # The exact value of a number

A finite number of binary64 has an exact value, a rational number. In canonical form no two finite
numbers but the zeros have the same one, so that comparing the parts of two numbers is comparing
their values, and integers and floating-point numbers can be told from each other by what they are
worth: `same_iff_worth_eq`. -/

namespace RelyingParty

namespace Binary64

/-- Canonical form: the significand has 53 binary digits, or the exponent is the least one. -/
def IsCanonical : Binary64 → Prop
  | .finite _ m e => m < twoTo 53 ∧ minExponent ≤ e ∧ (twoTo 52 ≤ m ∨ e = minExponent)
  | _ => True

/-- The value of a finite number. -/
def value (negative : Bool) (significand : Nat) (exponent : Int) : ℚ :=
  (signed negative significand : ℚ) * 2 ^ exponent

/-! ## Numbers and integers -/

theorem signed_mul (negative : Bool) (m n : Nat) :
    signed negative (m * n) = signed negative m * n := by
  cases negative with
  | false => simp [signed]
  | true => simp [signed]

/-- A magnitude as a quotient is worth what it is. -/
theorem value_mul_den (negative : Bool) (m : Nat) (e : Int) :
    value negative m e * (ratio m e).2 = (signed negative (ratio m e).1 : ℚ) := by
  unfold ratio value
  split
  · next he =>
    obtain ⟨n, rfl⟩ := Int.eq_ofNat_of_zero_le he
    rw [signed_mul]
    simp [twoTo]
  · next he =>
    obtain ⟨n, hn⟩ := Int.eq_ofNat_of_zero_le (show 0 ≤ -e by omega)
    obtain rfl : e = -n := by omega
    simp only [neg_neg, Int.toNat_natCast, twoTo, Nat.pow_eq, Nat.cast_pow, Nat.cast_ofNat]
    rw [zpow_neg, zpow_natCast, mul_assoc, inv_mul_cancel₀ (by positivity), mul_one]

theorem den_pos (m : Nat) (e : Int) : 0 < (ratio m e).2 := by
  unfold ratio
  split
  · exact Nat.one_pos
  · exact Nat.pow_pos (by decide)

/-- A number equals an integer if that is its value. -/
theorem equalsInt_finite_iff {negative : Bool} {m : Nat} {e n : Int} :
    (finite negative m e).equalsInt n = true ↔ value negative m e = n := by
  have hden : ((ratio m e).2 : ℚ) ≠ 0 := Nat.cast_ne_zero.2 (den_pos m e).ne'
  rw [← mul_left_inj' hden, value_mul_den]
  show (signed negative (ratio m e).1 == n * ((ratio m e).2 : Int)) = true ↔ _
  rw [beq_iff_eq]
  constructor
  · intro h
    exact_mod_cast congrArg (Int.cast (R := ℚ)) h
  · intro h
    exact_mod_cast h

/-! ## Numbers in canonical form -/

/-- Of two magnitudes in canonical form that have the same value, neither exponent is the greater
    one. -/
theorem exponent_le_of_value_eq {m n : Nat} {e f : Int} (hm : m < twoTo 53)
    (hn : twoTo 52 ≤ n ∨ f = minExponent) (he : minExponent ≤ e)
    (h : (m : ℚ) * 2 ^ e = (n : ℚ) * 2 ^ f) : f ≤ e := by
  by_contra hlt
  obtain ⟨d, hd⟩ := Int.eq_ofNat_of_zero_le (show 0 ≤ f - e - 1 by omega)
  obtain rfl : f = e + (d + 1 : Nat) := by push_cast; omega
  have hdigits : twoTo 52 ≤ n := by
    rcases hn with hn | hn
    · exact hn
    · push_cast at hn
      omega
  have hpow : (2 : ℚ) ^ e ≠ 0 := zpow_ne_zero e (by norm_num)
  rw [zpow_add₀ (by norm_num), zpow_natCast, mul_comm ((2 : ℚ) ^ e), ← mul_assoc,
    mul_left_inj' hpow] at h
  have hmul : m = n * 2 ^ (d + 1) := by exact_mod_cast h
  have htwo : n * 2 ≤ n * 2 ^ (d + 1) :=
    Nat.mul_le_mul_left n (Nat.le_self_pow (Nat.succ_ne_zero d) 2)
  have hsum : twoTo 53 = twoTo 52 * 2 := by decide
  omega

theorem significand_eq_of_value_eq {m n : Nat} {e f : Int}
    (hm : IsCanonical (.finite false m e)) (hn : IsCanonical (.finite false n f))
    (h : (m : ℚ) * 2 ^ e = (n : ℚ) * 2 ^ f) :
    m = n ∧ e = f := by
  have hle : f ≤ e := exponent_le_of_value_eq hm.1 hn.2.2 hm.2.1 h
  have hge : e ≤ f := exponent_le_of_value_eq hn.1 hm.2.2 hn.2.1 h.symm
  obtain rfl : e = f := by omega
  have hpow : (2 : ℚ) ^ e ≠ 0 := zpow_ne_zero e (by norm_num)
  rw [mul_left_inj' hpow] at h
  exact ⟨by exact_mod_cast h, rfl⟩

theorem value_eq_zero_iff {negative : Bool} {m : Nat} {e : Int} :
    value negative m e = 0 ↔ m = 0 := by
  have hpow : (2 : ℚ) ^ e ≠ 0 := zpow_ne_zero e (by norm_num)
  rw [value, mul_eq_zero, or_iff_left hpow]
  cases negative with
  | false => simp [signed]
  | true => simp [signed]

/-- The sign of a magnitude that is not zero is that of its value. -/
theorem value_pos_iff {negative : Bool} {m : Nat} {e : Int} (hm : m ≠ 0) :
    0 < value negative m e ↔ negative = false := by
  have hpow : (0 : ℚ) < 2 ^ e := zpow_pos (by norm_num) e
  have hpos : 0 < m := Nat.pos_of_ne_zero hm
  rw [value, mul_pos_iff_of_pos_right hpow]
  cases negative with
  | false => simpa [signed] using hpos
  | true => simp [signed]

theorem abs_value (negative : Bool) (m : Nat) (e : Int) :
    |value negative m e| = (m : ℚ) * 2 ^ e := by
  have hpow : (0 : ℚ) < 2 ^ e := zpow_pos (by norm_num) e
  rw [value, abs_mul, abs_of_pos hpow]
  cases negative with
  | false => simp [signed]
  | true => simp [signed]

/-- **Finite numbers in canonical form are equal if their values are.** -/
theorem equals_finite_iff {a b : Bool} {m n : Nat} {e f : Int}
    (hm : IsCanonical (.finite a m e)) (hn : IsCanonical (.finite b n f)) :
    (finite a m e).equals (.finite b n f) = true ↔ value a m e = value b n f := by
  have hparts : (finite a m e).equals (.finite b n f) = true ↔
      m = n ∧ (m = 0 ∨ a = b ∧ e = f) := by
    simp [equals]
  rw [hparts]
  constructor
  · rintro ⟨rfl, hzero | ⟨rfl, rfl⟩⟩
    · rw [value_eq_zero_iff.2 hzero, value_eq_zero_iff.2 hzero]
    · rfl
  · intro h
    by_cases hzero : m = 0
    · have hother : n = 0 := value_eq_zero_iff.1 (h ▸ value_eq_zero_iff.2 hzero)
      exact ⟨hzero.trans hother.symm, Or.inl hzero⟩
    · have hother : n ≠ 0 := fun hn => hzero (value_eq_zero_iff.1 (h ▸ value_eq_zero_iff.2 hn))
      have habs : (m : ℚ) * 2 ^ e = (n : ℚ) * 2 ^ f := by rw [← abs_value a, ← abs_value b, h]
      obtain ⟨rfl, rfl⟩ := significand_eq_of_value_eq hm hn habs
      have hsign : a = false ↔ b = false := by
        rw [← value_pos_iff hzero, ← value_pos_iff hzero, h]
      refine ⟨rfl, Or.inr ⟨?_, rfl⟩⟩
      cases a <;> cases b <;> simp_all

end Binary64

namespace Numeric

open Binary64

/-- What a number is worth: a rational number, or itself if it is not finite. -/
def worth : Numeric → ℚ ⊕ Binary64
  | .whole n => .inl n
  | .real (.finite negative m e) => .inl (value negative m e)
  | .real x => .inr x

/-- Integers, and floating-point numbers in canonical form. -/
def IsCanonical : Numeric → Prop
  | .whole _ => True
  | .real x => x.IsCanonical

/-- **Numbers are the same if they are worth the same.** -/
theorem same_iff_worth_eq {x y : Numeric} (hx : x.IsCanonical) (hy : y.IsCanonical) :
    x.same y = true ↔ x.worth = y.worth := by
  cases x with
  | whole a =>
    cases y with
    | whole b => simp [same, worth]
    | real y =>
      cases y with
      | finite negative m e =>
        rw [same, equalsInt_finite_iff, worth, worth, Sum.inl.injEq]
        exact eq_comm
      | nan tag => simp [same, worth, equalsInt]
      | infinity negative => simp [same, worth, equalsInt]
  | real x =>
    cases y with
    | whole b =>
      cases x with
      | finite negative m e => simp [same, worth, equalsInt_finite_iff]
      | nan tag => simp [same, worth, equalsInt]
      | infinity negative => simp [same, worth, equalsInt]
    | real y =>
      cases x with
      | finite a m e =>
        cases y with
        | finite b n f => simp [same, worth, isNan, equals_finite_iff hx hy]
        | nan tag => simp [same, worth, equals, isNan]
        | infinity negative => simp [same, worth, equals, isNan]
      | nan tag => cases y <;> simp [same, worth, equals, isNan]
      | infinity negative => cases y <;> simp [same, worth, equals, isNan]

end Numeric

end RelyingParty
