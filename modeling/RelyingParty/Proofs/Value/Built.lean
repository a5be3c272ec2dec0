import RelyingParty.Proofs.Entries
import RelyingParty.Proofs.Value.Equality

set_option autoImplicit false

/-! # Values built from strings and numbers

`Built allowed` describes the values that attributes are made of: null, booleans, integers, strings
and members of enumerations, put together by lists and by mappings from different strings, of which
only some may be allowed as keys. Such a value is the same as itself, and its mappings are what
their entries build. -/

namespace RelyingParty.Value

/-! ## Strings -/

/-- Code points that are no text, and no two of which make a pair. -/
structure IsBroken (points : List Nat) : Prop where
  bound : ∀ n ∈ points, n < 0x110000
  unpaired : Text.joinSurrogates points = points
  noText : Text.ofPoints? points = none

/-- A string is text, or broken text. Two halves that make a pair are a character of text. -/
def IsString (v : Value) : Prop :=
  (∃ s, v = .text s) ∨ ∃ points, v = .brokenText points ∧ IsBroken points

theorem isString_text (s : String) : IsString (.text s) := Or.inl ⟨s, rfl⟩

theorem IsString.isText {v : Value} (h : v.IsString) : v.isText = true := by
  rcases h with ⟨s, rfl⟩ | ⟨points, rfl, -⟩
  · rfl
  · rfl

/-! ## Values -/

/-- Values of null, booleans, integers, strings and members, put together by lists and by mappings
    from different strings that are allowed as keys. -/
inductive Built (allowed : Value → Prop) : Value → Prop
  | null : Built allowed .null
  | bool (b : Bool) : Built allowed (.bool b)
  | int (n : Int) : Built allowed (.int n)
  | string {v : Value} (h : v.IsString) : Built allowed v
  | member (m : Member) : Built allowed (.member m)
  | list {xs : List Value} (h : ∀ x ∈ xs, Built allowed x) : Built allowed (.list xs)
  | dict {entries : List (Value × Value)} (hkeys : ∀ e ∈ entries, e.1.IsString ∧ allowed e.1)
    (hdistinct : (Entries.keys entries).Nodup) (h : ∀ e ∈ entries, Built allowed e.2) :
    Built allowed (.dict entries)

variable {allowed : Value → Prop}

/-- More keys may be allowed. -/
theorem Built.mono {allowed' : Value → Prop} (hle : ∀ k, allowed k → allowed' k) {v : Value}
    (h : Built allowed v) : Built allowed' v := by
  induction h with
  | null => exact .null
  | bool b => exact .bool b
  | int n => exact .int n
  | string h => exact .string h
  | member m => exact .member m
  | list _ ih => exact .list ih
  | dict hkeys hdistinct _ ih =>
    exact .dict (fun e he => ⟨(hkeys e he).1, hle _ (hkeys e he).2⟩) hdistinct ih

/-- **A built value is the same as itself.** -/
theorem Built.same_self {v : Value} (h : Built allowed v) : v.same v = true := by
  induction h with
  | null => rw [same]
  | bool b => simp only [same, numeric?, Numeric.same, beq_self_eq_true]
  | int n => simp only [same, numeric?, Numeric.same, beq_self_eq_true]
  | string h => exact (same_iff_of_isText h.isText).2 rfl
  | member m => rw [same, beq_self_eq_true]
  | list _ ih =>
    rw [same]
    exact sameList_self ih
  | dict hkeys hdistinct _ ih =>
    exact same_dict_self (fun e he => (hkeys e he).1.isText) hdistinct ih

/-- No built value is a number that is no number. -/
theorem Built.equals_self {v : Value} (h : Built allowed v) : v.equals v = true := by
  have hsame : v.equals v = v.same v := by
    cases h with
    | string hs =>
      rcases hs with ⟨s, rfl⟩ | ⟨points, rfl, -⟩
      · rfl
      · rfl
    | _ => rfl
  rw [hsame]
  exact h.same_self

/-- Entries under different strings build themselves. -/
theorem ofPairs_eq_self_of_isString {entries : List (Value × Value)}
    (hkeys : ∀ e ∈ entries, e.1.IsString) (hdistinct : (Entries.keys entries).Nodup) :
    Entries.ofPairs entries = entries := by
  refine Entries.ofPairs_eq_self ?_
  have hne : entries.Pairwise fun p q => p.1 ≠ q.1 := List.pairwise_map.1 hdistinct
  refine hne.imp_of_mem fun hp _ hpq => ?_
  exact beq_eq_false_of_isText (hkeys _ hp).isText hpq

end RelyingParty.Value
