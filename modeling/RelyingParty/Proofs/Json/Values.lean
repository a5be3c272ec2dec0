import Mathlib.Data.List.Induction
import Mathlib.Data.Nat.Digits.Defs
import RelyingParty.Json.Reader
import RelyingParty.Proofs.Steps
import RelyingParty.Proofs.Text.Surrogates
import RelyingParty.Proofs.Value.Built

set_option autoImplicit false

/-! # The values that JSON has

Whatever a text stands for is made of null, booleans, numbers and strings by arrays and by objects,
which have each of their names once: `isJson_of_read`. No integer has more digits than are read, and
no two halves of a surrogate pair stand side by side in a string.

What a property has to satisfy for that is `Inherited`. The invariant is `Gives`, about all three
parts of the reader; a call with more fuel keeps it if the calls inside it have it. -/

namespace RelyingParty

/-! ## Values -/

namespace Value

/-- The values that JSON has, with floating-point numbers among them only if there may be. -/
inductive IsJson (floats : Prop) : Value → Prop
  | null : IsJson floats .null
  | bool (b : Bool) : IsJson floats (.bool b)
  | int {n : Int} (h : (Nat.toDigits 10 n.natAbs).length ≤ Integer.maxDigits) :
    IsJson floats (.int n)
  | float (h : floats) (x : Binary64) : IsJson floats (.float x)
  | string {v : Value} (h : v.IsString) : IsJson floats v
  | list {xs : List Value} (h : ∀ x ∈ xs, IsJson floats x) : IsJson floats (.list xs)
  | dict {entries : List (Value × Value)} (hkeys : ∀ e ∈ entries, e.1.IsString)
    (hdistinct : (Entries.keys entries).Nodup) (h : ∀ e ∈ entries, IsJson floats e.2) :
    IsJson floats (.dict entries)

/-- Without floating-point numbers, they are built values. -/
theorem IsJson.built {v : Value} (h : v.IsJson False) : v.Built fun _ => True := by
  induction h with
  | null => exact .null
  | bool b => exact .bool b
  | int _ => exact .int _
  | float h => exact h.elim
  | string h => exact .string h
  | list _ ih => exact .list ih
  | dict hkeys hdistinct _ ih =>
    exact .dict (fun e he => ⟨hkeys e he, trivial⟩) hdistinct ih

theorem IsJson.of_dict {floats : Prop} {entries : List (Value × Value)}
    (h : (Value.dict entries).IsJson floats) :
    (∀ e ∈ entries, e.1.IsString) ∧ (Entries.keys entries).Nodup
      ∧ ∀ e ∈ entries, e.2.IsJson floats := by
  cases h with
  | string hs => exact absurd hs.isText (by simp [isText])
  | dict hkeys hdistinct hvalues => exact ⟨hkeys, hdistinct, hvalues⟩

theorem IsJson.sublist {floats : Prop} {some all : List (Value × Value)}
    (h : (Value.dict all).IsJson floats) (hsublist : List.Sublist some all) :
    (Value.dict some).IsJson floats := by
  obtain ⟨hkeys, hdistinct, hvalues⟩ := h.of_dict
  exact .dict (fun e he => hkeys e (hsublist.subset he)) (hdistinct.sublist (hsublist.map _))
    fun e he => hvalues e (hsublist.subset he)

/-- What a mapping has under a name is such a value, too. -/
theorem IsJson.fieldD {floats : Prop} {entries : List (Value × Value)}
    (h : (Value.dict entries).IsJson floats) (name : String) :
    (Value.fieldD entries name).IsJson floats := by
  obtain ⟨-, -, hvalues⟩ := h.of_dict
  unfold Value.fieldD
  cases hfield : field? entries name with
  | none => exact .null
  | some v =>
    obtain ⟨key, hmem, -⟩ := Entries.mem_of_get? hfield
    exact hvalues _ hmem

/-- Joined code points are a string. -/
theorem isString_ofPoints {points : List Nat} (h : ∀ n ∈ points, n < 0x110000) :
    (ofPoints (Text.joinSurrogates points)).IsString := by
  unfold ofPoints
  split
  · exact isString_text _
  · next hnone =>
    exact Or.inr ⟨_, rfl, Text.joinSurrogates_lt h, Text.joinSurrogates_joinSurrogates points,
      hnone⟩

/-- The mapping that pairs with strings for keys build has each key once, with a value of a pair. -/
theorem isJson_ofPairs {floats : Prop} {pairs : List (Value × Value)}
    (h : ∀ e ∈ pairs, e.1.IsString ∧ e.2.IsJson floats) :
    (Value.dict (Entries.ofPairs pairs)).IsJson floats := by
  have hentries : ∀ e ∈ Entries.insertAll [] pairs, e.1.IsString ∧ e.2.IsJson floats :=
    Entries.forall_mem_insertAll (p := IsString) (q := IsJson floats)
      (fun _ he => absurd he (by simp)) h
  have hself : ∀ e ∈ pairs, (e.1 == e.1) = true :=
    fun e he => (same_iff_of_isText (h e he).1.isText).2 rfl
  exact .dict (fun e he => (hentries e he).1) (Entries.nodup_keys_insertAll .nil hself)
    fun e he => (hentries e he).2

end Value

namespace Json

open Value

/-! ## Strings -/

theorem hexValue?_lt {c : Char} {n : Nat} (h : hexValue? c = some n) : n < 16 := by
  unfold hexValue? at h
  split at h
  · next hc =>
    have hlast : c.toNat ≤ 57 := hc.2
    have hn : c.toNat - 48 = n := Option.some.inj h
    omega
  · split at h
    · next hc =>
      have hlast : c.toNat ≤ 102 := hc.2
      have hn : c.toNat - 87 = n := Option.some.inj h
      omega
    · split at h
      · next hc =>
        have hlast : c.toNat ≤ 70 := hc.2
        have hn : c.toNat - 55 = n := Option.some.inj h
        omega
      · exact absurd h (by simp)

theorem hex4?_lt {a b c d : Char} {n : Nat} (h : hex4? a b c d = some n) : n < 0x10000 := by
  unfold hex4? at h
  simp only [Option.bind_eq_bind, Option.bind_eq_some_iff, Option.pure_def, Option.some.injEq] at h
  obtain ⟨i, hi, j, hj, k, hk, l, hl, hn⟩ := h
  have := hexValue?_lt hi
  have := hexValue?_lt hj
  have := hexValue?_lt hk
  have := hexValue?_lt hl
  omega

theorem toNat_lt (c : Char) : c.toNat < 0x110000 := by
  have hvalid : c.toNat < 0xD800 ∨ 0xDFFF < c.toNat ∧ c.toNat < 0x110000 := c.valid
  omega

/-- The units of a string are code points, one by one. -/
theorem stringUnits_lt {cs after : List Char} {units : List Nat}
    (h : stringUnits cs = some (units, after)) : ∀ n ∈ units, n < 0x110000 := by
  -- in all cases but the last quote, one code point comes before those of what follows
  have hcons : ∀ {rest : List Char} {n : Nat}, n < 0x110000 →
      (∀ {after : List Char} {units : List Nat}, stringUnits rest = some (units, after) →
        ∀ k ∈ units, k < 0x110000) → ∀ {units : List Nat} {after : List Char},
      (stringUnits rest).map (fun r => (n :: r.1, r.2)) = some (units, after) →
      ∀ k ∈ units, k < 0x110000 := by
    intro rest n hn ih units after hmap
    obtain ⟨⟨tail, after'⟩, htail, heq⟩ := Option.map_eq_some_iff.1 hmap
    obtain ⟨rfl, -⟩ := Prod.mk.inj heq
    exact List.forall_mem_cons.2 ⟨hn, ih htail⟩
  induction cs using stringUnits.induct generalizing units after with
  | case1 => exact absurd h (by simp [stringUnits])
  | case2 rest =>
    rw [stringUnits] at h
    rw [← (Prod.mk.inj (Option.some.inj h)).1]
    simp
  | case3 a b c d rest n hhex ih =>
    have hn : n < 0x10000 := hex4?_lt hhex
    rw [stringUnits, hhex] at h
    exact hcons (by omega) ih h
  | case4 a b c d rest hhex =>
    rw [stringUnits, hhex] at h
    exact absurd h (by simp)
  | case5 c rest hescape ch hletter ih =>
    rw [stringUnits, hletter] at h
    · exact hcons (toNat_lt ch) ih h
    · exact hescape
  | case6 c rest hescape hletter =>
    rw [stringUnits, hletter] at h
    · exact absurd h (by simp)
    · exact hescape
  | case7 c rest hquote hescape hslash hcontrol =>
    rw [stringUnits, if_pos hcontrol] at h
    · exact absurd h (by simp)
    all_goals assumption
  | case8 c rest hquote hescape hslash hcontrol ih =>
    rw [stringUnits, if_neg hcontrol] at h
    · exact hcons (toNat_lt c) ih h
    all_goals assumption

theorem isString_of_stringBody {cs after : List Char} {v : Value}
    (h : stringBody cs = some (v, after)) : v.IsString := by
  obtain ⟨⟨units, after'⟩, hunits, heq⟩ := Option.map_eq_some_iff.1 h
  rw [← (Prod.mk.inj heq).1]
  exact isString_ofPoints (stringUnits_lt hunits)

/-! ## Numbers -/

theorem digitRun_lt (cs : List Char) : ∀ d ∈ (digitRun cs).1, d < 10 := by
  induction cs with
  | nil => simp [digitRun]
  | cons c rest ih =>
    rw [digitRun]
    split
    · next d hd => exact List.forall_mem_cons.2 ⟨Text.asciiDigit?_lt hd, ih⟩
    · simp

theorem wholePart_lt (cs : List Char) : ∀ d ∈ (wholePart cs).1, d < 10 := by
  unfold wholePart
  split
  · simp
  · exact digitRun_lt cs

theorem ofDigits_lt {ds : List Nat} (h : ∀ d ∈ ds, d < 10) :
    Integer.ofDigits ds < 10 ^ ds.length := by
  induction ds using List.reverseRecOn with
  | nil => simp [Integer.ofDigits]
  | append_singleton ds d ih =>
    have hinit : Integer.ofDigits ds < 10 ^ ds.length := ih fun k hk => h k (by simp [hk])
    have hd : d < 10 := h d (by simp)
    have hlast : Integer.ofDigits (ds ++ [d]) = 10 * Integer.ofDigits ds + d := by
      simp [Integer.ofDigits]
    rw [hlast, List.length_append, List.length_singleton, Nat.pow_succ]
    omega

/-- A numeral stands for an integer with no more digits than it is written with. -/
theorem isJson_of_numeral {numeral : Numeral} (hne : numeral.whole ≠ [])
    (hdigits : ∀ d ∈ numeral.whole, d < 10) {negative : Bool} {v : Value}
    (h : numeral.value negative = .ok v) : v.IsJson True := by
  unfold Numeral.value at h
  split at h
  · split at h
    · exact absurd h (by simp)
    · next hlength =>
      rw [← Except.ok.inj h]
      have habs : (Binary64.signed negative (Integer.ofDigits numeral.whole)).natAbs
          = Integer.ofDigits numeral.whole := by
        cases negative with
        | false => exact Int.natAbs_natCast _
        | true => exact (Int.natAbs_neg _).trans (Int.natAbs_natCast _)
      refine .int ?_
      rw [habs]
      exact (Nat.toDigits_length 10 _ _ (List.length_pos_iff.2 hne) (ofDigits_lt hdigits)).trans
        (Nat.le_of_not_lt hlength)
  · rw [← Except.ok.inj h]
    exact .float trivial _

theorem whole_of_numeral? {cs rest : List Char} {numeral : Numeral}
    (h : numeral? cs = some (numeral, rest)) :
    numeral.whole ≠ [] ∧ ∀ d ∈ numeral.whole, d < 10 := by
  unfold numeral? at h
  split at h
  · exact absurd h (by simp)
  · next whole after hne hwhole =>
    obtain ⟨rfl, -⟩ := Prod.mk.inj (Option.some.inj h)
    have hdigits : ∀ d ∈ (wholePart cs).1, d < 10 := wholePart_lt cs
    rw [hwhole] at hdigits
    exact ⟨hne, hdigits⟩

theorem isJson_of_number {negative : Bool} {cs rest : List Char} {v : Value}
    (h : number .exact negative cs = .ok (v, rest)) : v.IsJson True := by
  unfold number at h
  split at h
  · exact absurd h (by simp)
  · next numeral rest' hnumeral =>
    obtain ⟨hne, hdigits⟩ := whole_of_numeral? hnumeral
    obtain ⟨v', hv, heq⟩ := map_eq_ok_iff.1 h
    obtain ⟨rfl, -⟩ := Prod.mk.inj heq
    exact isJson_of_numeral hne hdigits hv

/-! ## Arrays and objects -/

/-- A property that scalars have at any depth, and arrays and objects if what is in them has it one
    level further in. -/
structure Inherited (P : Nat → Value → Prop) : Prop where
  null : ∀ {depth}, P depth .null
  bool : ∀ {depth} (b : Bool), P depth (.bool b)
  float : ∀ {depth} (x : Binary64), P depth (.float x)
  string : ∀ {depth v}, v.IsString → P depth v
  number : ∀ {depth negative cs v rest}, number .exact negative cs = .ok (v, rest) → P depth v
  list : ∀ {depth xs}, (∀ x ∈ xs, P depth x) → P (depth + 1) (.list xs)
  dict : ∀ {depth pairs}, (∀ e ∈ pairs, e.1.IsString ∧ P depth e.2) →
    P (depth + 1) (.dict (Entries.ofPairs pairs))

/-- With some fuel, all that is read has a property at the depth to which it may be nested. -/
structure Gives (P : Nat → Value → Prop) (fuel : Nat) : Prop where
  value : ∀ {depth cs v rest}, value .exact depth fuel cs = .ok (v, rest) → P depth v
  elements : ∀ {depth cs xs rest}, elements .exact depth fuel cs = .ok (xs, rest) →
    ∀ x ∈ xs, P depth x
  members : ∀ {depth cs entries rest}, members .exact depth fuel cs = .ok (entries, rest) →
    ∀ e ∈ entries, e.1.IsString ∧ P depth e.2

namespace Inherited

variable {P : Nat → Value → Prop} {depth fuel : Nat} {cs rest : List Char}

theorem of_value (hP : Inherited P) (hgives : Gives P fuel) {v : Value}
    (h : value .exact depth (fuel + 1) cs = .ok (v, rest)) : P depth v := by
  unfold value at h
  split at h
  · split at h
    · next body hbody =>
      rw [Except.ok.inj h] at hbody
      exact hP.string (isString_of_stringBody hbody)
    · exact absurd h (by simp)
  -- what is in an array or an object is read with one level less
  · split at h
    · exact absurd h (by simp)
    · next hdepth =>
      obtain ⟨inner, rfl⟩ := Nat.exists_eq_succ_of_ne_zero hdepth
      split at h
      · rw [← (Prod.mk.inj (Except.ok.inj h)).1]
        exact hP.list (by simp)
      · split at h
        · next xs after hxs =>
          rw [← (Prod.mk.inj (Except.ok.inj h)).1]
          exact hP.list (hgives.elements hxs)
        · exact absurd h (by simp)
  · split at h
    · exact absurd h (by simp)
    · next hdepth =>
      obtain ⟨inner, rfl⟩ := Nat.exists_eq_succ_of_ne_zero hdepth
      split at h
      · rw [← (Prod.mk.inj (Except.ok.inj h)).1]
        exact hP.dict (List.forall_mem_nil _)
      · split at h
        · next entries after hentries =>
          rw [← (Prod.mk.inj (Except.ok.inj h)).1]
          exact hP.dict (hgives.members hentries)
        · exact absurd h (by simp)
  -- the words come next: null, the two booleans, and three floating-point numbers
  · rw [← (Prod.mk.inj (Except.ok.inj h)).1]
    exact hP.null
  · rw [← (Prod.mk.inj (Except.ok.inj h)).1]
    exact hP.bool true
  · rw [← (Prod.mk.inj (Except.ok.inj h)).1]
    exact hP.bool false
  · rw [← (Prod.mk.inj (Except.ok.inj h)).1]
    exact hP.float _
  · rw [← (Prod.mk.inj (Except.ok.inj h)).1]
    exact hP.float _
  · rw [← (Prod.mk.inj (Except.ok.inj h)).1]
    exact hP.float _
  · exact hP.number h
  · exact hP.number h

theorem of_elements (hgives : Gives P fuel) {xs : List Value}
    (h : elements .exact depth (fuel + 1) cs = .ok (xs, rest)) : ∀ x ∈ xs, P depth x := by
  rw [elements] at h
  split at h
  · exact absurd h (by simp)
  · next x after hx =>
    have hfirst : P depth x := hgives.value hx
    split at h
    · obtain ⟨rfl, -⟩ := Prod.mk.inj (Except.ok.inj h)
      simpa using hfirst
    · split at h
      · next xs' after' hxs =>
        obtain ⟨rfl, -⟩ := Prod.mk.inj (Except.ok.inj h)
        exact List.forall_mem_cons.2 ⟨hfirst, hgives.elements hxs⟩
      · exact absurd h (by simp)
    · exact absurd h (by simp)

theorem of_members (hgives : Gives P fuel) {entries : List (Value × Value)}
    (h : members .exact depth (fuel + 1) cs = .ok (entries, rest)) :
    ∀ e ∈ entries, e.1.IsString ∧ P depth e.2 := by
  unfold members at h
  split at h
  · split at h
    · exact absurd h (by simp)
    · next name after hname =>
      have hstring : name.IsString := isString_of_stringBody hname
      split at h
      · split at h
        · exact absurd h (by simp)
        · next x after' hx =>
          have hfirst : name.IsString ∧ P depth x := ⟨hstring, hgives.value hx⟩
          split at h
          · rw [← (Prod.mk.inj (Except.ok.inj h)).1]
            simpa using hfirst
          · split at h
            · next entries' after'' hentries =>
              rw [← (Prod.mk.inj (Except.ok.inj h)).1]
              exact List.forall_mem_cons.2 ⟨hfirst, hgives.members hentries⟩
            · exact absurd h (by simp)
          · exact absurd h (by simp)
      · exact absurd h (by simp)
  · exact absurd h (by simp)

theorem gives (hP : Inherited P) (fuel : Nat) : Gives P fuel := by
  induction fuel with
  | zero =>
    refine ⟨fun h => ?_, fun h => ?_, fun h => ?_⟩
    · exact absurd h (by simp [value])
    · exact absurd h (by simp [elements])
    · exact absurd h (by simp [members])
  | succ fuel ih => exact ⟨hP.of_value ih, of_elements ih, of_members ih⟩

/-- **What is inherited from the parts of a value holds of all that is read.** -/
theorem of_read (hP : Inherited P) {text : String} {v : Value} (h : read text = .ok v) :
    P maxDepth v := by
  unfold read readAs at h
  simp only at h
  split at h
  · exact absurd h (by simp)
  · next v' after hvalue =>
    split at h
    · rw [← Except.ok.inj h]
      exact (hP.gives _).value hvalue
    · exact absurd h (by simp)

end Inherited

/-! ## Documents -/

theorem inherited_isJson : Inherited fun _ v => v.IsJson True where
  null := .null
  bool := .bool
  float := .float trivial
  string := .string
  number := isJson_of_number
  list := .list
  dict := isJson_ofPairs

/-- **What is read is a value that JSON has.** -/
theorem isJson_of_read {text : String} {v : Value} (h : read text = .ok v) : v.IsJson True :=
  inherited_isJson.of_read h

theorem isJson_of_readBytes {e : Encoding} {bytes : Bytes} {v : Value}
    (h : readBytes e bytes = .ok v) : v.IsJson True := by
  unfold readBytes at h
  split at h
  · exact absurd h (by simp)
  · exact isJson_of_read h

end Json

end RelyingParty
