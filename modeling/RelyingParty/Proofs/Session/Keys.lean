import Mathlib.Data.Set.Function
import RelyingParty.Proofs.Session.Lookup

set_option autoImplicit false

/-! # Keys in a shared store

A digest has 32 bytes, and its text two digits for each of them. So a key ends with 64 digits, and
what stands before them is the name space, whatever that is made of: two keys are the same exactly
if their name spaces and their digests are, `SharedIndex.key_eq_key_iff`. Names that have different
digests are told apart, and indexes with different name spaces do not see each other's entries. -/

namespace RelyingParty

/-! ## Digests as text -/

namespace Text

theorem hexDigit_inj : ∀ a < 16, ∀ b < 16, hexDigit a = hexDigit b → a = b := by decide

/-- Two digits tell bytes apart. -/
theorem hexDigits_inj {a b : UInt8} (h : hexDigits 2 a.toNat = hexDigits 2 b.toNat) : a = b := by
  have hhigh : hexDigit (a.toNat / 16 % 16) = hexDigit (b.toNat / 16 % 16) := (List.cons.inj h).1
  have hlow : hexDigit (a.toNat % 16) = hexDigit (b.toNat % 16) :=
    (List.cons.inj (List.cons.inj h).2).1
  have hhigh := hexDigit_inj _ (Nat.mod_lt _ (by decide)) _ (Nat.mod_lt _ (by decide)) hhigh
  have hlow := hexDigit_inj _ (Nat.mod_lt _ (by decide)) _ (Nat.mod_lt _ (by decide)) hlow
  have ha := a.toNat_lt
  have hb := b.toNat_lt
  exact UInt8.toNat_inj.1 (by omega)

theorem length_hexOfBytes (bytes : Bytes) : (hexOfBytes bytes).length = 2 * bytes.length := by
  simp only [hexOfBytes, String.length_ofList, List.length_flatMap, length_hexDigits,
    List.map_const', List.sum_replicate_nat, Nat.mul_comm]

theorem hexOfBytes_inj {a b : Bytes} (h : hexOfBytes a = hexOfBytes b) : a = b := by
  have hdigits : a.flatMap (fun x => hexDigits 2 x.toNat)
      = b.flatMap fun x => hexDigits 2 x.toNat := String.ofList_injective h
  clear h
  induction a generalizing b with
  | nil =>
    cases b with
    | nil => rfl
    | cons y b => exact absurd hdigits (by simp [hexDigits])
  | cons x a ih =>
    cases b with
    | nil => exact absurd hdigits (by simp [hexDigits])
    | cons y b =>
      rw [List.flatMap_cons, List.flatMap_cons] at hdigits
      obtain ⟨hfirst, hrest⟩ := List.append_inj hdigits (by simp)
      rw [hexDigits_inj hfirst, ih hrest]

end Text

namespace Digest

/-! The state of the hash has eight words throughout. -/

theorem size_round32 (s : Array UInt32) (k w : UInt32) : (round32 s k w).size = 8 := rfl

theorem size_foldl_round32 (rounds : List (UInt32 × UInt32)) {s : Array UInt32} (h : s.size = 8) :
    (rounds.foldl (fun s kw => round32 s kw.1 kw.2) s).size = 8 := by
  induction rounds generalizing s with
  | nil => exact h
  | cons kw rest ih => exact ih (size_round32 s kw.1 kw.2)

theorem size_compress32 {s : Array UInt32} (h : s.size = 8) (block : Bytes) :
    (compress32 s block).size = 8 := by
  rw [compress32, Array.size_zipWith, h, size_foldl_round32 _ h]
  rfl

theorem size_foldl_compress32 (blocks : List Bytes) {s : Array UInt32} (h : s.size = 8) :
    (blocks.foldl compress32 s).size = 8 := by
  induction blocks generalizing s with
  | nil => exact h
  | cons block rest ih => exact ih (size_compress32 h block)

theorem length_sha256 (message : Bytes) : (sha256 message).length = 32 := by
  have hsize : ((blocks 64 8 message).foldl compress32 initial256).size = 8 :=
    size_foldl_compress32 _ rfl
  simp only [sha256, List.length_flatMap, length_beBytes, List.map_const', List.sum_replicate_nat,
    Array.length_toList, hsize]

end Digest

/-! ## Keys -/

namespace SharedIndex

variable {index other : SharedIndex} {store : KeyValueStore} {sid name : String}

/-- The digest that stands for a provider session. -/
def digestOf (sid : String) : Bytes := Digest.sha256 (Text.utf8 sid)

theorem key_eq_key_iff :
    index.key sid = other.key name ↔
      index.space.display = other.space.display ∧ digestOf sid = digestOf name := by
  unfold key
  rw [← String.toList_inj]
  simp only [String.toList_append]
  constructor
  · intro h
    -- both digests have as many digits, so what stands before them is the same too
    obtain ⟨hspace, hdigest⟩ := List.append_inj' h (by
      simp only [String.length_toList, Text.length_hexOfBytes, Digest.length_sha256])
    exact ⟨String.toList_inj.1 (List.append_cancel_right hspace),
      Text.hexOfBytes_inj (String.toList_inj.1 hdigest)⟩
  · rintro ⟨hspace, hdigest⟩
    rw [hspace, ← digestOf, hdigest, digestOf]

/-- A shared index that does not let entries expire tells names with different digests apart. -/
theorem tellsApart_shared {names : Set String} (httl : index.ttl = .null)
    (hstore : store.keys.Nodup) (hdigests : Set.InjOn digestOf names) :
    (SessionIndex.shared index store).TellsApart names where
  distinct := hstore
  accepts := ⟨none, by rw [httl, expiry], by simp⟩
  injective a ha b hb h := hdigests ha hb (key_eq_key_iff.1 h).2

end SharedIndex

end RelyingParty
