set_option autoImplicit false

/-! # Maps in insertion order

A map is held as its entries, oldest first. Inserting under a key that is present keeps the place
and the key of the old entry and replaces its value; a new key goes to the end.

The view of a map is `get?`. For keys whose test is equality, `get?_insert` and `get?_erase` say
what the two updates do to it. -/

namespace RelyingParty

/-- The entries of a map, in the order in which their keys came in. -/
abbrev Entries (α β : Type) := List (α × β)

namespace Entries

variable {α β : Type} [BEq α]

/-- The value under a key. -/
def get? : Entries α β → α → Option β
  | [], _ => none
  | (k, v) :: rest, key => if k == key then some v else get? rest key

/-- Whether a key is present. -/
def contains (entries : Entries α β) (key : α) : Bool := (entries.get? key).isSome

/-- Put a value under a key, in the place of the old one if there is one. -/
def insert : Entries α β → α → β → Entries α β
  | [], key, value => [(key, value)]
  | (k, v) :: rest, key, value =>
    if k == key then (k, value) :: rest else (k, v) :: insert rest key value

/-- Remove a key. -/
def erase : Entries α β → α → Entries α β
  | [], _ => []
  | (k, v) :: rest, key => if k == key then rest else (k, v) :: erase rest key

/-- The map that a list of pairs builds, entry by entry. -/
def ofPairs (pairs : List (α × β)) : Entries α β :=
  pairs.foldl (fun entries p => entries.insert p.1 p.2) []

/-- Insert all entries of another map. -/
def insertAll (entries others : Entries α β) : Entries α β :=
  others.foldl (fun entries p => entries.insert p.1 p.2) entries

/-- The keys, oldest first. -/
def keys (entries : Entries α β) : List α := entries.map (·.1)

/-! ## What updates do to the view -/

section Lawful

variable [LawfulBEq α]

theorem get?_insert (entries : Entries α β) (key other : α) (value : β) :
    (entries.insert key value).get? other =
      if key == other then some value else entries.get? other := by
  induction entries with
  | nil => simp [insert, get?]
  | cons e rest ih =>
    obtain ⟨k, v⟩ := e
    by_cases h : k == key
    · have hk : k = key := by simpa using h
      subst hk
      by_cases ho : k == other <;> simp [insert, get?, ho]
    · by_cases ho : k == other
      · have hk : k = other := by simpa using ho
        subst hk
        have : ¬ (key == k) = true := fun hc => h (by simp [(by simpa using hc : key = k)])
        simp [insert, get?, h, this]
      · simp [insert, get?, h, ho, ih]

theorem get?_insert_self (entries : Entries α β) (key : α) (value : β) :
    (entries.insert key value).get? key = some value := by
  simp [get?_insert]

theorem get?_erase_of_ne (entries : Entries α β) {key other : α} (h : key ≠ other) :
    (entries.erase key).get? other = entries.get? other := by
  induction entries with
  | nil => rfl
  | cons e rest ih =>
    obtain ⟨k, v⟩ := e
    by_cases hk : k == key
    · have hkey : k = key := by simpa using hk
      subst hkey
      simp [erase, get?, h]
    · by_cases ho : k == other <;> simp [erase, get?, hk, ho, ih]

theorem get?_eq_none_of_not_mem {entries : Entries α β} {key : α}
    (h : key ∉ entries.keys) : entries.get? key = none := by
  induction entries with
  | nil => rfl
  | cons e rest ih =>
    obtain ⟨k, v⟩ := e
    simp only [keys, List.map_cons, List.mem_cons, not_or] at h
    have hk : ¬ (k == key) = true := fun hc => h.1 (by simpa using hc : k = key).symm
    simp [get?, hk, ih h.2]

/-- In a map without repeated keys, an erased key is gone. -/
theorem get?_erase_self (entries : Entries α β) (key : α) (h : entries.keys.Nodup) :
    (entries.erase key).get? key = none := by
  induction entries with
  | nil => rfl
  | cons e rest ih =>
    obtain ⟨k, v⟩ := e
    simp only [keys, List.map_cons, List.nodup_cons] at h
    by_cases hk : k == key
    · have hkey : k = key := by simpa using hk
      subst hkey
      simp only [erase, beq_self_eq_true, if_true]
      exact get?_eq_none_of_not_mem h.1
    · simp [erase, get?, hk, ih h.2]

end Lawful

end Entries

end RelyingParty
