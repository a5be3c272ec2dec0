import RelyingParty.Entries

set_option autoImplicit false

/-! # Maps and their keys

A key that is not there yet goes to the end, so that pairs with different keys are a map as they
stand: `ofPairs_eq_self`. No update repeats a key in a map that has each of its keys once, and what
is in the map afterwards is what was inserted and what had another key: `mem_insertAll_iff`. -/

namespace RelyingParty.Entries

variable {α β : Type} [BEq α]

/-! ## Building maps from pairs -/

/-- No key of the entries is the same as a key. -/
def Lacks (entries : Entries α β) (key : α) : Prop := ∀ e ∈ entries, (e.1 == key) = false

theorem insert_of_lacks {entries : Entries α β} {key : α} (h : entries.Lacks key) (value : β) :
    entries.insert key value = entries ++ [(key, value)] := by
  induction entries with
  | nil => rfl
  | cons e rest ih =>
    have hrest : Lacks rest key := fun e' he' => h e' (List.mem_cons_of_mem _ he')
    rw [insert, h e (List.mem_cons_self ..), if_neg Bool.false_ne_true, ih hrest, List.cons_append]

/-- Pairs with keys that differ from one another and from those of the entries go to the end. -/
theorem insertAll_eq_append {entries pairs : Entries α β}
    (hold : ∀ p ∈ pairs, entries.Lacks p.1)
    (hnew : pairs.Pairwise fun p q => (p.1 == q.1) = false) :
    entries.insertAll pairs = entries ++ pairs := by
  induction pairs generalizing entries with
  | nil => exact (List.append_nil entries).symm
  | cons p rest ih =>
    obtain ⟨hp, hrest⟩ := List.pairwise_cons.1 hnew
    have hlacks : ∀ q ∈ rest, Lacks (entries ++ [p]) q.1 := by
      intro q hq e he
      rcases List.mem_append.1 he with he | he
      · exact hold q (List.mem_cons_of_mem _ hq) e he
      · rw [List.mem_singleton.1 he]
        exact hp q hq
    have hstep : entries.insert p.1 p.2 = entries ++ [p] :=
      insert_of_lacks (hold p (List.mem_cons_self ..)) p.2
    show insertAll (entries.insert p.1 p.2) rest = _
    rw [hstep, ih hlacks hrest, List.append_assoc, List.singleton_append]

theorem ofPairs_eq_self {pairs : Entries α β}
    (h : pairs.Pairwise fun p q => (p.1 == q.1) = false) : ofPairs pairs = pairs :=
  insertAll_eq_append (fun _ _ _ he => absurd he (by simp)) h

theorem get?_eq_none_of_lacks {entries : Entries α β} {key : α} (h : entries.Lacks key) :
    entries.get? key = none := by
  induction entries with
  | nil => rfl
  | cons e rest ih =>
    obtain ⟨he, hrest⟩ := List.forall_mem_cons.1 h
    rw [get?, he, if_neg Bool.false_ne_true]
    exact ih hrest

/-- What is found under a key is the value of an entry. -/
theorem mem_of_get? {entries : Entries α β} {key : α} {value : β}
    (h : entries.get? key = some value) : ∃ k, (k, value) ∈ entries ∧ (k == key) = true := by
  induction entries with
  | nil => exact absurd h (by simp [get?])
  | cons e rest ih =>
    rw [get?] at h
    split at h
    · next hkey =>
      rw [← Option.some.inj h]
      exact ⟨e.1, List.mem_cons_self .., hkey⟩
    · obtain ⟨k, hk, hkey⟩ := ih h
      exact ⟨k, List.mem_cons_of_mem _ hk, hkey⟩

/-! ## Maps without repeated keys -/

/-- A key that is not there yet goes to the end, and no other key moves. -/
theorem keys_insert [LawfulBEq α] (entries : Entries α β) (key : α) (value : β) :
    (entries.insert key value).keys
      = if entries.keys.contains key then entries.keys else entries.keys ++ [key] := by
  induction entries with
  | nil => rfl
  | cons e rest ih =>
    have hkeys : keys (e :: rest) = e.1 :: keys rest := rfl
    rw [hkeys, insert, List.contains_cons, Bool.beq_comm]
    split
    · next h => simp [keys, h]
    · next h =>
      rw [Bool.of_not_eq_true h, Bool.false_or]
      show e.1 :: keys (insert rest key value) = _
      rw [ih]
      split <;> rfl

/-- A map that has each of its keys once is told by what is found under them. -/
theorem eq_map_keys [LawfulBEq α] {entries : Entries α β} (h : entries.keys.Nodup) {f : α → β}
    {d : β} (hf : ∀ key ∈ entries.keys, (entries.get? key).getD d = f key) :
    entries = entries.keys.map fun key => (key, f key) := by
  induction entries with
  | nil => rfl
  | cons e rest ih =>
    obtain ⟨hfresh, hrest⟩ := List.nodup_cons.1 (show (e.1 :: keys rest).Nodup from h)
    obtain ⟨hfirst, hlater⟩ := List.forall_mem_cons.1
      (show ∀ key ∈ e.1 :: keys rest, (get? (e :: rest) key).getD d = f key from hf)
    have hvalue : e.2 = f e.1 := by simpa [get?] using hfirst
    have htail : rest = (keys rest).map fun key => (key, f key) := by
      refine ih hrest fun key hkey => ?_
      have hne : ¬ (e.1 == key) = true := fun heq => hfresh (eq_of_beq heq ▸ hkey)
      rw [← hlater key hkey, get?, if_neg hne]
    show e :: rest = (e.1, f e.1) :: (keys rest).map fun key => (key, f key)
    rw [← htail, ← hvalue]

theorem erase_sublist (entries : Entries α β) (key : α) :
    List.Sublist (entries.erase key) entries := by
  induction entries with
  | nil => exact .slnil
  | cons e rest ih =>
    rw [erase]
    split
    · exact List.sublist_cons_self e rest
    · exact ih.cons_cons e

theorem nodup_keys_erase {entries : Entries α β} (h : entries.keys.Nodup) (key : α) :
    (entries.erase key).keys.Nodup :=
  h.sublist ((erase_sublist entries key).map _)

theorem forall_mem_insert {p : α → Prop} {q : β → Prop} {entries : Entries α β}
    (h : ∀ e ∈ entries, p e.1 ∧ q e.2) {key : α} {value : β} (hkey : p key) (hvalue : q value) :
    ∀ e ∈ entries.insert key value, p e.1 ∧ q e.2 := by
  induction entries with
  | nil => simpa [insert] using And.intro hkey hvalue
  | cons e rest ih =>
    obtain ⟨he, hrest⟩ := List.forall_mem_cons.1 h
    rw [insert]
    split
    · exact List.forall_mem_cons.2 ⟨⟨he.1, hvalue⟩, hrest⟩
    · exact List.forall_mem_cons.2 ⟨he, ih hrest⟩

/-- A key that is the same as itself is not repeated. -/
theorem nodup_keys_insert_of_self {entries : Entries α β} (h : entries.keys.Nodup) {key : α}
    (hself : (key == key) = true) (value : β) : (entries.insert key value).keys.Nodup := by
  induction entries with
  | nil => simp [insert, keys]
  | cons e rest ih =>
    obtain ⟨hfresh, hrest⟩ := List.nodup_cons.1 (show (e.1 :: keys rest).Nodup from h)
    rw [insert]
    split
    · exact h
    · next hne =>
      have hold : ∀ e' ∈ rest, e'.1 ≠ e.1 ∧ True :=
        fun e' he' => ⟨fun heq => hfresh (heq ▸ List.mem_map_of_mem he'), trivial⟩
      have hkey : key ≠ e.1 := fun heq => hne (heq ▸ hself)
      have hkeys : ∀ e' ∈ Entries.insert rest key value, e'.1 ≠ e.1 ∧ True :=
        forall_mem_insert (p := (· ≠ e.1)) (q := fun _ => True) hold hkey trivial
      refine List.nodup_cons.2 ⟨fun hmem => ?_, ih hrest⟩
      obtain ⟨e', he', heq⟩ := List.mem_map.1 hmem
      exact (hkeys e' he').1 heq

theorem nodup_keys_insert [LawfulBEq α] {entries : Entries α β} (h : entries.keys.Nodup) (key : α)
    (value : β) : (entries.insert key value).keys.Nodup :=
  nodup_keys_insert_of_self h (beq_self_eq_true key) value

/-- What holds of all entries and of all pairs holds of the entries after all of them. -/
theorem forall_mem_insertAll {p : α → Prop} {q : β → Prop} {entries pairs : Entries α β}
    (h : ∀ e ∈ entries, p e.1 ∧ q e.2) (hpairs : ∀ e ∈ pairs, p e.1 ∧ q e.2) :
    ∀ e ∈ entries.insertAll pairs, p e.1 ∧ q e.2 := by
  induction pairs generalizing entries with
  | nil => exact h
  | cons pair rest ih =>
    obtain ⟨⟨hkey, hvalue⟩, hrest⟩ := List.forall_mem_cons.1 hpairs
    exact ih (forall_mem_insert h hkey hvalue) hrest

theorem nodup_keys_insertAll {entries pairs : Entries α β} (h : entries.keys.Nodup)
    (hself : ∀ e ∈ pairs, (e.1 == e.1) = true) : (entries.insertAll pairs).keys.Nodup := by
  induction pairs generalizing entries with
  | nil => exact h
  | cons pair rest ih =>
    obtain ⟨hkey, hrest⟩ := List.forall_mem_cons.1 hself
    exact ih (nodup_keys_insert_of_self h hkey pair.2) hrest

/-! ## Taking out keys -/

/-- The entries without those the keys of which are to go. -/
def without (entries : Entries α β) (gone : α → Bool) : Entries α β :=
  entries.filter fun e => !gone e.1

omit [BEq α] in
theorem without_cons (e : α × β) (rest : Entries α β) (gone : α → Bool) :
    without (e :: rest) gone = if gone e.1 then without rest gone else e :: without rest gone := by
  rw [without, List.filter_cons]
  cases gone e.1 <;> rfl

omit [BEq α] in
theorem without_without (entries : Entries α β) (gone gone' : α → Bool) :
    (entries.without gone).without gone' = entries.without fun key => gone key || gone' key := by
  simp only [without, List.filter_filter, Bool.not_or, Bool.and_comm]

omit [BEq α] in
theorem nodup_keys_without {entries : Entries α β} (h : entries.keys.Nodup) (gone : α → Bool) :
    (entries.without gone).keys.Nodup :=
  h.sublist (List.filter_sublist.map _)

/-- In a map without repeated keys, erasing a key takes out all that has it. -/
theorem erase_eq_without [LawfulBEq α] {entries : Entries α β} (h : entries.keys.Nodup)
    (key : α) : entries.erase key = entries.without (· == key) := by
  induction entries with
  | nil => rfl
  | cons e rest ih =>
    obtain ⟨hfresh, hrest⟩ := List.nodup_cons.1 (show (e.1 :: keys rest).Nodup from h)
    rw [erase, without_cons]
    by_cases hkey : (e.1 == key) = true
    · -- no later entry has the key, so that all of them stay
      have hstay : ∀ e' ∈ rest, (!(e'.1 == key)) = true := by
        intro e' he'
        have hne : e'.1 ≠ key :=
          fun heq => hfresh ((eq_of_beq hkey).trans heq.symm ▸ List.mem_map_of_mem he')
        simpa using hne
      rw [if_pos hkey, if_pos hkey, without, List.filter_eq_self.2 hstay]
    · rw [if_neg hkey, if_neg hkey, ih hrest]

/-- A key that nothing else is the same as. -/
def IsExact (key : α) : Prop := ∀ k : α, (k == key) = true ↔ k = key

theorem get?_without_of_exact (entries : Entries α β) (gone : α → Bool) {key : α}
    (hexact : IsExact key) :
    (entries.without gone).get? key = if gone key then none else entries.get? key := by
  induction entries with
  | nil => simp [without, get?]
  | cons e rest ih =>
    rw [without_cons, get?]
    by_cases hkey : (e.1 == key) = true
    · rw [if_pos hkey, (hexact e.1).1 hkey]
      cases hgone : gone key with
      | true => rw [if_pos rfl, if_pos rfl, ih, hgone, if_pos rfl]
      | false => rw [if_neg Bool.false_ne_true, if_neg Bool.false_ne_true, get?, if_pos hkey]
    · rw [if_neg hkey, ← ih]
      split
      · rfl
      · rw [get?, if_neg hkey]

theorem get?_without [LawfulBEq α] (entries : Entries α β) (gone : α → Bool) (key : α) :
    (entries.without gone).get? key = if gone key then none else entries.get? key :=
  get?_without_of_exact entries gone fun _ => beq_iff_eq

/-- Erasing a key again changes nothing. -/
theorem erase_erase_self [LawfulBEq α] {entries : Entries α β} (h : entries.keys.Nodup)
    (key : α) : (entries.erase key).erase key = entries.erase key := by
  rw [erase_eq_without (nodup_keys_erase h key), erase_eq_without h, without_without]
  simp only [Bool.or_self]

/-! ## What is in a map after an update -/

theorem get?_insert_of_exact (entries : Entries α β) {key other : α} (hkey : IsExact key)
    (hother : IsExact other) (value : β) :
    (entries.insert key value).get? other
      = if key == other then some value else entries.get? other := by
  induction entries with
  | nil => rfl
  | cons first rest ih =>
    rw [insert]
    split
    · next hsame =>
      obtain rfl := (hkey first.1).1 hsame
      rw [get?, get?]
      split <;> rfl
    · next hdiffers =>
      rw [get?, get?, ih]
      split
      · next hfirst =>
        -- the first key is the one that is looked for, and not the one that comes in
        obtain rfl := (hother first.1).1 hfirst
        have hne : ¬ (key == first.1) = true :=
          fun heq => hdiffers ((hkey first.1).2 ((hother key).1 heq).symm)
        rw [if_neg hne]
      · rfl

theorem get?_erase_of_exact {entries : Entries α β} (hdistinct : entries.keys.Nodup)
    {key other : α} (hkey : IsExact key) (hother : IsExact other) :
    (entries.erase key).get? other = if key == other then none else entries.get? other := by
  induction entries with
  | nil => simp [erase, get?]
  | cons first rest ih =>
    obtain ⟨hfresh, hrest⟩ := List.nodup_cons.1 (show (first.1 :: keys rest).Nodup from hdistinct)
    rw [erase]
    split
    · next hsame =>
      obtain rfl := (hkey first.1).1 hsame
      rw [get?]
      split
      · next hlooked =>
        obtain rfl := (hother first.1).1 hlooked
        refine get?_eq_none_of_lacks fun e he => Bool.eq_false_iff.2 fun heq => hfresh ?_
        rw [← (hother e.1).1 heq]
        exact List.mem_map_of_mem he
      · rfl
    · next hdiffers =>
      rw [get?, get?, ih hrest]
      split
      · next hfirst =>
        obtain rfl := (hother first.1).1 hfirst
        have hne : ¬ (key == first.1) = true :=
          fun heq => hdiffers ((hkey first.1).2 ((hother key).1 heq).symm)
        rw [if_neg hne]
      · rfl

/-- Putting in what is there already changes nothing. -/
theorem insert_of_get? {entries : Entries α β} {key : α} {value : β}
    (h : entries.get? key = some value) : entries.insert key value = entries := by
  induction entries with
  | nil => exact absurd h (by simp [get?])
  | cons first rest ih =>
    rw [get?] at h
    rw [insert]
    split at h
    · next hsame => rw [if_pos hsame, ← Option.some.inj h]
    · next hdiffers => rw [if_neg hdiffers, ih h]

theorem mem_insert_iff {entries : Entries α β} (hdistinct : entries.keys.Nodup) {key : α}
    (hkey : IsExact key) {value : β} {e : α × β} :
    e ∈ entries.insert key value ↔ e = (key, value) ∨ e ∈ entries ∧ e.1 ≠ key := by
  induction entries with
  | nil => simp [insert]
  | cons first rest ih =>
    obtain ⟨hfresh, hrest⟩ := List.nodup_cons.1 (show (first.1 :: keys rest).Nodup from hdistinct)
    have hother : ∀ e' ∈ rest, e'.1 ≠ first.1 :=
      fun e' he' heq => hfresh (heq ▸ List.mem_map_of_mem he')
    rw [insert]
    split
    · next hsame =>
      obtain rfl := (hkey first.1).1 hsame
      rw [List.mem_cons, List.mem_cons]
      constructor
      · rintro (rfl | he)
        · exact Or.inl rfl
        · exact Or.inr ⟨Or.inr he, hother e he⟩
      · rintro (rfl | ⟨rfl | he, hne⟩)
        · exact Or.inl rfl
        · exact absurd rfl hne
        · exact Or.inr he
    · next hdiffers =>
      have hne : first.1 ≠ key := fun heq => hdiffers ((hkey first.1).2 heq)
      rw [List.mem_cons, List.mem_cons, ih hrest]
      constructor
      · rintro (rfl | rfl | ⟨he, hold⟩)
        · exact Or.inr ⟨Or.inl rfl, hne⟩
        · exact Or.inl rfl
        · exact Or.inr ⟨Or.inr he, hold⟩
      · rintro (rfl | ⟨rfl | he, hold⟩)
        · exact Or.inr (Or.inl rfl)
        · exact Or.inl rfl
        · exact Or.inr (Or.inr ⟨he, hold⟩)

/-- After all pairs are inserted, a pair is in the place of every entry with its key. -/
theorem mem_insertAll_iff {entries pairs : Entries α β} (hdistinct : entries.keys.Nodup)
    (hexact : ∀ p ∈ pairs, IsExact p.1) (hpairs : pairs.keys.Nodup) {e : α × β} :
    e ∈ entries.insertAll pairs ↔ e ∈ pairs ∨ e ∈ entries ∧ ∀ p ∈ pairs, p.1 ≠ e.1 := by
  induction pairs generalizing entries with
  | nil =>
    show e ∈ entries ↔ _
    simp
  | cons pair rest ih =>
    obtain ⟨hkey, hrest⟩ := List.forall_mem_cons.1 hexact
    obtain ⟨hfresh, hnodup⟩ := List.nodup_cons.1 (show (pair.1 :: keys rest).Nodup from hpairs)
    have hself : (pair.1 == pair.1) = true := (hkey pair.1).2 rfl
    have hother : ∀ q ∈ rest, q.1 ≠ pair.1 :=
      fun q hq heq => hfresh (heq ▸ List.mem_map_of_mem hq)
    show e ∈ insertAll (entries.insert pair.1 pair.2) rest ↔ _
    rw [ih (nodup_keys_insert_of_self hdistinct hself pair.2) hrest hnodup,
      mem_insert_iff hdistinct hkey, List.mem_cons, List.forall_mem_cons]
    constructor
    · rintro (he | ⟨rfl | ⟨he, hne⟩, hlater⟩)
      · exact Or.inl (Or.inr he)
      · exact Or.inl (Or.inl rfl)
      · exact Or.inr ⟨he, Ne.symm hne, hlater⟩
    · rintro ((rfl | he) | ⟨he, hne, hlater⟩)
      · exact Or.inr ⟨Or.inl rfl, hother⟩
      · exact Or.inl he
      · exact Or.inr ⟨Or.inr ⟨he, hne.symm⟩, hlater⟩

end RelyingParty.Entries
