import RelyingParty.Value.Basic

set_option autoImplicit false

/-! # Equality of values

Text is the same as itself only, so that members of a mapping under a text key are found exactly. -/

namespace RelyingParty.Value

theorem same_text_iff {s : String} {v : Value} : (Value.text s).same v = true ↔ v = .text s := by
  cases v with
  | text t =>
    simp only [same, beq_iff_eq, text.injEq]
    exact eq_comm
  | _ => simp [same]

theorem same_text_right_iff {s : String} {v : Value} : v.same (.text s) = true ↔ v = .text s := by
  cases v with
  | text t => simp only [same, beq_iff_eq, text.injEq]
  | _ => simp [same, numeric?]

theorem same_brokenText_iff {points : List Nat} {v : Value} :
    (Value.brokenText points).same v = true ↔ v = .brokenText points := by
  cases v with
  | brokenText points' =>
    simp only [same, beq_iff_eq, brokenText.injEq]
    exact eq_comm
  | _ => simp [same]

theorem same_brokenText_right_iff {points : List Nat} {v : Value} :
    v.same (.brokenText points) = true ↔ v = .brokenText points := by
  cases v with
  | brokenText points' => simp only [same, beq_iff_eq, brokenText.injEq]
  | _ => simp [same, numeric?]

/-- Text of either kind is the same as itself only. -/
theorem same_iff_of_isText {k v : Value} (hk : k.isText = true) :
    k.same v = true ↔ v = k := by
  cases k with
  | text s => exact same_text_iff
  | brokenText points => exact same_brokenText_iff
  | _ => exact absurd hk (by simp [isText])

/-- Different texts are not the same. -/
theorem beq_eq_false_of_isText {k v : Value} (hk : k.isText = true) (h : k ≠ v) :
    (k == v) = false := by
  have hsame : ¬ k.same v = true := fun hs => h ((same_iff_of_isText hk).1 hs).symm
  exact Bool.eq_false_iff.2 hsame

/-! ## Texts and null -/

theorem hashable_of_isText {v : Value} (h : v.isText = true) : v.hashable = true := by
  cases v with
  | text s => simp only [hashable]
  | brokenText points => simp only [hashable]
  | _ => exact absurd h (by simp [isText])

theorem isNull_iff {v : Value} : v.isNull = true ↔ v = .null := by
  cases v with
  | null => exact iff_of_true rfl rfl
  | _ => exact iff_of_false Bool.false_ne_true (by simp)

theorem isNull_eq_false {v : Value} (h : v ≠ .null) : v.isNull = false :=
  Bool.eq_false_iff.2 fun hnull => h (isNull_iff.1 hnull)

/-! ## A value and itself -/

theorem sameList_self {xs : List Value} (h : ∀ x ∈ xs, x.same x = true) :
    sameList xs xs = true := by
  induction xs with
  | nil => rw [sameList, List.isEmpty_nil]
  | cons x xs ih =>
    have htail : sameList xs xs = true := ih fun y hy => h y (List.mem_cons_of_mem _ hy)
    rw [sameList, h x (List.mem_cons_self ..), htail, Bool.and_self]

/-- Under the key of an entry stands the entry's value, if all keys are different texts. -/
theorem find?_of_mem {entries : List (Value × Value)}
    (htext : ∀ e ∈ entries, e.1.isText = true) (hdistinct : (Entries.keys entries).Nodup)
    {e : Value × Value} (he : e ∈ entries) :
    entries.find? (fun e' => e.1.same e'.1) = some e := by
  induction entries with
  | nil => exact absurd he (by simp)
  | cons first rest ih =>
    obtain ⟨hfirst, hrest⟩ := List.nodup_cons.1 hdistinct
    have hkey : e.1.isText = true := htext e he
    rcases List.mem_cons.1 he with rfl | he
    · exact List.find?_cons_of_pos ((same_iff_of_isText hkey).2 rfl)
    · have hne : ¬ e.1.same first.1 = true := by
        intro hs
        have hmem : e.1 ∈ rest.map (·.1) := List.mem_map_of_mem he
        rw [← (same_iff_of_isText hkey).1 hs] at hmem
        exact hfirst hmem
      exact (List.find?_cons_of_neg (p := fun e' : Value × Value => e.1.same e'.1) hne).trans
        (ih (fun e' he' => htext e' (List.mem_cons_of_mem _ he')) hrest he)

theorem allUnder_of_forall {xs ys : List (Value × Value)} (h : ∀ e ∈ xs, hasEntry e ys = true) :
    allUnder xs ys = true := by
  induction xs with
  | nil => rw [allUnder]
  | cons x xs ih =>
    have htail : allUnder xs ys = true := ih fun e he => h e (List.mem_cons_of_mem _ he)
    rw [allUnder, h x (List.mem_cons_self ..), htail, Bool.and_self]

/-- A mapping from different texts is the same as itself if its values are. -/
theorem same_dict_self {entries : List (Value × Value)}
    (htext : ∀ e ∈ entries, e.1.isText = true) (hdistinct : (Entries.keys entries).Nodup)
    (h : ∀ e ∈ entries, e.2.same e.2 = true) :
    (Value.dict entries).same (.dict entries) = true := by
  have hall : allUnder entries entries = true := by
    refine allUnder_of_forall fun e he => ?_
    rw [hasEntry, find?_of_mem htext hdistinct he]
    exact h e he
  rw [same, hall, Bool.and_true, beq_self_eq_true]

/-! ## Members of a mapping -/

/-- A member that is not null is there. -/
theorem fieldD_eq_iff {entries : List (Value × Value)} {name : String} {v : Value}
    (hv : v ≠ .null) : fieldD entries name = v ↔ field? entries name = some v := by
  unfold fieldD
  cases field? entries name with
  | none =>
    constructor
    · intro h
      exact absurd h.symm hv
    · intro h
      exact absurd h (by simp)
  | some w => simp

/-- The entry of a mapping under a text key, if all keys are different texts. -/
theorem field?_of_mem {entries : List (Value × Value)}
    (htext : ∀ e ∈ entries, e.1.isText = true) (hdistinct : (Entries.keys entries).Nodup)
    {name : String} {v : Value} (h : (.text name, v) ∈ entries) :
    field? entries name = some v := by
  induction entries with
  | nil => exact absurd h (by simp)
  | cons first rest ih =>
    obtain ⟨key, value⟩ := first
    obtain ⟨hfirst, hrest⟩ := List.nodup_cons.1 hdistinct
    rcases List.mem_cons.1 h with heq | hmem
    · obtain ⟨rfl, rfl⟩ := Prod.mk.inj heq
      exact if_pos (same_text_iff.2 rfl)
    · have hne : key ≠ .text name := by
        rintro rfl
        have hkeys : Value.text name ∈ rest.map (·.1) := List.mem_map_of_mem hmem
        exact hfirst hkeys
      have hkey : (key == .text name) = false :=
        beq_eq_false_of_isText (htext _ (List.mem_cons_self ..)) hne
      rw [field?, Entries.get?, hkey, if_neg Bool.false_ne_true]
      exact ih (fun e he => htext e (List.mem_cons_of_mem _ he)) hrest hmem

theorem fieldD_of_mem {entries : List (Value × Value)}
    (htext : ∀ e ∈ entries, e.1.isText = true) (hdistinct : (Entries.keys entries).Nodup)
    {name : String} {v : Value} (h : (.text name, v) ∈ entries) : fieldD entries name = v := by
  rw [fieldD, field?_of_mem htext hdistinct h, Option.getD_some]

/-- A mapping has no entry under a text that is none of its keys. -/
theorem field?_eq_none {entries : List (Value × Value)}
    (htext : ∀ e ∈ entries, e.1.isText = true) {name : String}
    (h : ∀ e ∈ entries, e.1 ≠ .text name) : field? entries name = none := by
  induction entries with
  | nil => rfl
  | cons first rest ih =>
    obtain ⟨key, value⟩ := first
    have hkey : (key == .text name) = false :=
      beq_eq_false_of_isText (htext _ (List.mem_cons_self ..)) (h _ (List.mem_cons_self ..))
    rw [field?, Entries.get?, hkey, if_neg Bool.false_ne_true]
    exact ih (fun e he => htext e (List.mem_cons_of_mem _ he))
      fun e he => h e (List.mem_cons_of_mem _ he)

end RelyingParty.Value
