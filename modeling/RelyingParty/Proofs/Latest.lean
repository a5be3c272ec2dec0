set_option autoImplicit false

/-! # What came last

A list tells what happened, oldest first. `LatestIn` says that something in it was as `p` says,
which may look at what came before, and that all that came later is as `q` says. -/

namespace RelyingParty

variable {α : Type} {p : List α → α → Prop} {q : α → Prop} {xs : List α} {x : α}

/-- Something is as one condition says, and all that comes later is as another one says. -/
def LatestIn (p : List α → α → Prop) (q : α → Prop) (xs : List α) : Prop :=
  ∃ before x later, xs = before ++ x :: later ∧ p before x ∧ ∀ y ∈ later, q y

theorem not_latestIn_nil : ¬ LatestIn p q [] := by
  rintro ⟨before, x, later, h, -⟩
  exact absurd h (by simp)

/-- What came last is the last thing, or came before it and is still so after it. -/
theorem latestIn_append_singleton :
    LatestIn p q (xs ++ [x]) ↔ p xs x ∨ LatestIn p q xs ∧ q x := by
  constructor
  · rintro ⟨before, y, later, hsplit, hy, hlater⟩
    rcases List.eq_nil_or_concat later with rfl | ⟨later, z, rfl⟩
    · obtain ⟨rfl, hlast⟩ := List.append_inj' hsplit rfl
      rw [List.singleton_inj.1 hlast]
      exact Or.inl hy
    · rw [List.concat_eq_append] at hsplit hlater
      rw [← List.cons_append, ← List.append_assoc] at hsplit
      obtain ⟨hxs, hlast⟩ := List.append_inj' hsplit rfl
      obtain rfl := List.singleton_inj.1 hlast
      refine Or.inr ⟨⟨before, y, later, hxs, hy, fun w hw => ?_⟩, ?_⟩
      · exact hlater w (List.mem_append_left _ hw)
      · exact hlater x (List.mem_append_right _ (List.mem_singleton_self _))
  · rintro (hx | ⟨⟨before, y, later, rfl, hy, hlater⟩, hx⟩)
    · exact ⟨xs, x, [], rfl, hx, by simp⟩
    · refine ⟨before, y, later ++ [x], by simp, hy, fun w hw => ?_⟩
      rcases List.mem_append.1 hw with hw | hw
      · exact hlater w hw
      · rw [List.mem_singleton.1 hw]
        exact hx

end RelyingParty
