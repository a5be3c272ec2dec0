import RelyingParty.Url.Query
import RelyingParty.Url.Basic

set_option autoImplicit false

/-! # Text at separators

The parts of URLs and queries stand between separators. A text is cut where a separator occurs
first, and what is before it has none; parts without separators that are joined come apart again.
-/

namespace RelyingParty

namespace Url

variable {separator : Char} {cs before after : List Char}

/-! ## The first separator -/

theorem cut?_eq_none_iff : cut? separator cs = none ↔ separator ∉ cs := by
  induction cs with
  | nil => simp [cut?]
  | cons c cs ih =>
    by_cases hc : c = separator
    · simp [cut?, hc]
    · simp [cut?, hc, ih, Ne.symm hc]

/-- A text without separators is cut at the one behind it. -/
theorem cut?_append (h : separator ∉ before) (after : List Char) :
    cut? separator (before ++ separator :: after) = some (before, after) := by
  induction before with
  | nil => simp [cut?]
  | cons c before ih =>
    have hc : c ≠ separator := fun hc => h (hc ▸ List.mem_cons_self ..)
    have hrest : separator ∉ before := fun hmem => h (List.mem_cons_of_mem _ hmem)
    rw [List.cons_append, cut?, if_neg hc, ih hrest, Option.map_some]

/-- What a cut takes out is the first separator. -/
theorem eq_append_of_cut? (h : cut? separator cs = some (before, after)) :
    cs = before ++ separator :: after ∧ separator ∉ before := by
  induction cs generalizing before with
  | nil => simp [cut?] at h
  | cons c cs ih =>
    by_cases hc : c = separator
    · rw [cut?, if_pos hc, Option.some.injEq, Prod.mk.injEq] at h
      obtain ⟨rfl, rfl⟩ := h
      exact ⟨by rw [hc, List.nil_append], List.not_mem_nil⟩
    · rw [cut?, if_neg hc, Option.map_eq_some_iff] at h
      obtain ⟨⟨before', after'⟩, hcut, hparts⟩ := h
      obtain ⟨rfl, rfl⟩ := Prod.mk.inj hparts
      obtain ⟨rfl, hfree⟩ := ih hcut
      refine ⟨rfl, fun hmem => ?_⟩
      rcases List.mem_cons.1 hmem with hfirst | hmem
      · exact hc hfirst.symm
      · exact hfree hmem

/-! ## Text and what follows it -/

theorem divide_append (h : separator ∉ before) (after : List Char) :
    divide separator (before ++ separator :: after) = (before, after) := by
  rw [divide, cut?_append h, Option.getD_some]

theorem divide_of_not_mem (h : separator ∉ cs) : divide separator cs = (cs, []) := by
  rw [divide, cut?_eq_none_iff.2 h, Option.getD_none]

/-- What is before a separator has none; without a separator, nothing follows. -/
theorem eq_of_divide (h : divide separator cs = (before, after)) :
    separator ∉ before
      ∧ (cs = before ++ separator :: after ∨ cs = before ∧ after = []) := by
  cases hcut : cut? separator cs with
  | none =>
    have hfree : separator ∉ cs := cut?_eq_none_iff.1 hcut
    rw [divide_of_not_mem hfree] at h
    obtain ⟨rfl, rfl⟩ := Prod.mk.inj h
    exact ⟨hfree, Or.inr ⟨rfl, rfl⟩⟩
  | some parts =>
    rw [divide, hcut, Option.getD_some] at h
    rw [h] at hcut
    obtain ⟨hcs, hfree⟩ := eq_append_of_cut? hcut
    exact ⟨hfree, Or.inl hcs⟩

theorem prefix_of_divide (h : divide separator cs = (before, after)) : before <+: cs := by
  obtain ⟨-, rfl | ⟨rfl, -⟩⟩ := eq_of_divide h
  · exact List.prefix_append _ _
  · exact List.prefix_rfl

/-- Nothing is added to what follows. -/
theorem suffix_of_divide (h : divide separator cs = (before, after)) : after <:+ cs := by
  obtain ⟨-, rfl | ⟨rfl, rfl⟩⟩ := eq_of_divide h
  · exact (List.suffix_cons _ _).trans (List.suffix_append _ _)
  · exact List.nil_suffix

/-! ## All separators -/

theorem splitOn_of_not_mem (h : separator ∉ cs) : splitOn separator cs = [cs] := by
  induction cs with
  | nil => rfl
  | cons c cs ih =>
    have hc : c ≠ separator := fun hc => h (hc ▸ List.mem_cons_self ..)
    have hrest : separator ∉ cs := fun hmem => h (List.mem_cons_of_mem _ hmem)
    rw [splitOn, if_neg hc, ih hrest]

theorem splitOn_append (h : separator ∉ before) (after : List Char) :
    splitOn separator (before ++ separator :: after) = before :: splitOn separator after := by
  induction before with
  | nil => rw [List.nil_append, splitOn, if_pos rfl]
  | cons c before ih =>
    have hc : c ≠ separator := fun hc => h (hc ▸ List.mem_cons_self ..)
    have hrest : separator ∉ before := fun hmem => h (List.mem_cons_of_mem _ hmem)
    rw [List.cons_append, splitOn, if_neg hc, ih hrest]

end Url

namespace Query

open Url (splitOn splitOn_of_not_mem splitOn_append)

variable {separator : Char} {parts : List (List Char)}

/-- Parts without separators come apart again; without parts there is an empty one. -/
theorem splitOn_separated (h : ∀ part ∈ parts, separator ∉ part) :
    splitOn separator (separated separator parts) = if parts = [] then [[]] else parts := by
  induction parts with
  | nil => rfl
  | cons part rest ih =>
    obtain ⟨hpart, hrest⟩ := List.forall_mem_cons.1 h
    rw [if_neg (List.cons_ne_nil part rest)]
    cases rest with
    | nil => exact splitOn_of_not_mem hpart
    | cons next rest =>
      rw [separated, splitOn_append hpart, ih hrest, if_neg (List.cons_ne_nil next rest)]
      exact List.cons_ne_nil _ _

theorem mem_separated {c : Char} (h : c ∈ separated separator parts) :
    c = separator ∨ ∃ part ∈ parts, c ∈ part := by
  induction parts with
  | nil => exact absurd h List.not_mem_nil
  | cons part rest ih =>
    cases rest with
    | nil => exact Or.inr ⟨part, List.mem_cons_self .., h⟩
    | cons next rest =>
      rw [separated, List.mem_append, List.mem_cons] at h
      · rcases h with hpart | hseparator | hrest
        · exact Or.inr ⟨part, List.mem_cons_self .., hpart⟩
        · exact Or.inl hseparator
        · rcases ih hrest with hseparator | ⟨other, hother, hc⟩
          · exact Or.inl hseparator
          · exact Or.inr ⟨other, List.mem_cons_of_mem _ hother, hc⟩
      · exact List.cons_ne_nil _ _

end Query

end RelyingParty
