import RelyingParty.Proofs.Steps
import RelyingParty.Proofs.Url.Separators

set_option autoImplicit false

/-! # URLs that are joined and split again

A URL of the web that was split is joined to a text that splits into the same parts. This also
holds if its query was replaced by one without characters that would end it or be dropped, because
no other part is taken apart by what stands in the query: `split_toText`.

`Apart` is what makes the parts of a URL come apart at the right places; splitting gives such parts,
and joining needs no more. -/

namespace RelyingParty.Url

/-! ## What splitting gives -/

/-- A character that is not dropped wherever it stands. -/
def IsKept (c : Char) : Prop := c ≠ '\t' ∧ c ≠ '\r' ∧ c ≠ '\n'

instance : DecidablePred IsKept := fun _ => inferInstanceAs (Decidable (_ ∧ _))

/-- A URL of the web whose parts come apart at the right places. -/
structure Apart (u : Url) : Prop where
  scheme : u.scheme = "http" ∨ u.scheme = "https"
  authority_ne : u.authority ≠ ""
  authority : ∀ c ∈ u.authority.toList, endsAuthority c = false
  /-- The authority is an accepted one. -/
  accepted : checkAuthority u.authority.toList = .ok ()
  path_start : ∀ c ∈ u.path.toList.head?, c = '/'
  path : '?' ∉ u.path.toList ∧ '#' ∉ u.path.toList
  query : '#' ∉ u.query.toList
  kept : ∀ c ∈ u.authority.toList ++ u.path.toList ++ u.query.toList ++ u.fragment.toList, IsKept c

/-- A text splits into the parts that are cut off one after the other. -/
theorem split_eq_ok_iff {s : String} {u : Url} :
    split s = .ok u ↔ ∃ rest located before,
      takeScheme (cleaned s) = (u.scheme.toList, rest)
        ∧ takeAuthority rest = (u.authority.toList, located)
        ∧ checkAuthority u.authority.toList = .ok ()
        ∧ divide '#' located = (before, u.fragment.toList)
        ∧ divide '?' before = (u.path.toList, u.query.toList) := by
  unfold split
  rw [check_bind_eq_ok_iff]
  refine ⟨fun h => ?_, fun h => ?_⟩
  · obtain ⟨haccepted, hparts⟩ := h
    obtain rfl := Except.ok.inj hparts
    simp only [String.toList_ofList]
    exact ⟨_, _, _, rfl, rfl, haccepted, rfl, rfl⟩
  · obtain ⟨rest, located, before, hscheme, hauthority, haccepted, hfragment, hquery⟩ := h
    simp only [hscheme, hauthority, hfragment, hquery, String.ofList_toList]
    exact ⟨haccepted, rfl⟩

theorem isKept_of_mem_cleaned {s : String} {c : Char} (h : c ∈ cleaned s) : IsKept c := by
  have hc := (List.mem_filter.1 h).2
  simpa [IsKept, and_assoc] using hc

/-- What follows the scheme is the end of the text. -/
theorem takeScheme_subset (cs : List Char) : (takeScheme cs).2 ⊆ cs := by
  unfold takeScheme
  split
  · next c before after hcut =>
    obtain ⟨rfl, -⟩ := eq_append_of_cut? hcut
    split
    · intro d hd
      exact List.mem_append_right _ (List.mem_cons_of_mem _ hd)
    · exact List.Subset.refl _
  · exact List.Subset.refl _

/-- An authority stands between two slashes and the character that ends it. -/
theorem takeAuthority_eq {cs authority located : List Char}
    (h : takeAuthority cs = (authority, located)) (hne : authority ≠ []) :
    cs = '/' :: '/' :: (authority ++ located)
      ∧ (∀ c ∈ authority, endsAuthority c = false)
      ∧ ∀ c ∈ located.head?, endsAuthority c = true := by
  unfold takeAuthority at h
  split at h
  · next cs =>
    obtain ⟨rfl, rfl⟩ := Prod.mk.inj h
    refine ⟨by rw [List.takeWhile_append_dropWhile], fun c hc => ?_, fun c hc => ?_⟩
    · have hends := List.all_eq_true.1 (List.all_takeWhile) c hc
      simpa using hends
    · have hends := List.head?_dropWhile_not (!endsAuthority ·) cs
      rw [hc] at hends
      simpa using hends
  · exact absurd (Prod.mk.inj h).1.symm hne

/-- A URL of the web that was split has parts that come apart. -/
theorem apart_of_split {s : String} {u : Url} (h : split s = .ok u) (hweb : u.isWeb = true) :
    u.Apart := by
  obtain ⟨rest, located, before, hscheme, hauthority, haccepted, hfragment, hquery⟩ :=
    split_eq_ok_iff.1 h
  obtain ⟨hhttp, hne⟩ : (u.scheme = "http" ∨ u.scheme = "https") ∧ u.authority ≠ "" := by
    simpa [isWeb] using hweb
  have hauthority_ne : u.authority.toList ≠ [] := fun hnil => hne (String.toList_eq_nil_iff.1 hnil)
  obtain ⟨hrest, hends, hstart⟩ := takeAuthority_eq hauthority hauthority_ne
  obtain ⟨hbefore, -⟩ := eq_of_divide hfragment
  obtain ⟨hpath, -⟩ := eq_of_divide hquery
  have hpath_start : u.path.toList <+: located :=
    (prefix_of_divide hquery).trans (prefix_of_divide hfragment)
  have hquery_subset : u.query.toList ⊆ before := (suffix_of_divide hquery).subset
  have hpath_free : '#' ∉ u.path.toList :=
    fun hmem => hbefore ((prefix_of_divide hquery).subset hmem)
  refine ⟨hhttp, hne, hends, haccepted, fun c hc => ?_, ⟨hpath, hpath_free⟩,
    fun hmem => hbefore (hquery_subset hmem), fun c hc => ?_⟩
  · -- a path starts with the character that ends the authority
    have hcend : endsAuthority c = true := by
      obtain ⟨tail, rfl⟩ := hpath_start
      refine hstart c ?_
      rw [List.head?_append, Option.mem_def.1 hc]
      rfl
    have hcmem : c ∈ u.path.toList := List.mem_of_mem_head? hc
    have hcases : (c = '/' ∨ c = '?') ∨ c = '#' := by simpa [endsAuthority] using hcend
    rcases hcases with (hslash | rfl) | rfl
    · exact hslash
    · exact absurd hcmem hpath
    · exact absurd hcmem hpath_free
  · have hmem : c ∈ u.authority.toList ++ located := by
      simp only [List.mem_append] at hc ⊢
      rcases hc with ((hc | hc) | hc) | hc
      · exact Or.inl hc
      · exact Or.inr (hpath_start.subset hc)
      · exact Or.inr ((prefix_of_divide hfragment).subset (hquery_subset hc))
      · exact Or.inr ((suffix_of_divide hfragment).subset hc)
    have hsubset := takeScheme_subset (cleaned s)
    rw [hscheme, hrest] at hsubset
    exact isKept_of_mem_cleaned
      (hsubset (List.mem_cons_of_mem _ (List.mem_cons_of_mem _ hmem)))

/-- The query may be replaced by one that neither ends nor loses a character. -/
theorem Apart.withQuery {u : Url} (h : u.Apart) {query : String}
    (hquery : ∀ c ∈ query.toList, c ≠ '#' ∧ IsKept c) : Apart { u with query } where
  scheme := h.scheme
  authority_ne := h.authority_ne
  authority := h.authority
  accepted := h.accepted
  path_start := h.path_start
  path := h.path
  query := fun hmem => (hquery _ hmem).1 rfl
  kept := by
    intro c hc
    have hkept := h.kept c
    simp only [List.mem_append] at hc hkept
    rcases hc with (hc | hc) | hc
    · exact hkept (Or.inl (Or.inl hc))
    · exact (hquery c hc).2
    · exact hkept (Or.inr hc)

/-! ## Joining -/

/-- A part behind the character that announces it; an empty part is not announced. -/
def announced (separator : Char) (part : List Char) : List Char :=
  if part = [] then [] else separator :: part

theorem divide_announced {separator : Char} {before : List Char} (h : separator ∉ before)
    (part : List Char) :
    divide separator (before ++ announced separator part) = (before, part) := by
  unfold announced
  split
  · next hnil => rw [hnil, List.append_nil, divide_of_not_mem h]
  · exact divide_append h part

/-- What stands behind the authority of a URL. -/
def located (u : Url) : List Char :=
  u.path.toList ++ announced '?' u.query.toList ++ announced '#' u.fragment.toList

theorem mem_announced {separator c : Char} {part : List Char} (h : c ∈ announced separator part) :
    c = separator ∨ c ∈ part := by
  unfold announced at h
  split at h
  · exact absurd h List.not_mem_nil
  · exact List.mem_cons.1 h

theorem toList_announced (mark part : String) (separator : Char)
    (hmark : mark.toList = [separator]) :
    (if part = "" then "" else mark ++ part).toList = announced separator part.toList := by
  unfold announced
  by_cases hpart : part = ""
  · rw [if_pos hpart, if_pos (String.toList_eq_nil_iff.2 hpart), String.toList_empty]
  · rw [if_neg hpart, if_neg fun hnil => hpart (String.toList_eq_nil_iff.1 hnil),
      String.toList_append, hmark, List.singleton_append]

theorem toList_toText {u : Url} (h : u.Apart) :
    u.toText.toList
      = u.scheme.toList ++ ':' :: '/' :: '/' :: (u.authority.toList ++ u.located) := by
  have hscheme : u.scheme ≠ "" := by
    rcases h.scheme with hs | hs <;> simp [hs]
  have hslash : (u.path != "" && !startsWith ['/'] u.path) = false := by
    cases hpath : u.path.toList with
    | nil => simp [String.toList_eq_nil_iff.1 hpath]
    | cons c cs =>
      have hc : c = '/' := h.path_start c (by simp [hpath])
      simp [startsWith, hpath, hc]
  have hlocation : u.locationText = "//" ++ u.authority ++ u.path := by
    unfold locationText
    rw [if_pos (by simp [h.authority_ne]), hslash]
    simp
  unfold toText located
  rw [if_neg hscheme, hlocation]
  simp only [String.toList_append, toList_announced "?" u.query '?' rfl,
    toList_announced "#" u.fragment '#' rfl]
  simp

/-- Nothing of the joined text is dropped. -/
theorem cleaned_toText {u : Url} (h : u.Apart) : cleaned u.toText = u.toText.toList := by
  have hletters : ∀ c ∈ u.scheme.toList, IsKept c := by
    rcases h.scheme with hs | hs
    · simp [hs, IsKept]
    · simp [hs, IsKept]
  have hkept : ∀ c ∈ u.toText.toList, IsKept c := by
    intro c hc
    have hpart := h.kept c
    simp only [toList_toText h, located, List.mem_append, List.mem_cons] at hc hpart
    rcases hc with hc | rfl | rfl | rfl | hc | (hc | hc) | hc
    · exact hletters c hc
    · decide
    · decide
    · decide
    · exact hpart (Or.inl (Or.inl (Or.inl hc)))
    · exact hpart (Or.inl (Or.inl (Or.inr hc)))
    · rcases mem_announced hc with rfl | hc
      · decide
      · exact hpart (Or.inl (Or.inr hc))
    · rcases mem_announced hc with rfl | hc
      · decide
      · exact hpart (Or.inr hc)
  have hstart : u.toText.toList.dropWhile (·.toNat ≤ 0x20) = u.toText.toList := by
    rw [toList_toText h]
    rcases h.scheme with hs | hs
    · rw [hs]
      rfl
    · rw [hs]
      rfl
  rw [cleaned, hstart, List.filter_eq_self]
  intro c hc
  simpa [IsKept, and_assoc] using hkept c hc

theorem takeScheme_of_web {scheme : String} (h : scheme = "http" ∨ scheme = "https")
    (rest : List Char) : takeScheme (scheme.toList ++ ':' :: rest) = (scheme.toList, rest) := by
  rcases h with rfl | rfl
  · rfl
  · rfl

theorem takeAuthority_append {authority located : List Char}
    (hauthority : ∀ c ∈ authority, endsAuthority c = false)
    (hlocated : ∀ c ∈ located.head?, endsAuthority c = true) :
    takeAuthority ('/' :: '/' :: (authority ++ located)) = (authority, located) := by
  have hin : ∀ c ∈ authority, (!endsAuthority c) = true := by
    intro c hc
    rw [hauthority c hc, Bool.not_false]
  have hstop : located.takeWhile (!endsAuthority ·) = [] ∧
      located.dropWhile (!endsAuthority ·) = located := by
    cases located with
    | nil => exact ⟨rfl, rfl⟩
    | cons c rest =>
      have hc : ¬ (!endsAuthority c) = true := by simp [hlocated c rfl]
      exact ⟨List.takeWhile_cons_of_neg hc, List.dropWhile_cons_of_neg hc⟩
  rw [takeAuthority, List.takeWhile_append_of_pos hin, List.dropWhile_append_of_pos hin, hstop.1,
    hstop.2, List.append_nil]

/-- **A URL of the web is what its text splits into.** -/
theorem split_toText {u : Url} (h : u.Apart) : split u.toText = .ok u := by
  have hends : ∀ c ∈ u.located.head?, endsAuthority c = true := by
    intro c hc
    cases hpath : u.path.toList with
    | cons d rest =>
      rw [located, hpath] at hc
      obtain rfl : d = c := Option.some.inj hc
      rw [h.path_start d (by simp [hpath])]
      rfl
    | nil =>
      -- without a path, the query or the fragment is announced next
      rw [located, hpath, List.nil_append, announced, announced] at hc
      split at hc
      · split at hc
        · exact absurd hc (by simp)
        · obtain rfl : '#' = c := Option.some.inj hc
          rfl
      · obtain rfl : '?' = c := Option.some.inj hc
        rfl
  have hfree : '#' ∉ u.path.toList ++ announced '?' u.query.toList := by
    intro hmem
    rcases List.mem_append.1 hmem with hmem | hmem
    · exact h.path.2 hmem
    · rcases mem_announced hmem with hmark | hmem
      · exact absurd hmark (by decide)
      · exact h.query hmem
  refine split_eq_ok_iff.2 ⟨'/' :: '/' :: (u.authority.toList ++ u.located), u.located,
    u.path.toList ++ announced '?' u.query.toList, ?_, ?_, h.accepted, ?_, ?_⟩
  · rw [cleaned_toText h, toList_toText h]
    exact takeScheme_of_web h.scheme _
  · exact takeAuthority_append h.authority hends
  · exact divide_announced hfree _
  · exact divide_announced h.path.1 _

end RelyingParty.Url
