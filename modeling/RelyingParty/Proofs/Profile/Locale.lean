import Mathlib
import RelyingParty.Profile.Identity
import RelyingParty.Proofs.Profile.Accumulation

set_option autoImplicit false

/-! # Locales

The locale of a person is written by letters, in any case, and told by a tag in one form:
`Locale.Writes`, `Locale.IsCanonical`. A text gives a tag exactly if it writes one, or if it writes
one and a line end follows; then the line end is told, too (`Locale.ofText?_eq_some_iff`). So the
locale is a canonical tag or none unless such a line end is stored, and what is told can be stored
again: `locale_canonical_iff`. -/

namespace RelyingParty

namespace Locale

/-! ## Tags -/

/-- A text writes a tag. -/
inductive Writes : List Char → String → Prop where
  | language {language : List Char} (h : isLanguage language = true) :
      Writes language (String.ofList (language.map Char.toLower))
  | country {language country : List Char} {separator : Char} (h : isLanguage language = true)
      (hseparator : isSeparator separator = true) (hcountry : isCountry country = true) :
      Writes (language ++ separator :: country)
        (String.ofList (language.map Char.toLower) ++ "_"
          ++ String.ofList (country.map Char.toUpper))

/-- Tags: two or three small letters, and maybe two capital letters after an underscore. -/
inductive IsCanonical : String → Prop where
  | language {language : List Char} (hlength : language.length = 2 ∨ language.length = 3)
      (hsmall : ∀ c ∈ language, c.isLower = true) : IsCanonical (String.ofList language)
  | country {language country : List Char} (hlength : language.length = 2 ∨ language.length = 3)
      (hsmall : ∀ c ∈ language, c.isLower = true) (hcountry : country.length = 2)
      (hcapital : ∀ c ∈ country, c.isUpper = true) :
      IsCanonical (String.ofList language ++ "_" ++ String.ofList country)

variable {cs language country : List Char} {s tag : String}

theorem isLanguage_iff :
    isLanguage cs = true ↔ (cs.length = 2 ∨ cs.length = 3) ∧ ∀ c ∈ cs, c.isAlpha = true := by
  simp [isLanguage]

theorem isCountry_iff :
    isCountry cs = true ↔ cs.length = 2 ∧ ∀ c ∈ cs, c.isAlpha = true := by
  simp [isCountry]

theorem Writes.isCanonical (h : Writes cs tag) : IsCanonical tag := by
  cases h with
  | language hlanguage =>
    obtain ⟨hlength, hletters⟩ := isLanguage_iff.1 hlanguage
    refine .language (by simpa using hlength) ?_
    simpa using hletters
  | country hlanguage _ hcountry =>
    obtain ⟨hlength, hletters⟩ := isLanguage_iff.1 hlanguage
    obtain ⟨hcountrylength, hcountryletters⟩ := isCountry_iff.1 hcountry
    refine .country (by simpa using hlength) ?_ (by simpa using hcountrylength) ?_
    · simpa using hletters
    · simpa using hcountryletters

theorem map_toLower_eq_self (h : ∀ c ∈ cs, c.isLower = true) : cs.map Char.toLower = cs := by
  rw [List.map_congr_left fun c hc =>
    Char.toLower_eq_of_not_isUpper (Char.not_isUpper_of_isLower (h c hc)), List.map_id']

theorem map_toUpper_eq_self (h : ∀ c ∈ cs, c.isUpper = true) : cs.map Char.toUpper = cs := by
  rw [List.map_congr_left fun c hc =>
    Char.toUpper_eq_of_not_isLower (Char.not_isLower_of_isUpper (h c hc)), List.map_id']

theorem isLanguage_of_small (hlength : cs.length = 2 ∨ cs.length = 3)
    (hsmall : ∀ c ∈ cs, c.isLower = true) : isLanguage cs = true :=
  isLanguage_iff.2 ⟨hlength, fun c hc => by simp [Char.isAlpha, hsmall c hc]⟩

theorem isCountry_of_capital (hlength : cs.length = 2) (hcapital : ∀ c ∈ cs, c.isUpper = true) :
    isCountry cs = true :=
  isCountry_iff.2 ⟨hlength, fun c hc => by simp [Char.isAlpha, hcapital c hc]⟩

/-- A tag writes itself. -/
theorem IsCanonical.writes (h : IsCanonical tag) : Writes tag.toList tag := by
  cases h with
  | language hlength hsmall =>
    have hwrites := Writes.language (isLanguage_of_small hlength hsmall)
    rw [map_toLower_eq_self hsmall] at hwrites
    rw [String.toList_ofList]
    exact hwrites
  | country hlength hsmall hcountry hcapital =>
    have hseparator : isSeparator '_' = true := rfl
    have hwrites := Writes.country (isLanguage_of_small hlength hsmall) hseparator
      (isCountry_of_capital hcountry hcapital)
    rw [map_toLower_eq_self hsmall, map_toUpper_eq_self hcapital] at hwrites
    simpa using hwrites

/-! ## Reading a tag -/

/-- No letter is a separator. -/
theorem not_isSeparator_of_mem (h : isLanguage language = true) :
    ∀ c ∈ language, (!isSeparator c) = true := by
  intro c hc
  have hletter := (isLanguage_iff.1 h).2 c hc
  rw [Bool.not_eq_true', Bool.eq_false_iff]
  intro hseparator
  rcases (by simpa [isSeparator] using hseparator : c = '_' ∨ c = '-') with rfl | rfl
  · exact absurd hletter (by decide)
  · exact absurd hletter (by decide)

/-- Language and country are divided at the separator; a line end goes with the last of them. -/
def divide? (cs lineEnd : List Char) : Option (List Char × List Char) :=
  let language := cs.takeWhile (!isSeparator ·)
  match cs.dropWhile (!isSeparator ·) with
  | [] => if isLanguage language then some (language ++ lineEnd, []) else none
  | _ :: country =>
    if isLanguage language && isCountry country then some (language, country ++ lineEnd) else none

theorem parts?_append_lineEnd (cs : List Char) : parts? (cs ++ ['\n']) = divide? cs ['\n'] := by
  simp only [parts?, List.getLast?_concat, List.dropLast_concat, if_true, List.isEmpty_cons,
    Bool.false_eq_true, if_false]
  rfl

theorem parts?_of_getLast?_ne (h : cs.getLast? ≠ some '\n') : parts? cs = divide? cs [] := by
  simp only [parts?, h, if_false, List.isEmpty_nil, if_true]
  rfl

theorem divide?_language (h : isLanguage language = true) (lineEnd : List Char) :
    divide? language lineEnd = some (language ++ lineEnd, []) := by
  have hletters := not_isSeparator_of_mem h
  simp [divide?, List.takeWhile_eq_self_iff.2 hletters, List.dropWhile_eq_nil_iff.2 hletters, h]

theorem divide?_country {separator : Char} (h : isLanguage language = true)
    (hseparator : isSeparator separator = true) (hcountry : isCountry country = true)
    (lineEnd : List Char) :
    divide? (language ++ separator :: country) lineEnd = some (language, country ++ lineEnd) := by
  have hletters := not_isSeparator_of_mem h
  simp [divide?, List.takeWhile_append_of_pos hletters, List.dropWhile_append_of_pos hletters,
    hseparator, h, hcountry]

/-- There is nothing else that can be divided. -/
theorem eq_of_divide? {lineEnd : List Char} {parts : List Char × List Char}
    (h : divide? cs lineEnd = some parts) :
    isLanguage cs = true ∧ parts = (cs ++ lineEnd, [])
      ∨ ∃ language separator country, cs = language ++ separator :: country
        ∧ isLanguage language = true ∧ isSeparator separator = true ∧ isCountry country = true
        ∧ parts = (language, country ++ lineEnd) := by
  have hcs := List.takeWhile_append_dropWhile (p := (!isSeparator ·)) (l := cs)
  have hstop := List.head?_dropWhile_not (!isSeparator ·) cs
  unfold divide? at h
  dsimp only at h
  split at h
  · next hrest =>
    rw [hrest, List.append_nil] at hcs
    rw [hcs] at h
    split at h
    · next hlanguage => exact Or.inl ⟨hlanguage, (Option.some.inj h).symm⟩
    · exact absurd h (by simp)
  · next separator country hrest =>
    rw [hrest] at hcs hstop
    split at h
    · next hboth =>
      obtain ⟨hlanguage, hcountry⟩ := Bool.and_eq_true_iff.1 hboth
      exact Or.inr ⟨_, separator, country, hcs.symm, hlanguage, by simpa using hstop, hcountry,
        (Option.some.inj h).symm⟩
    · exact absurd h (by simp)

/-- The tag of a language and what stands for the country. -/
def tagOf (parts : List Char × List Char) : String :=
  if parts.2.isEmpty then String.ofList (parts.1.map Char.toLower)
  else String.ofList (parts.1.map Char.toLower) ++ "_" ++ String.ofList (parts.2.map Char.toUpper)

theorem ofText?_eq_map (s : String) : ofText? s = (parts? s.toList).map tagOf := rfl

/-- There is no line end, or one. -/
def IsLineEnd (cs : List Char) : Prop := cs = [] ∨ cs = ['\n']

theorem IsLineEnd.caseless {lineEnd : List Char} (h : IsLineEnd lineEnd) :
    lineEnd.map Char.toLower = lineEnd ∧ lineEnd.map Char.toUpper = lineEnd := by
  rcases h with rfl | rfl
  · exact ⟨rfl, rfl⟩
  · exact ⟨by decide, by decide⟩

theorem tagOf_language {lineEnd : List Char} (h : IsLineEnd lineEnd) :
    tagOf (language ++ lineEnd, [])
      = String.ofList (language.map Char.toLower) ++ String.ofList lineEnd := by
  simp [tagOf, h.caseless.1]

theorem tagOf_country {lineEnd : List Char} (h : IsLineEnd lineEnd)
    (hcountry : isCountry country = true) :
    tagOf (language, country ++ lineEnd)
      = String.ofList (language.map Char.toLower) ++ "_" ++ String.ofList (country.map Char.toUpper)
        ++ String.ofList lineEnd := by
  have hne : country ≠ [] := by
    rintro rfl
    exact absurd (isCountry_iff.1 hcountry).1 (by decide)
  simp [tagOf, h.caseless.2, hne, String.append_assoc]

/-- What is divided writes a tag, after which the line end is told. -/
theorem map_divide?_eq_some_iff {lineEnd : List Char} (h : IsLineEnd lineEnd) :
    (divide? cs lineEnd).map tagOf = some tag ↔
      ∃ written, Writes cs written ∧ tag = written ++ String.ofList lineEnd := by
  rw [Option.map_eq_some_iff]
  constructor
  · rintro ⟨parts, hparts, rfl⟩
    rcases eq_of_divide? hparts with ⟨hlanguage, rfl⟩ | ⟨language, separator, country, rfl,
      hlanguage, hseparator, hcountry, rfl⟩
    · exact ⟨_, .language hlanguage, tagOf_language h⟩
    · exact ⟨_, .country hlanguage hseparator hcountry, tagOf_country h hcountry⟩
  · rintro ⟨written, hwrites, rfl⟩
    cases hwrites with
    | language hlanguage => exact ⟨_, divide?_language hlanguage lineEnd, tagOf_language h⟩
    | country hlanguage hseparator hcountry =>
      exact ⟨_, divide?_country hlanguage hseparator hcountry lineEnd, tagOf_country h hcountry⟩

/-- What writes a tag has no line end. -/
theorem Writes.not_mem (h : Writes cs tag) : '\n' ∉ cs := by
  have hletters : ∀ {cs : List Char}, (∀ c ∈ cs, c.isAlpha = true) → '\n' ∉ cs :=
    fun h hmem => absurd (h _ hmem) (by decide)
  cases h with
  | language hlanguage => exact hletters (isLanguage_iff.1 hlanguage).2
  | country hlanguage hseparator hcountry =>
    intro hmem
    rcases List.mem_append.1 hmem with hmem | hmem
    · exact hletters (isLanguage_iff.1 hlanguage).2 hmem
    · rcases List.mem_cons.1 hmem with rfl | hmem
      · exact absurd hseparator (by decide)
      · exact hletters (isCountry_iff.1 hcountry).2 hmem

/-- **A text gives the tag that it writes**, or the one that stands before a line end, with the line
    end. -/
theorem ofText?_eq_some_iff :
    ofText? s = some tag ↔
      Writes s.toList tag
        ∨ ∃ cs written, s.toList = cs ++ ['\n'] ∧ Writes cs written ∧ tag = written ++ "\n" := by
  rw [ofText?_eq_map]
  by_cases hlast : s.toList.getLast? = some '\n'
  · obtain ⟨cs, hcs⟩ := List.getLast?_eq_some_iff.1 hlast
    rw [hcs, parts?_append_lineEnd, map_divide?_eq_some_iff (Or.inr rfl)]
    constructor
    · rintro ⟨written, hwrites, rfl⟩
      exact Or.inr ⟨cs, written, rfl, hwrites, rfl⟩
    · rintro (hwrites | ⟨cs', written, hsame, hwrites, rfl⟩)
      · exact absurd (List.mem_append_right _ (List.mem_singleton_self _)) hwrites.not_mem
      · rw [List.append_cancel_right hsame]
        exact ⟨written, hwrites, rfl⟩
  · rw [parts?_of_getLast?_ne hlast, map_divide?_eq_some_iff (Or.inl rfl)]
    constructor
    · rintro ⟨written, hwrites, rfl⟩
      exact Or.inl (by simpa using hwrites)
    · rintro (hwrites | ⟨cs, written, hcs, -, -⟩)
      · exact ⟨tag, hwrites, by simp⟩
      · exact absurd (by rw [hcs, List.getLast?_concat]) hlast

/-- What is told gives itself. -/
theorem ofText?_of_ofText? (h : ofText? s = some tag) : ofText? tag = some tag := by
  rcases ofText?_eq_some_iff.1 h with hwrites | ⟨cs, written, -, hwrites, rfl⟩
  · exact ofText?_eq_some_iff.2 (Or.inl hwrites.isCanonical.writes)
  · exact ofText?_eq_some_iff.2
      (Or.inr ⟨written.toList, written, by simp, hwrites.isCanonical.writes, rfl⟩)

theorem IsCanonical.not_mem (h : IsCanonical tag) : '\n' ∉ tag.toList := h.writes.not_mem

end Locale

/-! ## The locale of a profile -/

namespace Profile

variable {p : Profile} {tag : String}

theorem locale?_eq_some_iff :
    p.locale? = some tag ↔
      ∃ s, p.attribute? "locale" = some (.text s) ∧ Locale.ofText? s = some tag := by
  unfold locale?
  split
  · next s hs => simp [hs]
  · next hother =>
    refine iff_of_false (by simp) ?_
    rintro ⟨s, hs, -⟩
    exact hother s hs

/-- A text that is added as an attribute is found there, whatever was there before. -/
theorem exists_add_text (p : Profile) {name : String} (h : Text.isBlankText name = false)
    (s : String) :
    ∃ p', p.add .attribute (.text name) (.text s) = (.ok (), p')
      ∧ p'.attribute? name = some (.text s) := by
  have hvisible : (Value.text name).isBlank = false := h
  have hexact : Entries.IsExact (Value.text name) := Value.isExact_of_isText rfl
  refine ⟨{ p with attributes := p.attributes.insert (.text name) (.text s) }, ?_, ?_⟩
  · simp only [add, addFact, hvisible, Bool.false_eq_true, if_false]
    rfl
  · rw [attribute?, Entries.get?_insert_of_exact _ hexact hexact, if_pos ((hexact _).2 rfl)]

/-- The locale that is stored writes a tag, and a line end follows. -/
def HasLocaleLine (p : Profile) : Prop :=
  ∃ cs tag, p.attribute? "locale" = some (.text (String.ofList (cs ++ ['\n'])))
    ∧ Locale.Writes cs tag

/-- **The locale is a canonical tag or none**, exactly unless what is stored ends with a line end
    after a language, or after language and country. A text that writes a tag gives it, and what is
    told as the locale may be stored as such: then the same is told again. -/
theorem locale_canonical_iff (p : Profile) :
    ((p.locale? = none ∨ ∃ tag, p.locale? = some tag ∧ Locale.IsCanonical tag) ↔
        ¬ p.HasLocaleLine)
      ∧ (∀ s tag, p.attribute? "locale" = some (.text s) → Locale.Writes s.toList tag →
          p.locale? = some tag)
      ∧ ∀ tag, p.locale? = some tag → ∃ p',
          p.add .attribute (.text "locale") (.text tag) = (.ok (), p') ∧ p'.locale? = some tag := by
  refine ⟨⟨?_, ?_⟩, ?_, ?_⟩
  · rintro hlocale ⟨cs, written, hs, hwrites⟩
    have htold : p.locale? = some (written ++ "\n") := by
      refine locale?_eq_some_iff.2 ⟨_, hs, Locale.ofText?_eq_some_iff.2 (Or.inr ?_)⟩
      exact ⟨cs, written, String.toList_ofList, hwrites, rfl⟩
    rcases hlocale with hnone | ⟨tag, htag, hcanonical⟩
    · exact absurd (hnone.symm.trans htold) (by simp)
    · obtain rfl := Option.some.inj (htag.symm.trans htold)
      exact hcanonical.not_mem (by simp)
  · intro hline
    cases htold : p.locale? with
    | none => exact Or.inl rfl
    | some tag =>
      obtain ⟨s, hs, hgives⟩ := locale?_eq_some_iff.1 htold
      rcases Locale.ofText?_eq_some_iff.1 hgives with hwrites | ⟨cs, written, hcs, hwrites, -⟩
      · exact Or.inr ⟨tag, rfl, hwrites.isCanonical⟩
      · refine absurd ⟨cs, written, ?_, hwrites⟩ hline
        rw [← hcs, String.ofList_toList]
        exact hs
  · intro s tag hs hwrites
    exact locale?_eq_some_iff.2 ⟨s, hs, Locale.ofText?_eq_some_iff.2 (Or.inl hwrites)⟩
  · intro tag htold
    obtain ⟨s, -, hgives⟩ := locale?_eq_some_iff.1 htold
    have hvisible : Text.isBlankText "locale" = false := by decide
    obtain ⟨p', hadd, hstored⟩ := p.exists_add_text hvisible tag
    exact ⟨p', hadd, locale?_eq_some_iff.2 ⟨tag, hstored, Locale.ofText?_of_ofText? hgives⟩⟩

/-- A language with a line end is told as it is stored. -/
theorem locale_of_line :
    locale? { kind := .common, attributes := [(.text "locale", .text "en\n")] } = some "en\n"
      ∧ ¬ Locale.IsCanonical "en\n" :=
  ⟨by cbv, fun h => h.not_mem (by decide)⟩

end Profile

end RelyingParty
