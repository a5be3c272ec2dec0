import RelyingParty.Proofs.Callback.Effects
import RelyingParty.Proofs.Http.Parameters

set_option autoImplicit false

/-! # The letters of a media type

The name of a header counts whatever the case of its letters is, but the media type of a posted
form does not: a form is read only if the type is written in lower case. Two requests that differ in
these letters alone are therefore the same to the callback exactly if both write the type in lower
case, or neither does, or there is nothing in the form: `letters_make_no_difference_iff`. Where
there is a difference, the whole form is lost without a word, and a logout that the provider posts
looks like one that came through the browser: `answered_by_letters`. -/

namespace RelyingParty

/-! ## Headers and their values -/

namespace Http

variable {before after : List (String × String)} {name wanted value : String}

/-- A header of another name is not looked at. -/
theorem headerValues_of_ne (h : lowered name ≠ wanted) :
    headerValues (before ++ (name, value) :: after) wanted
      = headerValues (before ++ after) wanted := by
  have hother : (lowered name == wanted) = false := beq_eq_false_iff_ne.2 h
  simp [headerValues, List.filter_append, hother]

/-- The first header of a name gives the first value. -/
theorem head?_headerValues (hbefore : ∀ h ∈ before, lowered h.1 ≠ wanted)
    (hname : lowered name = wanted) :
    (headerValues (before ++ (name, value) :: after) wanted).head? = some value := by
  have hnone : before.filter (fun h => lowered h.1 == wanted) = [] := by
    rw [List.filter_eq_nil_iff]
    intro h hh heq
    exact hbefore h hh (eq_of_beq heq)
  have hself : (lowered name == wanted) = true := beq_iff_eq.2 hname
  simp [headerValues, List.filter_append, hnone, hself]

/-! ## The main part of a value -/

/-- What may follow a media type: nothing, or parameters behind a semicolon. -/
def IsParameters (s : String) : Prop :=
  s = "" ∨ ∃ blanks rest, s.toList = blanks ++ ';' :: rest ∧ ∀ c ∈ blanks, Text.isBlank c = true

/-- Characters that mean nothing in a value with parameters. -/
def IsPlain (cs : List Char) : Prop := ∀ c ∈ cs, c ≠ ';' ∧ c ≠ '"' ∧ c ≠ '=' ∧ c ≠ '\\'

theorem isPlain_of_isBlank {cs : List Char} (h : ∀ c ∈ cs, Text.isBlank c = true) :
    IsPlain cs := by
  intro c hc
  refine ⟨?_, ?_, ?_, ?_⟩
  all_goals
    rintro rfl
    exact absurd (h _ hc) (by decide)

theorem pieces_ne_nil (quoted escaped : Bool) (cs : List Char) :
    pieces quoted escaped cs ≠ [] := by
  cases cs with
  | nil => simp [pieces]
  | cons c cs =>
    rw [pieces]
    split
    · exact List.cons_ne_nil _ _
    · dsimp only
      split
      · exact List.cons_ne_nil _ _
      · exact List.cons_ne_nil _ _

/-- Plain characters are the beginning of the first piece. -/
theorem pieces_append {cs rest : List Char} (h : IsPlain cs) :
    pieces false false (cs ++ rest)
      = (cs ++ (pieces false false rest).headD []) :: (pieces false false rest).tail := by
  induction cs with
  | nil =>
    rw [List.nil_append, List.nil_append]
    cases hrest : pieces false false rest with
    | nil => exact absurd hrest (pieces_ne_nil false false rest)
    | cons piece more => rfl
  | cons c cs ih =>
    obtain ⟨⟨hsemicolon, hquote, -, hslash⟩, hcs⟩ := List.forall_mem_cons.1 h
    have hescape : (c == '\\') = false := beq_eq_false_iff_ne.2 hslash
    rw [List.cons_append, pieces]
    simp only [hsemicolon, hquote, decide_false, Bool.false_and, Bool.false_eq_true, if_false,
      hescape, ih hcs]
    rfl

/-- Blank characters behind others are taken away. -/
theorem stripped_append {cs blanks : List Char} (hcs : ∀ c ∈ cs, Text.isBlank c = false)
    (hblanks : ∀ c ∈ blanks, Text.isBlank c = true) : stripped (cs ++ blanks) = cs := by
  have hstays : ∀ xs : List Char, (∀ c ∈ xs, Text.isBlank c = false) →
      xs.dropWhile Text.isBlank = xs := by
    intro xs hxs
    cases xs with
    | nil => rfl
    | cons x xs => exact List.dropWhile_cons_of_neg (by simp [hxs x (List.mem_cons_self ..)])
  have hgoes : (cs ++ blanks).dropWhile Text.isBlank
      = cs ++ if cs = [] then [] else blanks := by
    cases cs with
    | nil => exact (Text.dropWhile_eq_nil_iff _ blanks).2 (List.all_eq_true.2 hblanks)
    | cons c cs =>
      rw [if_neg (List.cons_ne_nil c cs), List.cons_append]
      exact List.dropWhile_cons_of_neg (by simp [hcs c (List.mem_cons_self ..)])
  have hends : ∀ c ∈ (if cs = [] then [] else blanks).reverse, Text.isBlank c = true := by
    intro c hc
    split at hc
    · exact absurd hc (by simp)
    · exact hblanks c (List.mem_reverse.1 hc)
  rw [stripped, Text.trimBy, hgoes, List.reverse_append, List.dropWhile_append_of_pos hends,
    hstays _ fun c hc => hcs c (List.mem_reverse.1 hc), List.reverse_reverse]

theorem pieces_of_isPlain {cs : List Char} (h : IsPlain cs) : pieces false false cs = [cs] := by
  have happend : pieces false false (cs ++ [])
      = (cs ++ (pieces false false []).headD []) :: (pieces false false []).tail := pieces_append h
  simpa [pieces] using happend

/-- A semicolon ends the first piece. -/
theorem pieces_append_semicolon {cs rest : List Char} (h : IsPlain cs) :
    pieces false false (cs ++ ';' :: rest) = cs :: pieces false false rest := by
  have hsemicolon : pieces false false (';' :: rest) = [] :: pieces false false rest := by
    rw [pieces]
    rfl
  rw [pieces_append h, hsemicolon]
  simp

/-- A piece without an equals sign has no value. -/
theorem parameterOf_of_isPlain {cs : List Char} (h : IsPlain cs) :
    parameterOf cs = (String.ofList (stripped cs), "") := by
  have hcut : Url.cut? '=' cs = none :=
    Url.cut?_eq_none_iff.2 fun hmem => (h _ hmem).2.2.1 rfl
  rw [parameterOf, hcut]

/-- The main part of a value is what stands before the parameters. -/
theorem main_parameters {media parameters : String} (hparameters : IsParameters parameters)
    (hplain : IsPlain media.toList) (hvisible : ∀ c ∈ media.toList, Text.isBlank c = false)
    (hlower : lowered media = media) : (Http.parameters (media ++ parameters)).1 = media := by
  rcases hparameters with rfl | ⟨blanks, rest, hrest, hblanks⟩
  · have hstripped : stripped (media.toList ++ []) = media.toList :=
      stripped_append hvisible (by simp)
    have hstrip : Text.strip media = String.ofList (stripped media.toList) := rfl
    rw [List.append_nil] at hstripped
    rw [String.append_empty, Http.parameters, pieces_of_isPlain hplain]
    show lowered (Text.strip (String.ofList media.toList)) = media
    rw [String.ofList_toList, hstrip, hstripped, String.ofList_toList, hlower]
  · have hmedia : IsPlain (media.toList ++ blanks) := by
      intro c hc
      exact (List.mem_append.1 hc).elim (hplain c) (isPlain_of_isBlank hblanks c)
    have hpieces : pieces false false (media ++ parameters).toList
        = (media.toList ++ blanks) :: pieces false false rest := by
      rw [String.toList_append, hrest, ← List.append_assoc, pieces_append_semicolon hmedia]
    rw [Http.parameters, hpieces]
    cases hmore : pieces false false rest with
    | nil => exact absurd hmore (pieces_ne_nil false false rest)
    | cons piece more =>
      show (parameterOf (media.toList ++ blanks)).1 = media
      rw [parameterOf_of_isPlain hmedia, stripped_append hvisible hblanks, String.ofList_toList]

end Http

/-! ## Parameters -/

/-- Fields add something to the parameters. -/
theorem Parameters.ofFields_append_ne {fields posted : List (String × String)} (h : posted ≠ []) :
    ofFields (fields ++ posted) ≠ ofFields fields := by
  obtain ⟨field, rest, rfl⟩ := List.exists_cons_of_ne_nil h
  intro heq
  have hvalues : Parameters.valuesOf field.1 (fields ++ field :: rest)
      = Parameters.valuesOf field.1 fields := by
    rw [← Parameters.getD_ofFields, ← Parameters.getD_ofFields, heq]
  have hmore : Parameters.valuesOf field.1 (fields ++ field :: rest)
      = Parameters.valuesOf field.1 fields ++ field.2 :: Parameters.valuesOf field.1 rest := by
    simp [Parameters.valuesOf]
  rw [hmore, List.append_right_eq_self] at hvalues
  exact absurd hvalues (List.cons_ne_nil _ _)

/-! ## Posted forms -/

/-- A posted form without the letters of its media type: the request, and the header that states the
    type with what stands around it. -/
structure Posting where
  request : Request
  before : List (String × String)
  name : String
  parameters : String
  after : List (String × String)
  posted : request.method = "POST"
  isFirst : ∀ h ∈ before, Http.lowered h.1 ≠ "content-type"
  isContentType : Http.lowered name = "content-type"
  hasParameters : Http.IsParameters parameters

namespace Posting

open Request (urlencodedType multipartType startsWith fieldsOfBytes checkCount)

/-- The request with the media type in some letters. -/
def writtenAs (p : Posting) (media : String) : Request :=
  { p.request with headers := p.before ++ (p.name, media ++ p.parameters) :: p.after }

variable (p : Posting) {media media' : String}

theorem contentType_writtenAs (media : String) :
    (p.writtenAs media).contentType = media ++ p.parameters := by
  have hhead : (Http.headerValues (p.writtenAs media).headers "content-type").head?
      = some (media ++ p.parameters) := Http.head?_headerValues p.isFirst p.isContentType
  rw [Request.contentType, List.headD_eq_head?_getD, hhead, Option.getD_some]

/-- All other headers are the same, whatever the letters are. -/
theorem headerValues_writtenAs (media : String) {wanted : String} (h : "content-type" ≠ wanted) :
    Http.headerValues (p.writtenAs media).headers wanted
      = Http.headerValues (p.before ++ p.after) wanted :=
  Http.headerValues_of_ne (p.isContentType.symm ▸ h)

theorem length_of_lowered (h : Http.lowered media = urlencodedType) :
    media.toList.length = urlencodedType.toList.length := by
  rw [← h, Http.lowered, String.toList_ofList, List.length_map]

/-- A text that starts with a media type of the same length is that type. -/
theorem startsWith_urlencodedType_iff (h : Http.lowered media = urlencodedType)
    (parameters : String) :
    startsWith (media ++ parameters) urlencodedType = true ↔ media = urlencodedType := by
  rw [startsWith, List.isPrefixOf_iff_prefix, String.toList_append]
  constructor
  · intro hprefix
    have htype : urlencodedType.toList <+: media.toList :=
      List.prefix_of_prefix_length_le hprefix (List.prefix_append _ _)
        (Nat.le_of_eq (length_of_lowered h).symm)
    exact (String.toList_injective (htype.eq_of_length (length_of_lowered h).symm)).symm
  · rintro rfl
    exact List.prefix_append _ _

theorem startsWith_multipartType (h : Http.lowered media = urlencodedType) (parameters : String) :
    startsWith (media ++ parameters) multipartType = false := by
  rw [startsWith, Bool.eq_false_iff, Ne, List.isPrefixOf_iff_prefix, String.toList_append]
  intro hprefix
  have hlength : multipartType.toList.length ≤ media.toList.length := by
    rw [length_of_lowered h]
    decide
  have htype : multipartType.toList <+: media.toList :=
    List.prefix_of_prefix_length_le hprefix (List.prefix_append _ _) hlength
  have hlower : multipartType.toList.map Char.toLower <+: urlencodedType.toList := by
    have hletters : media.toList.map Char.toLower = urlencodedType.toList := by
      rw [← h, Http.lowered, String.toList_ofList]
    exact hletters ▸ htype.map Char.toLower
  simp [multipartType, urlencodedType] at hlower

theorem isPlain_urlencodedType : Http.IsPlain urlencodedType.toList := by
  simp [Http.IsPlain, urlencodedType]

theorem isBlank_of_mem_urlencodedType : ∀ c ∈ urlencodedType.toList, Text.isBlank c = false := by
  simp [urlencodedType, Text.isBlank, Text.inRanges, Text.blankRanges]

/-- **A form is read if its media type is in lower case**, and is lost otherwise. -/
theorem bodyFields_writtenAs (h : Http.lowered media = urlencodedType) :
    (p.writtenAs media).bodyFields
      = if media = urlencodedType then checkCount (fieldsOfBytes p.request.body) else .ok [] := by
  have hmethod : (p.writtenAs media).method = "POST" := p.posted
  have hposts : (p.writtenAs media).postsForm = decide (media = urlencodedType) := by
    rw [Request.postsForm, hmethod, contentType_writtenAs, startsWith_multipartType h,
      Bool.or_false, beq_self_eq_true, Bool.true_and, Bool.eq_iff_iff, decide_eq_true_iff]
    exact startsWith_urlencodedType_iff h p.parameters
  by_cases hlower : media = urlencodedType
  · have hmain : (Http.parameters (p.writtenAs media).contentType).1 = urlencodedType := by
      rw [contentType_writtenAs, hlower]
      exact Http.main_parameters p.hasParameters isPlain_urlencodedType
        isBlank_of_mem_urlencodedType (by decide)
    have hkind : urlencodedType ≠ multipartType := by decide
    have hbody : (p.writtenAs media).body = p.request.body := rfl
    have hposted : (p.writtenAs media).postsForm = true := hposts.trans (decide_eq_true hlower)
    rw [if_pos hlower]
    simp [Request.bodyFields, hposted, hmain, hkind, hbody]
  · have hlost : (p.writtenAs media).postsForm = false := hposts.trans (decide_eq_false hlower)
    rw [if_neg hlower]
    simp [Request.bodyFields, hlost]

/-- What the callback sees of a form. -/
theorem exchange_writtenAs (h : Http.lowered media = urlencodedType) :
    (p.writtenAs media).exchange
      = (if media = urlencodedType then checkCount (fieldsOfBytes p.request.body)
          else .ok []).map fun fields =>
        { parameters := Parameters.ofFields (fieldsOfBytes p.request.query ++ fields)
          cookies := Cookie.ofHeaders (Http.headerValues (p.before ++ p.after) "cookie") } := by
  have hquery : (p.writtenAs media).query = p.request.query := rfl
  rw [Request.exchange, bodyFields_writtenAs p h, hquery,
    headerValues_writtenAs p media (by decide)]

/-- A form that is read is not the same as one that is lost, unless there is nothing in it. -/
theorem exchange_lower_eq_iff (h : Http.lowered media = urlencodedType)
    (hother : media ≠ urlencodedType) :
    (p.writtenAs urlencodedType).exchange = (p.writtenAs media).exchange ↔
      fieldsOfBytes p.request.body = [] := by
  rw [exchange_writtenAs p (by decide), exchange_writtenAs p h, if_pos rfl, if_neg hother,
    checkCount]
  split
  · next hmany =>
    refine iff_of_false (by simp [Except.map]) fun hempty => ?_
    rw [hempty] at hmany
    exact absurd hmany (by decide)
  · simp only [Except.map, List.append_nil, Except.ok.injEq, Exchange.mk.injEq, and_true]
    constructor
    · intro heq
      by_contra hne
      exact Parameters.ofFields_append_ne hne heq
    · intro hempty
      rw [hempty, List.append_nil]

theorem exchange_writtenAs_eq_iff (h : Http.lowered media = urlencodedType)
    (h' : Http.lowered media' = urlencodedType) :
    (p.writtenAs media).exchange = (p.writtenAs media').exchange ↔
      (media = urlencodedType ↔ media' = urlencodedType)
        ∨ fieldsOfBytes p.request.body = [] := by
  by_cases hlower : media = urlencodedType
  · by_cases hlower' : media' = urlencodedType
    · exact iff_of_true (by rw [hlower, hlower']) (Or.inl (iff_of_true hlower hlower'))
    · rw [hlower, exchange_lower_eq_iff p h' hlower']
      simp [hlower']
  · by_cases hlower' : media' = urlencodedType
    · rw [hlower', eq_comm, exchange_lower_eq_iff p h hlower]
      simp [hlower]
    · refine iff_of_true ?_ (Or.inl (iff_of_false hlower hlower'))
      rw [exchange_writtenAs p h, exchange_writtenAs p h', if_neg hlower, if_neg hlower']

end Posting

/-! ## Answers -/

/-- The answer to a request, whatever way it goes, and the site after it. -/
def Endpoint.handle (ep : Endpoint) (client : Client) (around : Token.Surroundings) (site : Site)
    (r : Request) : Endpoint.Answered :=
  match ep.route r with
  | .callback e => ep.answer client around site e
  | .reply response => ⟨.ok response, site, []⟩
  | .fault cause => ⟨.error cause, site, []⟩

namespace Posting

open Request (urlencodedType fieldsOfBytes)

/-- The way a request goes depends on the letters of the media type only through the form. -/
theorem route_writtenAs_congr (p : Posting) {media media' : String} (ep : Endpoint)
    (h : (p.writtenAs media).exchange = (p.writtenAs media').exchange) :
    ep.route (p.writtenAs media) = ep.route (p.writtenAs media') := by
  have horigin : Endpoint.originOf (p.writtenAs media)
      = Endpoint.originOf (p.writtenAs media') := by
    rw [Endpoint.originOf, Endpoint.originOf, headerValues_writtenAs p media (by decide),
      headerValues_writtenAs p media' (by decide)]
    rfl
  have hredirection (path : String) : Endpoint.redirection (p.writtenAs media) path
      = Endpoint.redirection (p.writtenAs media') path := by
    rw [Endpoint.redirection, Endpoint.redirection, horigin]
    rfl
  rw [Endpoint.route, Endpoint.route, h, hredirection]
  rfl

/-- **The letters of the media type make no difference exactly if both requests write it in lower
    case, or neither does, or there is nothing in the form.** Then the callback sees the same
    parameters and cookies, and gives the same answer at the same site; otherwise one of the two
    forms is lost. -/
theorem letters_make_no_difference_iff (p : Posting) {media media' : String}
    (h : Http.lowered media = urlencodedType) (h' : Http.lowered media' = urlencodedType) :
    ((p.writtenAs media).exchange = (p.writtenAs media').exchange
        ∧ ∀ (ep : Endpoint) client around site,
          ep.handle client around site (p.writtenAs media)
            = ep.handle client around site (p.writtenAs media'))
      ↔ ((media = urlencodedType ↔ media' = urlencodedType)
        ∨ fieldsOfBytes p.request.body = []) := by
  rw [← exchange_writtenAs_eq_iff p h h']
  constructor
  · intro hsame
    exact hsame.1
  · intro hexchange
    refine ⟨hexchange, fun ep client around site => ?_⟩
    rw [Endpoint.handle, Endpoint.handle, route_writtenAs_congr p ep hexchange]

end Posting

/-! ## A logout that is lost -/

namespace Posting

open Callback (quietEndpoint)
open Logout (exampleClient exampleSite quiet)
open Request (urlencodedType)

/-- A logout that the provider posts. -/
def logoutPosting : Posting where
  request := {
    method := "POST"
    scheme := "https"
    server := "rp"
    path := "/callback"
    query := Text.utf8 "logoutendpoint="
    headers := []
    body := Text.utf8 ("logout_token=" ++ emptyToken) }
  before := []
  name := "Content-Type"
  parameters := "; charset=utf-8"
  after := []
  posted := rfl
  isFirst := by simp
  isContentType := by decide
  hasParameters := Or.inr ⟨[], " charset=utf-8".toList, rfl, by simp⟩

/-- The status of the answer to the logout, and the sessions that are live after it. -/
def answeredAs (media : String) : Option Nat × List String :=
  let handled :=
    quietEndpoint.handle exampleClient quiet exampleSite (logoutPosting.writtenAs media)
  (handled.response.toOption.map (·.status), handled.site.sessions.store.sessions.keys)

/-- Two ways to write the type with capital letters are the same. -/
theorem no_difference_capitals :
    Http.lowered "Application/X-WWW-Form-Urlencoded" = urlencodedType
      ∧ Http.lowered "APPLICATION/X-WWW-FORM-URLENCODED" = urlencodedType
      ∧ (logoutPosting.writtenAs "Application/X-WWW-Form-Urlencoded").exchange
        = (logoutPosting.writtenAs "APPLICATION/X-WWW-FORM-URLENCODED").exchange := by
  have hsome : Http.lowered "Application/X-WWW-Form-Urlencoded" = urlencodedType := by decide
  have hall : Http.lowered "APPLICATION/X-WWW-FORM-URLENCODED" = urlencodedType := by decide
  have hneither : "Application/X-WWW-Form-Urlencoded" = urlencodedType ↔
      "APPLICATION/X-WWW-FORM-URLENCODED" = urlencodedType :=
    iff_of_false (by decide) (by decide)
  exact ⟨hsome, hall,
    ((letters_make_no_difference_iff logoutPosting hsome hall).2 (Or.inl hneither)).1⟩

/-- The provider ends a session, unless it writes the type with a capital letter: then it is told
    the same, and the session stays. -/
theorem answered_by_letters :
    Http.lowered "Application/x-www-form-urlencoded" = urlencodedType
      ∧ answeredAs urlencodedType = (some 200, [])
      ∧ answeredAs "Application/x-www-form-urlencoded" = (some 200, ["a"]) :=
  ⟨by decide, by decide +kernel, by decide +kernel⟩

end Posting

end RelyingParty
