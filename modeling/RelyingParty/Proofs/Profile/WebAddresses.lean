import RelyingParty.Profile.Identity
import RelyingParty.Proofs.Callback.Response
import RelyingParty.Proofs.Url.Refusal

set_option autoImplicit false

/-! # Pictures and pages

The picture and the page of a person are told if they are URLs of the web, and nothing is told if
they are anything else. But a text with an authority that is refused is not passed over: asking for
it comes to a fault. `web_address_told_iff` says which texts those are, and with which message. -/

namespace RelyingParty.Profile

variable {p : Profile} {name : String} {v : Value}

/-- A value is text, and a URL of the web. -/
def IsWebAddress (v : Value) : Prop := v.isText = true ∧ IsWebText v.display

/-- The text of a value is refused as a URL. -/
def IsRefused (v : Value) (cause : UrlError) : Prop :=
  v.isText = true ∧ Url.Refused (Url.authorityOf v.display) cause

theorem webUrlOf_eq_error_iff {cause : UrlError} :
    webUrlOf v = .error cause ↔ IsRefused v cause := by
  unfold webUrlOf IsRefused
  split
  · next htext => rw [map_eq_error_iff, Url.split_eq_error_iff, and_iff_right htext]
  · next hother => exact iff_of_false (by simp) fun h => hother h.1

/-- A URL of the web is given as it is, and nothing in place of anything else. -/
theorem of_webUrlOf {given : Option Value} (h : webUrlOf v = .ok given) :
    (IsWebAddress v → given = some v) ∧ (¬ IsWebAddress v → given = none) := by
  unfold webUrlOf at h
  split at h
  · next htext =>
    obtain ⟨url, hsplit, hgiven⟩ := map_eq_ok_iff.1 h
    have hweb : IsWebAddress v ↔ url.isWeb = true := by
      rw [IsWebAddress, and_iff_right htext, IsWebText, hsplit]
      simp [AuthenticationResponse.isWeb_iff]
    rw [hweb, ← hgiven]
    exact ⟨fun h => if_pos h, fun h => if_neg h⟩
  · next hother =>
    rw [← Except.ok.inj h]
    exact ⟨fun h => absurd h.1 hother, fun _ => rfl⟩

/-! ## Attributes -/

/-- A property gives the attribute of its name if that is a URL of the web, and null if there is
    none. -/
structure Tells (p : Profile) (name : String) (w : Value) : Prop where
  address : ∀ v, p.attribute? name = some v → IsWebAddress v → w = v
  other : (∀ v, p.attribute? name = some v → ¬ IsWebAddress v) → w = .null

theorem webUrl?_eq_error_iff {cause : UrlError} :
    p.webUrl? name = .error cause ↔ ∃ v, p.attribute? name = some v ∧ IsRefused v cause := by
  rw [webUrl?, webUrlOf_eq_error_iff]
  cases p.attribute? name with
  | none =>
    refine iff_of_false ?_ (by simp)
    intro h
    exact absurd h.1 (by decide)
  | some v => simp

theorem tells_of_webUrl? {given : Option Value} (h : p.webUrl? name = .ok given) :
    p.Tells name (given.getD .null) := by
  obtain ⟨haddress, hother⟩ := of_webUrlOf h
  constructor
  · intro v hv hweb
    rw [hv] at haddress
    rw [haddress hweb]
    rfl
  · intro hnone
    rw [hother]
    · rfl
    · cases hv : p.attribute? name with
      | none =>
        intro hweb
        exact absurd hweb.1 (by decide)
      | some v => exact hnone v hv

/-! ## Properties -/

/-- A property with a web address is read from the attribute of its name. -/
theorem property_of_urlProperties (hkind : p.kind ≠ .user) (hname : name ∈ urlProperties) :
    p.property name = ((p.webUrl? name).map (·.getD .null)).mapError
      fun cause => .badValue cause.message := by
  obtain ⟨hgeneral, htext, hgender, hlocale⟩ : p.generalProperty? name = none
      ∧ textProperties.contains name = false ∧ name ≠ "gender" ∧ name ≠ "locale" := by
    rcases List.mem_cons.1 hname with rfl | hname
    · exact ⟨rfl, by decide, by decide, by decide⟩
    · obtain rfl := List.mem_singleton.1 hname
      exact ⟨rfl, by decide, by decide, by decide⟩
  have hurl : urlProperties.contains name = true := List.contains_iff_mem.2 hname
  have huser : (p.kind == .user) = false := by simpa using hkind
  simp only [property, classProperty?, hgeneral, huser, commonProperty?, htext, hgender, hlocale,
    hurl, Bool.false_eq_true, if_false, if_true]
  cases p.webUrl? name with
  | ok url => rfl
  | error cause => rfl

theorem property_eq_ok_iff (hkind : p.kind ≠ .user) (hname : name ∈ urlProperties) {w : Value} :
    p.property name = .ok w ↔ ∃ given, p.webUrl? name = .ok given ∧ given.getD .null = w := by
  rw [property_of_urlProperties hkind hname, mapError_eq_ok_iff, map_eq_ok_iff]

theorem property_eq_error_iff (hkind : p.kind ≠ .user) (hname : name ∈ urlProperties)
    {fault : Fault} :
    p.property name = .error fault ↔
      ∃ v cause, p.attribute? name = some v ∧ IsRefused v cause
        ∧ fault = .badValue cause.message := by
  rw [property_of_urlProperties hkind hname, mapError_eq_error_iff]
  simp only [map_eq_error_iff, webUrl?_eq_error_iff]
  constructor
  · rintro ⟨cause, ⟨v, hv, hrefused⟩, rfl⟩
    exact ⟨v, cause, hv, hrefused, rfl⟩
  · rintro ⟨v, cause, hv, hrefused, rfl⟩
    exact ⟨cause, ⟨v, hv, hrefused⟩, rfl⟩

/-- **Web addresses are told and all else is not**, exactly unless the attribute is a text that is
    refused as a URL. Then asking for it comes to a fault with the reason. -/
theorem web_address_told_iff (hkind : p.kind ≠ .user) (hname : name ∈ urlProperties) :
    ((∃ w, p.property name = .ok w ∧ p.Tells name w) ↔
        ∀ v, p.attribute? name = some v → ∀ cause, ¬ IsRefused v cause)
      ∧ ∀ fault, p.property name = .error fault ↔
          ∃ v cause, p.attribute? name = some v ∧ IsRefused v cause
            ∧ fault = .badValue cause.message := by
  refine ⟨⟨?_, ?_⟩, fun fault => property_eq_error_iff hkind hname⟩
  · rintro ⟨w, hw, -⟩ v hv cause hrefused
    have hfault := (property_eq_error_iff hkind hname).2 ⟨v, cause, hv, hrefused, rfl⟩
    exact absurd (hw.symm.trans hfault) (by simp)
  · intro haccepted
    cases hurl : p.webUrl? name with
    | ok given =>
      have hw := (property_eq_ok_iff hkind hname).2 ⟨given, hurl, rfl⟩
      exact ⟨given.getD .null, hw, tells_of_webUrl? hurl⟩
    | error cause =>
      obtain ⟨v, hv, hrefused⟩ := webUrl?_eq_error_iff.1 hurl
      exact absurd hrefused (haccepted v hv cause)

/-- A person with a picture under some text. -/
def withPicture (s : String) : Profile :=
  { kind := .common, attributes := [(.text "picture_url", .text s)] }

theorem attribute?_withPicture (s : String) :
    (withPicture s).attribute? "picture_url" = some (.text s) := by
  cbv

theorem told_withPicture :
    (withPicture "http://a/b").kind ≠ .user ∧ "picture_url" ∈ urlProperties
      ∧ (withPicture "http://a/b").property "picture_url" = .ok (.text "http://a/b") := by
  have hkind : (withPicture "http://a/b").kind ≠ .user := by decide
  have hname : "picture_url" ∈ urlProperties := by decide
  have hpicture := attribute?_withPicture "http://a/b"
  have hsplit : Url.split "http://a/b" = .ok ⟨"http", "a", "/b", "", ""⟩ := rfl
  have hweb : IsWebAddress (.text "http://a/b") := ⟨rfl, _, hsplit, Or.inl rfl, by decide⟩
  have haccepted : ∀ v, (withPicture "http://a/b").attribute? "picture_url" = some v →
      ∀ cause, ¬ IsRefused v cause := by
    intro v hv cause hrefused
    obtain rfl := Option.some.inj (hv.symm.trans hpicture)
    exact absurd (hsplit.symm.trans (Url.split_eq_error_iff.2 hrefused.2)) (by simp)
  obtain ⟨w, hw, htells⟩ := (web_address_told_iff hkind hname).1.2 haccepted
  rw [htells.address _ hpicture hweb] at hw
  exact ⟨hkind, hname, hw⟩

/-- Asking for a picture in whose address a bracket is left open comes to a fault. -/
theorem fault_withPicture :
    (withPicture "http://[").property "picture_url" = .error (.badValue "Invalid IPv6 URL") := by
  have hrefused : IsRefused (.text "http://[") .brackets := ⟨rfl, .unpaired (by decide)⟩
  have hname : "picture_url" ∈ urlProperties := by decide
  exact (property_eq_error_iff (by decide) hname).2
    ⟨_, .brackets, attribute?_withPicture "http://[", hrefused, rfl⟩

end RelyingParty.Profile
