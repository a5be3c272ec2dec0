import RelyingParty.Proofs.Callback.Configured
import RelyingParty.Proofs.Value.Equality

set_option autoImplicit false

/-! # Callback URLs that carry the client's name

A client may have to be told from others by its callback URL, and then its name is a field of the
query. The name is added once and nothing else changes: the other parts of the URL stay, and so do
the fields that are there, in their order. The URL that comes out carries the name already, so that
it may be registered as it is: `callbackUrl_carries_name`. -/

namespace RelyingParty

/-! ## Queries -/

namespace Query

/-- A field that is given by its bytes is a field like the others. -/
theorem encodeWith_utf8 (fields : List (String × String)) (name value : String) :
    encodeWith fields (Text.utf8 name) (Text.utf8 value) = encode (fields ++ [(name, value)]) := by
  rw [encodeWith, encode, List.map_append, List.map_singleton]
  rfl

/-- A query has a field of a name. -/
def Names (query name : String) : Prop := ∃ value, (name, value) ∈ decode query

theorem any_same_iff {query name : String} :
    (decode query).any (fun field => (Value.text name).same (.text field.1)) = true
      ↔ Names query name := by
  rw [List.any_eq_true]
  constructor
  · rintro ⟨⟨found, value⟩, hmem, hsame⟩
    obtain rfl : found = name := Value.text.inj (Value.same_text_iff.1 hsame)
    exact ⟨value, hmem⟩
  · rintro ⟨value, hmem⟩
    exact ⟨(name, value), hmem, Value.same_text_iff.2 rfl⟩

end Query

/-! ## URLs -/

namespace Url

variable {s : String} {u : Url}

/-- A field is not added to a URL that has one of its name. -/
theorem withFieldText_eq_self (h : split s = .ok u) {name : String}
    (hnames : Query.Names u.query name) (value : Value) :
    withFieldText s (.text name) value = .ok s := by
  simp only [withFieldText, h, ok_bind, pure_eq_ok, Query.any_same_iff.2 hnames, if_true]

/-- A field that is added comes after all others, and all parts but the query stay. -/
theorem exists_withFieldText (h : split s = .ok u) (hweb : u.isWeb = true) {name : String}
    (hnew : ¬ Query.Names u.query name) (value : String) :
    ∃ url query, withFieldText s (.text name) (.text value) = .ok url
      ∧ split url = .ok { u with query }
      ∧ Query.decode query = Query.decode u.query ++ [(name, value)] := by
  have hcheck : (Query.decode u.query).any (fun field => (Value.text name).same (.text field.1))
      = false := Bool.eq_false_iff.2 fun hany => hnew (Query.any_same_iff.1 hany)
  let query := Query.encodeWith (Query.decode u.query) (Text.utf8 name) (Text.utf8 value)
  refine ⟨{ u with query }.toText, query, ?_, ?_, ?_⟩
  · simp only [withFieldText, h, ok_bind, pure_eq_ok, hcheck, if_neg Bool.false_ne_true]
    rfl
  · refine split_toText ((apart_of_split h hweb).withQuery fun c hc => ?_)
    exact Query.isKept_of_mem_encodeWith hc
  · show Query.decode (Query.encodeWith _ _ _) = _
    rw [Query.encodeWith_utf8, Query.decode_encode]

end Url

/-! ## Clients -/

namespace Client

variable {client : Client} {s name value : String} {u : Url}

/-- The client with another callback URL. -/
def withCallbackUrl (client : Client) (url : String) : Client :=
  { client with settings := { client.settings with callbackUrl := .text url } }

/-- A client that has to carry its name adds it to a callback URL of the web. -/
theorem callbackUrl_eq_withFieldText (hs : client.settings.callbackUrl = .text s)
    (h : Url.split s = .ok u) (hweb : u.isWeb = true)
    (hswitch : client.settings.callbackUrlClientParameter = true) :
    client.callbackUrl
      = ((Url.withFieldText s client.settings.clientNameParameter client.name).map .text).mapError
          .refused := by
  have htruthy : (Value.text s).truthy = true :=
    truthy_of_isWebText ⟨u, h, AuthenticationResponse.isWeb_iff.1 hweb⟩
  simp only [callbackUrl, hs, htruthy, hswitch, Bool.not_true, Bool.false_eq_true, if_false,
    Url.withField]

/-- **The callback URL carries the client's name, and nothing else is added.** A URL that has a
    field of that name stays as it is. To any other one the name is added as the last field, and
    all parts of the URL but the query stay. The URL that comes out stays as it is from then on. -/
theorem callbackUrl_carries_name (hs : client.settings.callbackUrl = .text s)
    (h : Url.split s = .ok u) (hweb : u.isWeb = true)
    (hswitch : client.settings.callbackUrlClientParameter = true)
    (hname : client.settings.clientNameParameter = .text name)
    (hvalue : client.settings.clientName = .text value) :
    ∃ url, client.callbackUrl = .ok (.text url)
      ∧ (Query.Names u.query name → url = s)
      ∧ (¬ Query.Names u.query name → ∃ query, Url.split url = .ok { u with query }
          ∧ Query.decode query = Query.decode u.query ++ [(name, value)])
      ∧ (client.withCallbackUrl url).callbackUrl = .ok (.text url) := by
  have hnamed : client.callbackUrl
      = ((Url.withFieldText s (.text name) (.text value)).map .text).mapError .refused := by
    rw [callbackUrl_eq_withFieldText hs h hweb hswitch, hname, Client.name, hvalue]
  -- a URL that has the name stays, whether it was registered so or the name was added to it
  have hstays {url query : String} (hsplit : Url.split url = .ok { u with query })
      (hnames : Query.Names query name) :
      (client.withCallbackUrl url).callbackUrl = .ok (.text url) := by
    have hurl : (client.withCallbackUrl url).settings.callbackUrl = .text url := rfl
    rw [callbackUrl_eq_withFieldText hurl hsplit hweb hswitch]
    show ((Url.withFieldText url client.settings.clientNameParameter _).map Value.text).mapError _
      = _
    rw [hname, Url.withFieldText_eq_self hsplit hnames]
    rfl
  by_cases hnames : Query.Names u.query name
  · refine ⟨s, ?_, fun _ => rfl, fun hnew => absurd hnames hnew, hstays h hnames⟩
    rw [hnamed, Url.withFieldText_eq_self h hnames]
    rfl
  · obtain ⟨url, query, hadded, hsplit, hfields⟩ := Url.exists_withFieldText h hweb hnames value
    refine ⟨url, ?_, fun hhas => absurd hhas hnames, fun _ => ⟨query, hsplit, hfields⟩, ?_⟩
    · rw [hnamed, hadded]
      rfl
    · exact hstays hsplit ⟨value, by simp [hfields]⟩

/-- A client with a callback URL whose query holds a blank field, a sign that is no escape and bytes
    that are no text, and whose fragment looks like a query. -/
def crowdedClient : Client where
  settings := {
    clientName := .text "R&D #1"
    clientNameParameter := .text "für"
    callbackUrl := .text "HTTPS://rp:8443/cb;v=1?=&a+b=%zz&a+b=%ff#x?für=#y"
    callbackUrlClientParameter := true }
  metadata := { issuer := "https://idp" }

/-- Its name comes after the three fields. -/
theorem carries_name_crowdedClient :
    ∃ url query, crowdedClient.callbackUrl = .ok (.text url)
      ∧ Url.split url = .ok ⟨"https", "rp:8443", "/cb;v=1", query, "x?für=#y"⟩
      ∧ Query.decode query = [("", ""), ("a b", "%zz"), ("a b", "\uFFFD"), ("für", "R&D #1")]
      ∧ (crowdedClient.withCallbackUrl url).callbackUrl = .ok (.text url) := by
  have hsplit : Url.split "HTTPS://rp:8443/cb;v=1?=&a+b=%zz&a+b=%ff#x?für=#y"
      = .ok ⟨"https", "rp:8443", "/cb;v=1", "=&a+b=%zz&a+b=%ff", "x?für=#y"⟩ := by cbv
  have hfields : Query.decode "=&a+b=%zz&a+b=%ff"
      = [("", ""), ("a b", "%zz"), ("a b", "\uFFFD")] := by cbv
  have hcallback : crowdedClient.settings.callbackUrl
      = .text "HTTPS://rp:8443/cb;v=1?=&a+b=%zz&a+b=%ff#x?für=#y" := rfl
  have hnew : ¬ Query.Names "=&a+b=%zz&a+b=%ff" "für" := by
    rintro ⟨value, hmem⟩
    simp [hfields] at hmem
  obtain ⟨url, hurl, -, hadded, hagain⟩ :=
    callbackUrl_carries_name hcallback hsplit rfl rfl rfl rfl
  obtain ⟨query, hquery, hdecoded⟩ := hadded hnew
  rw [hfields] at hdecoded
  exact ⟨url, query, hurl, hquery, hdecoded, hagain⟩

end Client

end RelyingParty
