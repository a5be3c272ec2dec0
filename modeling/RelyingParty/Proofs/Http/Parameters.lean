import Mathlib.Data.List.Induction
import RelyingParty.Http.Request
import RelyingParty.Callback.Extraction
import RelyingParty.Proofs.Entries
import RelyingParty.Proofs.Url.Query

set_option autoImplicit false

/-! # The way parameters take

Fields are collected one by one, and what comes out is each name where it came first, with all of
its values in order: `ofFields_eq`. Fields that come with a body are collected after those of the
query. It therefore makes no difference for a callback whether a field stands in the query or in
the body: `exchange_of_gets_and_posts`. -/

namespace RelyingParty

/-! ## Collecting fields -/

namespace Parameters

/-- The values that fields have under a name. -/
def valuesOf (name : String) (fields : List (String × String)) : List String :=
  (fields.filter (·.1 == name)).map (·.2)

variable {fields : List (String × String)}

theorem ofFields_append_singleton (fields : List (String × String)) (field : String × String) :
    ofFields (fields ++ [field]) = (ofFields fields).add field.1 field.2 := by
  simp [ofFields]

/-- The names are there in the order in which they came first. -/
theorem keys_ofFields (fields : List (String × String)) :
    Entries.keys (ofFields fields) = (fields.map (·.1)).eraseDups := by
  induction fields using List.reverseRecOn with
  | nil => rfl
  | append_singleton fields field ih =>
    rw [ofFields_append_singleton, add, Entries.keys_insert, ih, List.map_append,
      List.eraseDups_append]
    by_cases hknown : field.1 ∈ fields.map (·.1)
    · have hnew : [field.1].removeAll (fields.map (·.1)) = [] := by
        simpa [List.removeAll] using hknown
      rw [if_pos (List.contains_iff_mem.2 (List.mem_eraseDups.2 hknown)), List.map_singleton, hnew,
        List.eraseDups_nil, List.append_nil]
    · have hnew : [field.1].removeAll (fields.map (·.1)) = [field.1] := by
        simpa [List.removeAll] using hknown
      rw [if_neg fun h => hknown (List.mem_eraseDups.1 (List.contains_iff_mem.1 h)),
        List.map_singleton, hnew]
      rfl

/-- Under a name there are all of its values. -/
theorem getD_ofFields (fields : List (String × String)) (name : String) :
    (Entries.get? (ofFields fields) name).getD [] = valuesOf name fields := by
  induction fields using List.reverseRecOn with
  | nil => rfl
  | append_singleton fields field ih =>
    have hvalues : valuesOf name (fields ++ [field])
        = valuesOf name fields ++ if field.1 == name then [field.2] else [] := by
      cases h : field.1 == name <;> simp [valuesOf, h]
    rw [ofFields_append_singleton, add, Entries.get?_insert, hvalues]
    split
    · next h =>
      rw [Option.getD_some, eq_of_beq h, ih]
    · rw [ih, List.append_nil]

theorem nodup_keys_ofFields (fields : List (String × String)) :
    (Entries.keys (ofFields fields)).Nodup := by
  induction fields using List.reverseRecOn with
  | nil => exact List.nodup_nil
  | append_singleton fields field ih =>
    rw [ofFields_append_singleton]
    exact Entries.nodup_keys_insert ih _ _

/-- **The parameters are the names in the order in which they came first, each with all of its
    values in order.** -/
theorem ofFields_eq (fields : List (String × String)) :
    ofFields fields
      = (fields.map (·.1)).eraseDups.map fun name => (name, valuesOf name fields) := by
  rw [← keys_ofFields]
  exact Entries.eq_map_keys (nodup_keys_ofFields fields) fun name _ => getD_ofFields fields name

end Parameters

/-! ## Fields in the query and in the body -/

namespace Request

/-- A request that is got, with some fields in its query. -/
structure Gets (r : Request) (fields : List (String × String)) : Prop where
  method : r.method = "GET"
  query : r.query = Text.utf8 (Query.encode fields)

/-- A request that posts a form like a query, with some fields in its query and others in its
    body. -/
structure Posts (r : Request) (fields posted : List (String × String)) : Prop where
  method : r.method = "POST"
  query : r.query = Text.utf8 (Query.encode fields)
  body : r.body = Text.utf8 (Query.encode posted)
  start : startsWith r.contentType urlencodedType = true
  kind : (Http.parameters r.contentType).1 = urlencodedType

variable {r : Request} {fields posted : List (String × String)}

theorem fieldsOfBytes_encode (fields : List (String × String)) :
    fieldsOfBytes (Text.utf8 (Query.encode fields)) = fields :=
  Query.decode_ofLatin1_encode fields

theorem Gets.exchange (h : r.Gets fields) :
    r.exchange = .ok {
      parameters := Parameters.ofFields fields
      cookies := Cookie.ofHeaders (Http.headerValues r.headers "cookie") } := by
  have hposts : r.postsForm = false := by
    rw [postsForm, h.method]
    rfl
  have hbody : r.bodyFields = .ok [] := by simp [bodyFields, hposts]
  rw [Request.exchange, hbody, h.query, fieldsOfBytes_encode]
  simp [Except.map]

theorem eq_of_checkCount {read : List (String × String)} (h : checkCount fields = .ok read) :
    read = fields := by
  unfold checkCount at h
  split at h
  · exact absurd h (by simp)
  · exact (Except.ok.inj h).symm

/-- The body of a posted form is read unless it has too many fields. -/
theorem Posts.bodyFields (h : r.Posts fields posted) : r.bodyFields = checkCount posted := by
  have hposts : r.postsForm = true := by
    simp [postsForm, h.method, h.start]
  have hkind : urlencodedType ≠ multipartType := by decide
  rw [Request.bodyFields, h.body, fieldsOfBytes_encode]
  simp [hposts, h.kind, hkind]

/-- **A callback is the same whether all fields come in the query or some of them in the body.**
    Each name has all of its values, those of the query first. The body only has to be read, which
    it is up to a number of fields. -/
theorem exchange_of_gets_and_posts {g p : Request} (hg : g.Gets (fields ++ posted))
    (hp : p.Posts fields posted)
    (hcookies : Http.headerValues p.headers "cookie" = Http.headerValues g.headers "cookie") :
    ∃ e : Exchange,
      (e.parameters = ((fields ++ posted).map (·.1)).eraseDups.map fun name =>
          (name, Parameters.valuesOf name (fields ++ posted)))
        ∧ g.exchange = .ok e
        ∧ (posted.length ≤ Multipart.maxParts → p.bodyFields = .ok posted)
        ∧ (p.bodyFields = .ok posted → p.exchange = .ok e)
        ∧ ∀ e', p.exchange = .ok e' → ∀ client around site,
            Callback.extract client around site e' = Callback.extract client around site e := by
  have hexchange (hread : p.bodyFields = .ok posted) : p.exchange = g.exchange := by
    rw [hg.exchange, Request.exchange, hread, hp.query, fieldsOfBytes_encode, hcookies]
    rfl
  refine ⟨_, Parameters.ofFields_eq _, hg.exchange, fun hcount => ?_,
    fun hread => (hexchange hread).trans hg.exchange, fun e' he' client around site => ?_⟩
  · rw [hp.bodyFields, checkCount, if_neg (Nat.not_lt.2 hcount)]
  · -- a body that is read at all gives the fields it was written from
    obtain ⟨read, hread, -⟩ := map_eq_ok_iff.1 he'
    have hposted : read = posted := eq_of_checkCount (hp.bodyFields.symm.trans hread)
    rw [hexchange (hposted ▸ hread), hg.exchange] at he'
    rw [Except.ok.inj he']

/-- The answer of a provider, as the query of a request. -/
def exampleGet : Request where
  method := "GET"
  scheme := "https"
  server := "rp"
  path := "/callback"
  query := Text.utf8 (Query.encode [("state", "a b"), ("code", "c"), ("state", "ä")])
  headers := [("Cookie", "session=1")]
  body := []

/-- The same answer with a part of it in the body. -/
def examplePost : Request where
  method := "POST"
  scheme := "https"
  server := "rp"
  path := "/callback"
  query := Text.utf8 (Query.encode [("state", "a b")])
  headers := [("Cookie", "session=1"), ("Content-Type", Request.urlencodedType)]
  body := Text.utf8 (Query.encode [("code", "c"), ("state", "ä")])

/-- A repeated name stays repeated. -/
theorem exchange_examplePost :
    ∃ e : Exchange, e.parameters = [("state", ["a b", "ä"]), ("code", ["c"])]
      ∧ exampleGet.exchange = .ok e ∧ examplePost.exchange = .ok e := by
  have hget : exampleGet.Gets ([("state", "a b")] ++ [("code", "c"), ("state", "ä")]) := ⟨rfl, rfl⟩
  have hpost : examplePost.Posts [("state", "a b")] [("code", "c"), ("state", "ä")] :=
    ⟨rfl, rfl, rfl, by decide, by decide⟩
  obtain ⟨e, hparameters, hgot, hread, hposted, -⟩ :=
    exchange_of_gets_and_posts hget hpost (by decide)
  exact ⟨e, hparameters, hgot, hposted (hread (by decide))⟩

end Request

end RelyingParty
