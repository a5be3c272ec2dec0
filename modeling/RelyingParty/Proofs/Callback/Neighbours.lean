import RelyingParty.Proofs.Callback.Effects
import RelyingParty.Proofs.Session.Writes

set_option autoImplicit false

/-! # Clients that share sessions

Clients may keep their states and nonces in the same sessions. Whatever they are called, a session
attribute belongs to one client and to one secret: `Client.sessionAttribute_eq_iff`. What is set
under the attributes of others leaves what a request finds under one (`keeps_afterAll`), and nothing
else that sessions hold shows in the result of a request (`extract_withStore`). So no client sees
what others have set: `clients_keep_apart`. -/

namespace RelyingParty

/-! ## Session attributes -/

namespace Client

/-- What a client keeps in a session until its provider answers. -/
inductive Secret where
  | state
  | nonce
  deriving DecidableEq

/-- The session attribute of a secret. -/
def sessionAttribute (c : Client) : Secret → String
  | .state => c.stateAttribute
  | .nonce => c.nonceAttribute

/-- The endings of the two attributes differ in their last letter but one. -/
theorem stateAttribute_ne_nonceAttribute (c c' : Client) :
    c.stateAttribute ≠ c'.nonceAttribute := by
  intro h
  have hletter := congrArg (fun s => s.toList.reverse[1]?) h
  simp [stateAttribute, nonceAttribute] at hletter

theorem sessionAttribute_eq_iff {c c' : Client} {k k' : Secret} :
    c.sessionAttribute k = c'.sessionAttribute k' ↔ c.name.display = c'.name.display ∧ k = k' := by
  cases k with
  | state =>
    cases k' with
    | state => simp [sessionAttribute, stateAttribute]
    | nonce => simpa [sessionAttribute] using stateAttribute_ne_nonceAttribute c c'
  | nonce =>
    cases k' with
    | state => simpa [sessionAttribute] using (stateAttribute_ne_nonceAttribute c' c).symm
    | nonce => simp [sessionAttribute, nonceAttribute]

/-- A value that a client sets for a request. -/
structure Deposit where
  client : Client
  secret : Secret
  request : Exchange
  value : Value

/-- What a deposit does to a store of sessions. -/
def Deposit.operation (d : Deposit) : SessionStore.Operation :=
  .set d.request (d.client.sessionAttribute d.secret) d.value

end Client

/-! ## Values under other keys -/

namespace SessionStore

variable {s t u : SessionStore} {e : Exchange} {key k : String}

/-- An identifier that is still in the supply names no session. -/
def HasNewIds (s : SessionStore) : Prop :=
  ∀ n, s.supply.used ≤ n → s.contains (s.supply.ids n) = false

/-- What a request finds is under the key in the session its cookie names. -/
theorem get?_eq_some_iff_of_cookie {v : Value} :
    s.get? e key = some v ↔
      ∃ id, e.cookie? s.cookieName = some id ∧ id ≠ "" ∧ s.valueAt id key = some v := by
  rw [get?_eq_some_iff_valueAt]
  constructor
  · rintro ⟨id, hresolve, hheld⟩
    obtain ⟨hcookie, hne, -⟩ := resolve_eq_some_iff.1 hresolve
    exact ⟨id, hcookie, hne, hheld⟩
  · rintro ⟨id, hcookie, hne, hheld⟩
    refine ⟨id, resolve_eq_some_iff.2 ⟨hcookie, hne, ?_⟩, hheld⟩
    -- a session that is over holds nothing
    by_contra hover
    rw [valueAt_of_over (Bool.eq_false_iff.2 hover)] at hheld
    exact absurd hheld (by simp)

/-- Nothing has changed under a key, and nothing is there in a session that is still to be
    started. -/
structure Keeps (key : String) (s t : SessionStore) : Prop where
  cookieName : t.cookieName = s.cookieName
  valueAt : ∀ id, t.valueAt id key = s.valueAt id key
  new : ∀ n, t.supply.used ≤ n → t.valueAt (t.supply.ids n) key = none

theorem HasNewIds.keeps (h : s.HasNewIds) : Keeps key s s :=
  ⟨rfl, fun _ => rfl, fun n hn => valueAt_of_over (h n hn)⟩

theorem Keeps.trans (h : Keeps key s t) (h' : Keeps key t u) : Keeps key s u :=
  ⟨h'.cookieName.trans h.cookieName, fun id => (h'.valueAt id).trans (h.valueAt id), h'.new⟩

/-- A request finds what is under the key, as before. -/
theorem Keeps.get? (h : Keeps key s t) (e : Exchange) : t.get? e key = s.get? e key := by
  refine Option.ext fun v => ?_
  rw [get?_eq_some_iff_of_cookie, get?_eq_some_iff_of_cookie, h.cookieName]
  simp only [h.valueAt]

/-- A value that is set under another key leaves what is under this one. A session that is started
    for it held nothing before. -/
theorem Keeps.set (h : Keeps key s t) (hne : k ≠ key) (e : Exchange) (v : Value) :
    Keeps key s (t.set e k v).1 := by
  refine h.trans ?_
  cases hresolve : t.resolve e with
  | some id =>
    rw [set_of_resolve hresolve]
    have hheld : ∀ other, (t.write id k v).valueAt other key = t.valueAt other key :=
      fun other => valueAt_write.trans (if_neg fun heq => hne heq.2)
    exact ⟨rfl, hheld, fun n hn => (hheld _).trans (h.new n hn)⟩
  | none =>
    rw [set_eq_of_none hresolve]
    have hheld : ∀ other, ({ t.put t.supply.take.1 [] with supply := t.supply.take.2 }.write
        t.supply.take.1 k v).valueAt other key = t.valueAt other key := by
      intro other
      rw [valueAt_write, if_neg fun heq => hne heq.2]
      refine valueAt_put.trans ?_
      split
      · next heq =>
        rw [← heq]
        exact (h.new t.supply.used (Nat.le_refl _)).symm
      · rfl
    exact ⟨rfl, hheld, fun n hn => (hheld _).trans (h.new n (Nat.le_of_succ_le hn))⟩

/-- Any number of values may be set under other keys. -/
theorem keeps_afterAll (h : s.HasNewIds) {deposits : List Client.Deposit}
    (hothers : ∀ d ∈ deposits, d.client.sessionAttribute d.secret ≠ key) :
    Keeps key s (s.afterAll (deposits.map Client.Deposit.operation)) := by
  induction deposits using List.reverseRecOn with
  | nil => exact h.keeps
  | append_singleton earlier d ih =>
    have hd : d.client.sessionAttribute d.secret ≠ key :=
      hothers d (List.mem_append_right _ (List.mem_singleton_self d))
    have hearlier := ih fun x hx => hothers x (List.mem_append_left _ hx)
    rw [List.map_append, afterAll, List.foldl_append]
    exact hearlier.set hd d.request d.value

end SessionStore

/-! ## What shows of the sessions -/

/-- A site with another store of sessions. -/
def Site.withStore (site : Site) (t : SessionStore) : Site :=
  { site with sessions := { site.sessions with store := t } }

namespace Logout

variable {client : Client} {around : Token.Surroundings} {e : Exchange} {v : Value}

/-- Whether a session can be ended does not depend on the sessions there are. -/
theorem Sessions.logoutBack_withStore (s : Sessions) (t : SessionStore) (v : Value) :
    ({ s with store := t }.logoutBack v).map (fun _ => ()) = (s.logoutBack v).map fun _ => () := by
  unfold logoutBack
  cases s.handler with
  | recording front back => rfl
  | indexed place =>
    dsimp only
    unfold SessionIndex.logoutBack
    split
    · cases (s.indexes.read place).nameOf v with
      | error cause => rfl
      | ok name => rfl
    · rfl

/-- A decision about a token does not look at the sessions. -/
theorem decide_withStore (site : Site) (t : SessionStore) (token : String) :
    decide client around (site.withStore t) token
      = { decide client around site token with
          site := (decide client around site token).site.withStore t } := by
  unfold Logout.decide
  split
  · rfl
  · split
    · rfl
    · split
      · rfl
      · rfl

/-- What becomes of a decision is the same whatever sessions there are. -/
theorem reply_withStore (d : Decision) (t : SessionStore) :
    ({ d with site := d.site.withStore t }.reply).response = d.reply.response
      ∧ ({ d with site := d.site.withStore t }.reply).notices = d.reply.notices := by
  obtain ⟨session, site, notices⟩ := d
  cases session with
  | error failure =>
    cases failure with
    | refused error => exact ⟨rfl, rfl⟩
    | fault cause => exact ⟨rfl, rfl⟩
  | ok sid =>
    have hends := site.sessions.logoutBack_withStore t sid
    have hsame : (site.withStore t).sessions = { site.sessions with store := t } := rfl
    have hnotices : (site.withStore t).sessions.noticesOfBack sid
      = site.sessions.noticesOfBack sid := rfl
    simp only [Decision.reply, hnotices]
    rw [hsame]
    cases hback : site.sessions.logoutBack sid with
    | error cause =>
      rw [hback] at hends
      rw [map_eq_error_iff.1 hends]
      exact ⟨rfl, rfl⟩
    | ok sessions =>
      rw [hback] at hends
      obtain ⟨sessions', hback', -⟩ := map_eq_ok_iff.1 hends
      rw [hback']
      exact ⟨rfl, rfl⟩

/-- A front-channel logout that succeeds does so whatever sessions there are. -/
theorem answerFront_withStore (client : Client) (site : Site) (t : SessionStore) (e : Exchange) :
    (answerFront client (site.withStore t) e).map (fun _ => ())
      = (answerFront client site e).map fun _ => () := by
  unfold answerFront
  cases e.parameterNamed? client.settings.sessionIdParameter with
  | error cause => rfl
  | ok sid =>
    obtain ⟨sessions, hfront⟩ := site.sessions.exists_logoutFront e sid
    obtain ⟨sessions', hfront'⟩ := (site.withStore t).sessions.exists_logoutFront e sid
    simp only [ok_bind, hfront, hfront']
    rfl

/-- A logout request is answered in the same way whatever sessions there are. -/
theorem answer_withStore (client : Client) (around : Token.Surroundings) (site : Site)
    (t : SessionStore) (e : Exchange) :
    (answer client around (site.withStore t) e).response = (answer client around site e).response
      ∧ (answer client around (site.withStore t) e).notices
        = (answer client around site e).notices := by
  unfold answer
  cases e.parameter? tokenParameter with
  | some token =>
    dsimp only
    rw [decide_withStore]
    exact reply_withStore _ t
  | none =>
    have hends := answerFront_withStore client site t e
    dsimp only
    cases hfront : answerFront client site e with
    | error cause =>
      rw [hfront] at hends
      rw [map_eq_error_iff.1 hends]
      exact ⟨rfl, rfl⟩
    | ok site' =>
      rw [hfront] at hends
      obtain ⟨site'', hfront', -⟩ := map_eq_ok_iff.1 hends
      rw [hfront']
      exact ⟨rfl, rfl⟩

end Logout

namespace Callback

open Logout (quiet)

variable {client : Client} {around : Token.Surroundings} {site : Site} {e : Exchange}

/-- What becomes of a request depends on the sessions only by the state that the request finds. -/
theorem extract_withStore {t : SessionStore}
    (h : t.get? e client.stateAttribute = site.sessions.store.get? e client.stateAttribute) :
    (extract client around (site.withStore t) e).result = (extract client around site e).result
      ∧ (extract client around (site.withStore t) e).notices
        = (extract client around site e).notices := by
  cases hmarker : e.parameterNamed? client.settings.logoutEndpointParameter with
  | error cause => simp only [extract, hmarker, and_self]
  | ok marker =>
    cases marker with
    | none =>
      have hjudge : judge client (site.withStore t).sessions.store e
        = judge client site.sessions.store e := judge_congr h
      rw [extract_of_login hmarker, extract_of_login hmarker, hjudge]
      exact ⟨rfl, rfl⟩
    | some marker =>
      obtain ⟨hresponse, hnotices⟩ := Logout.answer_withStore client around site t e
      simp only [extract, hmarker, hresponse, hnotices, and_self]

/-! ## Clients apart -/

/-- **Clients keep apart.** A session attribute of a client with a name that is text is that of
    another such client only if they have the same name, and the attributes are for the same secret.
    Whatever clients of other names set, for requests with a session or without one, a request to
    this client has the same result and is noted in the same way. -/
theorem clients_keep_apart {client : Client} {name : String} (hname : client.name = .text name)
    {site : Site} (hnew : site.sessions.store.HasNewIds) :
    (∀ (other : Client) otherName, other.name = .text otherName → ∀ k k',
        client.sessionAttribute k = other.sessionAttribute k' ↔ name = otherName ∧ k = k')
      ∧ ∀ deposits : List Client.Deposit,
          (∀ d ∈ deposits, ∃ other, d.client.name = .text other ∧ other ≠ name) →
          ∀ around e headers,
            let store := site.sessions.store.afterAll (deposits.map Client.Deposit.operation)
            let request : Exchange := { e with responseHeaders := headers }
            (extract client around (site.withStore store) request).result
                = (extract client around site e).result
              ∧ (extract client around (site.withStore store) request).notices
                = (extract client around site e).notices := by
  have hapart : ∀ (other : Client) otherName, other.name = .text otherName → ∀ k k',
      client.sessionAttribute k = other.sessionAttribute k' ↔ name = otherName ∧ k = k' := by
    intro other otherName hother k k'
    rw [Client.sessionAttribute_eq_iff, hname, hother]
    rfl
  refine ⟨hapart, ?_⟩
  intro deposits hothers around e headers store request
  have hkeys : ∀ d ∈ deposits, d.client.sessionAttribute d.secret ≠ client.stateAttribute := by
    intro d hd hkey
    obtain ⟨other, hother, hne⟩ := hothers d hd
    exact hne ((hapart d.client other hother .state d.secret).1 hkey.symm).1.symm
  -- headers that are set for the response are not looked at
  have hsame : ∀ site', (extract client around site' request).result
        = (extract client around site' e).result
      ∧ (extract client around site' request).notices
        = (extract client around site' e).notices := fun _ => ⟨rfl, rfl⟩
  rw [(hsame _).1, (hsame _).2]
  exact extract_withStore ((SessionStore.keeps_afterAll hnew hkeys).get? e)

/-- A site with one session, which waits for an answer, and identifiers for two more. -/
def sharedSite : Site :=
  exampleSite.withStore
    { exampleSite.sessions.store with supply := ⟨fun n => ["first", "second"].getD n "", 0⟩ }

/-- A client whose name ends like a session attribute. -/
def neighbour : Client where
  settings := { clientName := .text "OidcClient#oidcStateAttribute" }
  metadata := { issuer := "https://other" }

/-- A neighbour sets a state in the session that waits for an answer, and a nonce in a new one. -/
theorem keep_apart_neighbour :
    exampleClient.name = .text "OidcClient" ∧ sharedSite.sessions.store.HasNewIds
      ∧ exampleClient.stateAttribute ≠ neighbour.stateAttribute
      ∧ (extract exampleClient quiet
          (sharedSite.withStore (sharedSite.sessions.store.afterAll
            [.set exampleAnswer neighbour.stateAttribute (.text "t"),
              .set {} neighbour.nonceAttribute (.text "n")])) exampleAnswer).result
        = (extract exampleClient quiet sharedSite exampleAnswer).result := by
  have hnew : sharedSite.sessions.store.HasNewIds := by
    intro n _
    rcases n with _ | _ | n
    · rfl
    · rfl
    · rfl
  have hothers : ∀ d ∈ ([⟨neighbour, .state, exampleAnswer, .text "t"⟩,
        ⟨neighbour, .nonce, {}, .text "n"⟩] : List Client.Deposit),
      ∃ other, d.client.name = .text other ∧ other ≠ "OidcClient" := by
    intro d hd
    have hclient : d.client = neighbour := by
      rcases List.mem_cons.1 hd with rfl | hd
      · rfl
      · rw [List.mem_singleton.1 hd]
    exact ⟨"OidcClient#oidcStateAttribute", by rw [hclient]; rfl, by decide⟩
  have hname : exampleClient.name = .text "OidcClient" := rfl
  obtain ⟨hattribute, hresult⟩ := clients_keep_apart hname hnew
  refine ⟨hname, hnew, fun h => ?_, (hresult _ hothers quiet exampleAnswer []).1⟩
  exact absurd ((hattribute neighbour _ rfl .state .state).1 h).1 (by decide)

end Callback

end RelyingParty
