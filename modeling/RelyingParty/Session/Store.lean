import RelyingParty.Http.Exchange
import RelyingParty.Value.Basic

set_option autoImplicit false

/-! # Sessions

A session holds values under keys. A request belongs to the session its cookie names, if that
session is live. A cookie that names no live session never becomes one: new sessions get identifiers
from a supply, and the browser is told in a cookie.

Operations that may start a session return the exchange too, because they may set that cookie. -/

namespace RelyingParty

/-- Identifiers for new sessions, of which some are used up. -/
structure IdSupply where
  ids : Nat → String
  used : Nat

/-- The next identifier, and the supply without it. -/
def IdSupply.take (s : IdSupply) : String × IdSupply :=
  (s.ids s.used, { s with used := s.used + 1 })

/-- The values of a session. -/
abbrev SessionData := Entries String Value

/-- The live sessions. -/
structure SessionStore where
  /-- The cookie that names a session. -/
  cookieName : String
  sessions : Entries String SessionData
  supply : IdSupply

namespace SessionStore

/-- A store without sessions. -/
def empty (cookieName : String) (supply : IdSupply) : SessionStore := ⟨cookieName, [], supply⟩

/-- Whether a session is live. -/
def contains (s : SessionStore) (id : String) : Bool := s.sessions.contains id

/-- The session a request belongs to. -/
def resolve (s : SessionStore) (e : Exchange) : Option String :=
  match e.cookie? s.cookieName with
  | some id => if id ≠ "" ∧ s.contains id then some id else none
  | none => none

/-- The cookie that announces a session. -/
def announcement (s : SessionStore) (id : String) : String :=
  s.cookieName ++ "=" ++ id ++ "; Path=/; HttpOnly; SameSite=Lax"

/-- The session a request belongs to; a new one is started if there is none. -/
def resolveOrStart (s : SessionStore) (e : Exchange) : String × SessionStore × Exchange :=
  match s.resolve e with
  | some id => (id, s, e)
  | none =>
    let (id, supply) := s.supply.take
    (id, { s with sessions := s.sessions.insert id [], supply },
      e.setHeader "Set-Cookie" (s.announcement id))

/-- The value under a key of the request's session. -/
def get? (s : SessionStore) (e : Exchange) (key : String) : Option Value :=
  (s.resolve e).bind fun id => ((s.sessions.get? id).getD []).get? key

/-- Put a value under a key of the request's session, which is started if there is none. -/
def set (s : SessionStore) (e : Exchange) (key : String) (value : Value) :
    SessionStore × Exchange :=
  let (id, s, e) := s.resolveOrStart e
  let data := ((s.sessions.get? id).getD []).insert key value
  ({ s with sessions := s.sessions.insert id data }, e)

/-- End a session. -/
def destroy (s : SessionStore) (id : String) : SessionStore :=
  { s with sessions := s.sessions.erase id }

/-- Start a session outside of a request, under a given identifier or a new one. A session that is
    live already stays as it is. -/
def create (s : SessionStore) (id : Option String) : String × SessionStore :=
  let given := id.getD ""
  let (id, supply) := if given = "" then s.supply.take else (given, s.supply)
  if s.contains id then (id, { s with supply })
  else (id, { s with sessions := s.sessions.insert id [], supply })

/-! ## What the operations keep -/

@[simp] theorem resolve_setHeader (s : SessionStore) (e : Exchange) (name value : String) :
    s.resolve (e.setHeader name value) = s.resolve e := rfl

theorem contains_of_resolve {s : SessionStore} {e : Exchange} {id : String}
    (h : s.resolve e = some id) : s.contains id = true := by
  unfold resolve at h
  split at h
  · split at h
    · rename_i hc
      simp only [Option.some.injEq] at h
      exact h ▸ hc.2
    · exact absurd h (by simp)
  · exact absurd h (by simp)

/-- A request that has a session does not start one. -/
theorem resolveOrStart_of_resolve {s : SessionStore} {e : Exchange} {id : String}
    (h : s.resolve e = some id) : s.resolveOrStart e = (id, s, e) := by
  unfold resolveOrStart
  rw [h]

end SessionStore

end RelyingParty
