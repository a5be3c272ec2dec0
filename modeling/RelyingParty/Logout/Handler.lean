import RelyingParty.Log
import RelyingParty.Session.Index
import RelyingParty.Session.Store

set_option autoImplicit false

/-! # Ending sessions

After a login the application records which local session belongs to which session of the provider.
A back-channel logout ends the local session recorded for a session of the provider. A front-channel
logout comes through a browser: it forgets the session of the provider and ends the browser's own.

These are operations on an index and a store of sessions. `Handler` says which index a site uses, or
that it only keeps a list of the logouts. -/

namespace RelyingParty

/-! ## On an index -/

namespace SessionIndex

/-- Record the session of a request for a session of the provider; it is started if there is none.
    The session stays even if the index refuses the entry. -/
def record (i : SessionIndex) (s : SessionStore) (e : Exchange) (sid : String) :
    Except Fault SessionIndex × SessionStore × Exchange :=
  if sid = "" then (.ok i, s, e)
  else
    let (id, s, e) := s.resolveOrStart e
    (i.put sid id, s, e)

/-- Forget a session of the provider if one is named. -/
def forget (i : SessionIndex) (sid : Value) : Except Fault SessionIndex :=
  if sid.truthy then (i.nameOf sid).map fun name => (name.map i.remove).getD i else .ok i

/-- Forget a session of the provider if one is named, and end the session of the request. -/
def logoutFront (i : SessionIndex) (s : SessionStore) (e : Exchange) (sid : Value) :
    Except Fault (SessionIndex × SessionStore) :=
  (i.forget sid).map fun i => (i, ((s.resolve e).map s.destroy).getD s)

/-- End the session recorded for a session of the provider, and forget it. -/
def logoutBack (i : SessionIndex) (s : SessionStore) (sid : Value) :
    Except Fault (SessionIndex × SessionStore) :=
  if sid.truthy then
    (i.nameOf sid).map fun name =>
      match name with
      | none => (i, s)
      | some name => (i.remove name, ((i.get? name).map s.destroy).getD s)
  else .ok (i, s)

end SessionIndex

/-! ## Handlers -/

namespace Logout

/-- What a site does at a logout. -/
inductive Handler where
  /-- It ends sessions by the index in a place. -/
  | indexed (place : Nat)
  /-- It lists the front-channel and the back-channel logouts. -/
  | recording (front back : List Value)
  deriving Repr

/-- The sessions of a site, and what ends them. -/
structure Sessions where
  store : SessionStore
  indexes : IndexCells
  handler : Handler

/-- The notice that a logout named no session. -/
def noSessionNotice : Notice := .warning "Back-channel logout without sid, no session destroyed"

namespace Sessions

/-- Record the session of a request for a session of the provider. A handler without an index cannot
    record it. -/
def record (s : Sessions) (e : Exchange) (sid : String) : Except Fault Unit × Sessions × Exchange :=
  match s.handler with
  | .recording .. => (.error .missingOperation, s, e)
  | .indexed place =>
    match (s.indexes.read place).record s.store e sid with
    | (.ok index, store, e) => (.ok (), { s with store, indexes := s.indexes.write place index }, e)
    | (.error cause, store, e) => (.error cause, { s with store }, e)

/-- Carry out a front-channel logout. -/
def logoutFront (s : Sessions) (e : Exchange) (sid : Value) : Except Fault Sessions :=
  match s.handler with
  | .recording front back => .ok { s with handler := .recording (front ++ [sid]) back }
  | .indexed place =>
    ((s.indexes.read place).logoutFront s.store e sid).map fun (index, store) =>
      { s with store, indexes := s.indexes.write place index }

/-- Carry out a back-channel logout. -/
def logoutBack (s : Sessions) (sid : Value) : Except Fault Sessions :=
  match s.handler with
  | .recording front back => .ok { s with handler := .recording front (back ++ [sid]) }
  | .indexed place =>
    ((s.indexes.read place).logoutBack s.store sid).map fun (index, store) =>
      { s with store, indexes := s.indexes.write place index }

/-- The notices about a back-channel logout: one that names no session has no effect. -/
def noticesOfBack (s : Sessions) (sid : Value) : Notices :=
  match s.handler with
  | .recording .. => []
  | .indexed _ => if sid.truthy then [] else [noSessionNotice]

end Sessions

end Logout

end RelyingParty
