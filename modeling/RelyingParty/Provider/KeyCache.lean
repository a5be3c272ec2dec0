import RelyingParty.Value.Conversion

set_option autoImplicit false

/-! # The cache of the provider's keys

A provider signs with keys it publishes as a document. The document is kept for `ttl` seconds after
it was fetched; an empty document counts as none. A failed fetch leaves the cache as it was.

The time for which a document is kept is a value of any type, and looked at only once there is a
document. -/

namespace RelyingParty

/-- The keys of a provider, as they were fetched last. -/
structure KeyCache where
  /-- Where the keys are published. -/
  address : String
  /-- How many seconds a document is kept. -/
  ttl : Value
  /-- The document held; null before the first fetch. -/
  held : Value
  /-- When the document was fetched. -/
  fetchedAt : Int
  deriving Repr

namespace KeyCache

/-- The number of seconds a document is kept unless another one is given. -/
def defaultTtl : Value := .int 3600

/-- A cache that has fetched nothing. -/
def empty (address : String) (ttl : Value) : KeyCache := ⟨address, ttl, .null, 0⟩

/-- Whether the next use has to fetch: nothing is held, or it is too old. -/
def isStale (c : KeyCache) (now : Int) : Except Fault Bool :=
  if c.held.truthy then
    match c.ttl.numeric? with
    | some ttl => .ok (ttl.isBelow (now - c.fetchedAt))
    | none => .error .wrongType
  else .ok true

/-- Fetch the document. -/
def refresh (c : KeyCache) (now : Int) (r : Remote) : Except Fault Value × KeyCache × Remote :=
  match r.fetch c.address with
  | (.ok document, r) => (.ok document, { c with held := document, fetchedAt := now }, r)
  | (.error e, r) => (.error (.fetch e), c, r)

/-- The document, fetched first if need be. -/
def get (c : KeyCache) (now : Int) (r : Remote) : Except Fault Value × KeyCache × Remote :=
  match c.isStale now with
  | .error cause => (.error cause, c, r)
  | .ok true => c.refresh now r
  | .ok false => (.ok c.held, c, r)

/-- Forget the document. -/
def invalidate (c : KeyCache) : KeyCache := { c with held := .null }

end KeyCache

end RelyingParty
