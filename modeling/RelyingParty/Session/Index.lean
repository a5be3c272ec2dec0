import RelyingParty.Digest.Sha2
import RelyingParty.Value.Conversion
import RelyingParty.Value.Display

set_option autoImplicit false

/-! # The index from provider sessions to local ones

A back-channel logout names a session of the provider, and comes without the browser. The index
finds the local session that was recorded for it. It is kept either in memory or in a shared store
of keys and values, under keys derived from the provider's identifier; entries of a shared index may
expire.

Provider sessions are named by text. A logout may name one by another value: text that is broken
names none, but has no key in a shared store.

Handlers refer to an index by its place among the `IndexCells`, so that two handlers given the same
index see each other's entries. -/

namespace RelyingParty

/-! ## Indexes in a shared store -/

/-- An entry of a shared store. -/
structure StoredText where
  text : String
  /-- Whether the entry expires. -/
  expires : Bool
  deriving DecidableEq, Repr

/-- A shared store of keys and values. -/
abbrev KeyValueStore := Entries String StoredText

/-- How an index uses a shared store. Both are values of any type, and looked at only when they are
    used. -/
structure SharedIndex where
  /-- What its keys start with. -/
  space : Value
  /-- The seconds after which an entry expires, null if it does not. -/
  ttl : Value
  deriving Repr

namespace SharedIndex

/-- The name space of an index unless another one is given. -/
def defaultSpace : Value := .text "oidc_rp:sid"

/-- The key of a provider session: the name space and a digest of the identifier. -/
def key (i : SharedIndex) (sid : String) : String :=
  i.space.display ++ ":" ++ Text.hexOfBytes (Digest.sha256 (Text.utf8 sid))

/-- Whether a text is made of digits alone. -/
def isDigits (s : String) : Bool := s != "" && s.toList.all Text.isDigit

/-- The wording for digits that are no number. -/
def notANumberMessage (s : String) : String :=
  if s.toList.all fun c => (Text.decimalDigit? c).isSome then tooManyDigitsMessage s.length
  else "invalid literal for int() with base 10: " ++ Text.quoted s

/-- The seconds after which an entry expires, if it does. -/
def expiry (ttl : Value) : Except Fault (Option Int) :=
  match ttl with
  | .null => .ok none
  | .int n => .ok (some n)
  | .text s =>
    if !isDigits s then .error .unstorable
    else
      match Integer.ofText? s with
      | some n => .ok (some n)
      | none => .error (.badValue (notANumberMessage s))
  | _ => .error .unstorable

/-- The milliseconds after which an entry expires are fewer than this, 2^63. -/
def expiryBound : Int := 9223372036854775808

/-- Whether the store accepts a time of expiry: it is ahead, and not too far. -/
def isAccepted (seconds : Int) : Bool := 0 < seconds && seconds * 1000 < expiryBound

/-- Record a local session; the store refuses a time of expiry that it does not accept. -/
def put (i : SharedIndex) (store : KeyValueStore) (sid id : String) : Except Fault KeyValueStore :=
  match expiry i.ttl with
  | .error cause => .error cause
  | .ok none => .ok (store.insert (i.key sid) ⟨id, false⟩)
  | .ok (some seconds) =>
    if isAccepted seconds then .ok (store.insert (i.key sid) ⟨id, true⟩) else .error .refused

/-- The local session recorded. -/
def get? (i : SharedIndex) (store : KeyValueStore) (sid : String) : Option String :=
  (store.get? (i.key sid)).map (·.text)

/-- Forget a provider session. -/
def remove (i : SharedIndex) (store : KeyValueStore) (sid : String) : KeyValueStore :=
  store.erase (i.key sid)

end SharedIndex

/-! ## Indexes of either kind -/

/-- An index with its entries. -/
inductive SessionIndex where
  | memory (sessions : Entries String String)
  | shared (index : SharedIndex) (store : KeyValueStore)
  deriving Repr

namespace SessionIndex

/-- An index in memory without entries. -/
def empty : SessionIndex := .memory []

/-- Record the local session of a provider session. -/
def put (i : SessionIndex) (sid id : String) : Except Fault SessionIndex :=
  match i with
  | .memory sessions => .ok (.memory (sessions.insert sid id))
  | .shared index store => (index.put store sid id).map (.shared index)

/-- The local session recorded for a provider session. -/
def get? (i : SessionIndex) (sid : String) : Option String :=
  match i with
  | .memory sessions => sessions.get? sid
  | .shared index store => index.get? store sid

/-- Forget a provider session. -/
def remove (i : SessionIndex) (sid : String) : SessionIndex :=
  match i with
  | .memory sessions => .memory (sessions.erase sid)
  | .shared index store => .shared index (index.remove store sid)

/-- The text that a logout names a provider session by; none if no entry can be recorded under it.
    -/
def nameOf (i : SessionIndex) (sid : Value) : Except Fault (Option String) :=
  match sid with
  | .text s => .ok (some s)
  | v =>
    match i with
    | .memory sessions =>
      if v.hashable || sessions.isEmpty then .ok none else .error .wrongType
    | .shared .. => .error (if v.isText then .notEncodable else .missingOperation)

/-- An index in memory can tell how many entries it has. -/
def size? : SessionIndex → Option Nat
  | .memory sessions => some sessions.length
  | .shared .. => none

/-- An index that is known to hold nothing. -/
def isKnownEmpty (i : SessionIndex) : Bool := i.size? == some 0

end SessionIndex

/-! ## Indexes that handlers share -/

/-- The indexes there are, each in its place. -/
abbrev IndexCells := List SessionIndex

namespace IndexCells

/-- The index in a place. -/
def read (cells : IndexCells) (place : Nat) : SessionIndex := cells.getD place .empty

/-- Put an index into a place. -/
def write (cells : IndexCells) (place : Nat) (index : SessionIndex) : IndexCells :=
  cells.set place index

/-- A new place with an index. -/
def allocate (cells : IndexCells) (index : SessionIndex) : Nat × IndexCells :=
  (cells.length, cells ++ [index])

/-- The place of the index a handler uses. It is the one it is given, unless that is known to hold
    nothing; then the handler has an index of its own. -/
def forHandler (cells : IndexCells) (given : Option Nat) : Nat × IndexCells :=
  match given with
  | some place =>
    if (read cells place).isKnownEmpty then cells.allocate .empty else (place, cells)
  | none => cells.allocate .empty

end IndexCells

end RelyingParty
