import RelyingParty.Key.Document
import RelyingParty.Provider.KeyCache
import RelyingParty.Token.Claims
import RelyingParty.Token.Compact

set_option autoImplicit false

/-! # Validating tokens

A token is valid for a client if one of the provider's keys signed it under an algorithm the client
allows, if its claims hold now, and if it answers the nonce the client expects. `Terms` states what
the client asks, `Terms.judge` is the verdict on a token for a document of keys at a moment; how a
key checks a signature is a parameter of it. `KeyValidator` adds the cache of keys.

A rejected token is a verdict, with a message for the log. A fault in the keys or in a claim's type
is not a verdict, and goes to the caller as it is. What a client asks may be values of any type, and
so may the token be. -/

namespace RelyingParty.Token

/-! ## Verdicts -/

/-- Why a token is rejected. -/
inductive Rejection where
  /-- The token does not come apart. -/
  | compact (cause : CompactError)
  /-- The header names no algorithm. -/
  | noAlgorithm
  /-- The client does not allow the algorithm. -/
  | algorithmNotAllowed
  /-- A key cannot be used. -/
  | key (cause : Key.KeyError)
  /-- No key verifies the signature. -/
  | signature
  /-- The payload is not a set of claims. -/
  | payload (cause : ObjectError)
  /-- A claim does not hold. -/
  | claim (cause : ClaimError)
  /-- The token answers another nonce, or none. -/
  | nonce
  /-- Another validator's reason. -/
  | other (message : String)
  deriving Repr

/-- What is wrong with a token. -/
def Rejection.detail : Rejection → String
  | .compact cause => cause.message
  | .noAlgorithm => "No algorithm was specified in the JWS header."
  | .algorithmNotAllowed => "The specified alg value is not allowed"
  | .key cause => cause.message
  | .signature => "Signature verification failed."
  | .payload cause => "Invalid payload string: " ++ cause.detail
  | .claim cause => cause.message
  | .nonce => "nonce mismatch"
  | .other message => message

/-- The wording for the one who asked. -/
def Rejection.message : Rejection → String
  | .other message => message
  | r => "Invalid token: " ++ r.detail

/-- What ends a validation. -/
abbrev TokenFailure := Failure Rejection

/-! ## What a client asks of a token -/

/-- What a client asks of a token. -/
structure Terms where
  /-- The issuer of the token. -/
  issuer : String
  /-- The client the token is made for. -/
  clientId : Value
  /-- The algorithms the token may be signed under. -/
  algorithms : Value
  /-- How many seconds the clocks may differ. -/
  leeway : Value
  deriving Repr

/-- The algorithms that are allowed unless others are named. -/
def defaultAlgorithms : Value := .list [.text "RS256"]

/-- The seconds clocks may differ unless others are stated. -/
def defaultLeeway : Value := .int 30

/-- Whether a value is among those with a hash, which it has to have itself. -/
def isAmongHashed (xs : List Value) (v : Value) : Except Fault Bool :=
  if v.hashable then .ok (xs.any v.same) else .error .wrongType

/-- Whether a byte, which a value has to be, is in a byte string. -/
def isByteOf (bytes : Bytes) (v : Value) : Except Fault Bool :=
  match v.numeric? with
  | some (.whole n) =>
    if 0 ≤ n && n < 256 then .ok (bytes.any fun b => b.toNat == n.toNat)
    else .error (.badValue "byte must be in range(0, 256)")
  | _ => .error .wrongType

/-- Whether the algorithms that are allowed have one among them; in a text it only has to occur. -/
def allows (algorithms alg : Value) : Except Fault Bool :=
  match algorithms with
  | .list xs | .tuple xs => .ok (xs.any alg.same)
  | .set xs | .frozenSet xs => isAmongHashed xs alg
  | .dict entries => isAmongHashed (Entries.keys entries) alg
  | .text s =>
    match alg with
    | .text name => .ok (Key.occursIn name.toList s.toList)
    | .brokenText _ => .ok false
    | _ => .error .wrongType
  | .bytes b => isByteOf b alg
  | _ => .error .wrongType

namespace Terms

/-- The algorithm a header names, if it may be used. -/
def algorithm (terms : Terms) (header : List (Value × Value)) : Except TokenFailure Value := do
  let alg := Value.fieldD header "alg"
  if !alg.truthy then throw (.refused .noAlgorithm)
  if ← (allows terms.algorithms alg).mapError .fault then return alg
  else throw (.refused .algorithmNotAllowed)

/-- One of the keys has to verify the signature. -/
def checkSignature (check : Key.Check) (keys name : Value) (token : Compact) :
    Except TokenFailure Unit := do
  let candidates ← (Key.candidates keys).mapError .fault
  let verified := Key.anyVerifies check name token.signingInput token.signature candidates
  if ← verified.mapError (·.map .key) then return () else throw (.refused .signature)

/-- The claims must hold. -/
def checkClaims (terms : Terms) (now : Int) (claims : Claims) : Except TokenFailure Unit :=
  (Token.checkClaims claims terms.issuer terms.clientId now terms.leeway).mapError
    (·.map .claim)

/-- Whether a nonce is the one that is expected. -/
def answers (nonce : String) (expected : Value) : Except TokenFailure Unit :=
  match expected with
  | .text s => if nonce = s then .ok () else .error (.refused .nonce)
  | .brokenText _ => .error (.fault .notEncodable)
  | _ => .error (.fault .missingOperation)

/-- The token must answer the nonce that is expected, unless that is null. -/
def checkNonce (expected : Value) (claims : Claims) : Except TokenFailure Unit :=
  if expected.isNull then .ok ()
  else
    match Value.fieldD claims "nonce" with
    | .text s => answers s expected
    | .brokenText _ => .error (.fault .notEncodable)
    | _ => .error (.refused .nonce)

/-- The bytes of a token. -/
def tokenBytes : Value → Except TokenFailure Bytes
  | .text s => .ok (Text.utf8 s)
  | .bytes b => .ok b
  | .brokenText _ => .error (.fault .notEncodable)
  | _ => .error (.fault .missingOperation)

/-- A verdict, or the fault behind it if there is one. -/
def rejection (reason : Rejection) : Option Fault → TokenFailure
  | some cause => .fault cause
  | none => .refused reason

/-- The claims of a token that is accepted. -/
def judge (terms : Terms) (check : Key.Check) (keys : Value) (now : Int) (token nonce : Value) :
    Except TokenFailure Claims := do
  let bytes ← tokenBytes token
  let compact ← (Compact.ofBytes bytes).mapError fun e => rejection (.compact e) e.fault?
  let name ← terms.algorithm compact.header
  checkSignature check keys name compact
  let claims ← (claimsOfPayload compact.payload).mapError fun e => rejection (.payload e) e.fault?
  terms.checkClaims now claims
  checkNonce nonce claims
  return claims

end Terms

/-! ## Validators with a cache of keys -/

/-- A validator of the tokens of one provider. -/
structure KeyValidator where
  terms : Terms
  cache : KeyCache
  deriving Repr

/-- Why there is no validator. -/
inductive SetupError where
  /-- No client is named. -/
  | clientId
  /-- The provider does not say where its keys are. -/
  | address
  deriving DecidableEq, Repr

/-- The wording of an error. -/
def SetupError.message : SetupError → String
  | .clientId => "client_id is required to validate tokens"
  | .address => "Provider metadata has no jwks_uri"

namespace KeyValidator

/-- A validator; without a cache, the keys are published at the provider's address for them. -/
def create (issuer : String) (keysAddress : Option String) (clientId : Value)
    (cache : Option KeyCache) (algorithms leeway : Value) : Except SetupError KeyValidator :=
  if !clientId.truthy then .error .clientId
  else
    let algorithms := if algorithms.truthy then algorithms else defaultAlgorithms
    let terms : Terms := ⟨issuer, clientId, algorithms, leeway⟩
    match cache with
    | some cache => .ok ⟨terms, cache⟩
    | none =>
      let address := keysAddress.getD ""
      if address = "" then .error .address
      else .ok ⟨terms, KeyCache.empty address KeyCache.defaultTtl⟩

/-- The verdict on a token: the keys come from the cache, which fetches them if need be. -/
def validate (v : KeyValidator) (check : Key.Check) (now : Int) (remote : Remote)
    (token nonce : Value) : Except TokenFailure Claims × KeyValidator × Remote :=
  match v.cache.get now remote with
  | (.error cause, cache, remote) => (.error (.fault cause), { v with cache }, remote)
  | (.ok keys, cache, remote) =>
    (v.terms.judge check keys now token nonce, { v with cache }, remote)

end KeyValidator

end RelyingParty.Token
