import RelyingParty.Json.Reader
import RelyingParty.Key.Check
import RelyingParty.Value.Conversion

set_option autoImplicit false

/-! # The keys of a provider

A provider publishes its keys as a document. `candidates` lists the keys of the document that may
have signed a token: the elements of its `keys` member, the document itself if it is a single key,
the members of any other mapping, or the elements of a list. The keys are tried in order, and one
that cannot be used ends the search. -/

namespace RelyingParty.Key

/-- A document that is a text may itself be JSON; its numbers are then left as they are written. -/
def opened : Value → Value
  | .text s => (Json.readAs .asWritten s).toOption.getD (.text s)
  | v => v

/-- The keys of a document, in the order in which they are tried. -/
def candidates (document : Value) : Except Fault (List Value) :=
  match opened document with
  | .dict entries =>
    match Value.field? entries "keys" with
    | some keys => keys.elements
    | none =>
      if (Value.field? entries "kty").isSome || entries.isEmpty then .ok [.dict entries]
      else .ok (entries.map (·.2))
  | .list xs => .ok xs
  | v => .ok [v]

/-- Whether one of the keys verifies a signature; a key that cannot be used ends the search. -/
def anyVerifies (check : Check) (name : Value) (text signature : Bytes) :
    List Value → Except KeyFailure Bool
  | [] => .ok false
  | key :: rest =>
    match check name key text signature with
    | .error e => .error e
    | .ok true => .ok true
    | .ok false => anyVerifies check name text signature rest

end RelyingParty.Key
