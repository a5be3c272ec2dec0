import RelyingParty.Entries
import RelyingParty.Text.Blank
import RelyingParty.Url.Address

set_option autoImplicit false

/-! # Headers

A header is a name, the case of which does not matter, and a value. Some values have parameters: a
main part and then `name=value` after semicolons, where a value may stand between quotes. A
semicolon between quotes separates nothing, and a name is taken as it is written: a star at its end
makes it a name of its own. -/

namespace RelyingParty.Http

/-! ## Names -/

/-- Text in lower case, as far as ASCII goes. -/
def lowered (s : String) : String := String.ofList (s.toList.map Char.toLower)

/-- The values of all headers of a name, which is given in lower case. -/
def headerValues (headers : List (String × String)) (name : String) : List String :=
  (headers.filter fun h => lowered h.1 == name).map (·.2)

/-! ## Parameters -/

/-- The pieces between semicolons outside of quotes. A quote after a backslash is none. -/
def pieces (quoted escaped : Bool) : List Char → List (List Char)
  | [] => [[]]
  | c :: cs =>
    if c = ';' && !quoted then [] :: pieces false false cs
    else
      let quoted := if c = '"' && !escaped then !quoted else quoted
      match pieces quoted (c == '\\') cs with
      | [] => [[c]]
      | piece :: rest => (c :: piece) :: rest

/-- Remove the backslashes in front of characters of one kind. -/
def withoutEscapes (escaped : Char) : List Char → List Char
  | '\\' :: c :: cs =>
    if c = escaped then c :: withoutEscapes escaped cs else '\\' :: withoutEscapes escaped (c :: cs)
  | c :: cs => c :: withoutEscapes escaped cs
  | [] => []

/-- A value without the quotes or the angle brackets around it. -/
def unquoted (cs : List Char) : List Char :=
  let inner := (cs.drop 1).dropLast
  if 1 < cs.length && cs.head? = some '"' && cs.getLast? = some '"' then
    withoutEscapes '"' (withoutEscapes '\\' inner)
  else if 1 < cs.length && cs.head? = some '<' && cs.getLast? = some '>' then inner
  else cs

/-- Characters without blank ones at their ends. -/
def stripped (cs : List Char) : List Char := Text.trimBy Text.isBlank cs

/-- One parameter; its name is in lower case if it has a value. -/
def parameterOf (piece : List Char) : String × String :=
  match Url.cut? '=' piece with
  | some (name, value) =>
    (String.ofList ((stripped name).map Char.toLower), String.ofList (unquoted (stripped value)))
  | none => (String.ofList (stripped piece), "")

/-- The main part of a value, and its parameters; of two of the same name, the last one counts. -/
def parameters (value : String) : String × Entries String String :=
  match pieces false false value.toList with
  | [main] => (lowered (Text.strip (String.ofList main)), [])
  | main :: rest => ((parameterOf main).1, Entries.ofPairs (rest.map parameterOf))
  | [] => ("", [])

end RelyingParty.Http
