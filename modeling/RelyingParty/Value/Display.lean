import RelyingParty.Text.Quoted
import RelyingParty.Value.Basic

set_option autoImplicit false

/-! # Values in messages

Messages show values in two ways. `quoted` shows a value so that its type can be seen: text between
quotes, lists between brackets, mappings between braces. `display` shows text as it is, members of
enumerations by name, and everything else as `quoted` does. -/

namespace RelyingParty.Value

/-- Join texts with a separator. -/
def joined (separator : String) (texts : List String) : String := separator.intercalate texts

mutual

/-- A value with its type to be seen. -/
def quoted : Value → String
  | .null => "None"
  | .bool b => if b then "True" else "False"
  | .int n => toString n
  | .float x => x.text
  | .text s => Text.quoted s
  | .brokenText points => Text.quotedPoints points
  | .list xs => "[" ++ joined ", " (quotedAll xs) ++ "]"
  | .tuple xs =>
    match quotedAll xs with
    | [x] => "(" ++ x ++ ",)"
    | texts => "(" ++ joined ", " texts ++ ")"
  | .set xs => if xs.isEmpty then "set()" else "\x7b" ++ joined ", " (quotedAll xs) ++ "\x7d"
  | .frozenSet xs =>
    if xs.isEmpty then "frozenset()"
    else "frozenset(\x7b" ++ joined ", " (quotedAll xs) ++ "\x7d)"
  | .bytes b => Text.quotedBytes b
  | .dict entries => "\x7b" ++ joined ", " (quotedEntries entries) ++ "\x7d"
  | .member m => "<" ++ m.display ++ ": " ++ Text.quoted m.text ++ ">"
  | .object _ => "<object>"

def quotedAll : List Value → List String
  | [] => []
  | x :: xs => quoted x :: quotedAll xs

def quotedEntries : List (Value × Value) → List String
  | [] => []
  | entry :: rest => quotedEntry entry :: quotedEntries rest

def quotedEntry : Value × Value → String
  | (k, v) => quoted k ++ ": " ++ quoted v

end

/-- A value as it reads. -/
def display : Value → String
  | .text s => s
  | .brokenText points => Text.ofPointsLenient points
  | .member m => m.display
  | v => v.quoted

end RelyingParty.Value
