import RelyingParty.Http.Header

set_option autoImplicit false

/-! # Cookies

A browser sends its cookies in one header or several, as `name=value` with semicolons between them.
A value between quotes may hold escapes: a backslash and three octal digits for a character, a
backslash before any other character for that character. -/

namespace RelyingParty.Cookie

/-- The number an octal digit stands for. -/
def octalDigit? (c : Char) : Option Nat :=
  if '0' ≤ c ∧ c ≤ '7' then some (c.toNat - '0'.toNat) else none

/-- The character three octal digits stand for; the first one is at most three. -/
def octalChar? (a b c : Char) : Option Char := do
  let x ← octalDigit? a
  let y ← octalDigit? b
  let z ← octalDigit? c
  if x ≤ 3 then some (Char.ofNat (64 * x + 8 * y + z)) else none

/-- The characters that escapes stand for. -/
def unescaped : List Char → List Char
  | '\\' :: a :: b :: c :: rest =>
    match octalChar? a b c with
    | some escaped => escaped :: unescaped rest
    | none =>
      if a = '\n' then '\\' :: unescaped (a :: b :: c :: rest) else a :: unescaped (b :: c :: rest)
  | '\\' :: a :: rest => if a = '\n' then '\\' :: unescaped (a :: rest) else a :: unescaped rest
  | c :: rest => c :: unescaped rest
  | [] => []

/-- A value without its quotes and escapes. -/
def unquoted (cs : List Char) : List Char :=
  if 1 < cs.length && cs.head? = some '"' && cs.getLast? = some '"' then
    unescaped (cs.drop 1).dropLast
  else cs

/-- One cookie; without `=`, it has an empty name. -/
def ofChunk (chunk : List Char) : Option (String × String) :=
  let (name, value) := (Url.cut? '=' chunk).getD ([], chunk)
  let name := Http.stripped name
  let value := Http.stripped value
  if name.isEmpty && value.isEmpty then none
  else some (String.ofList name, String.ofList (unquoted value))

/-- The cookies of a header. -/
def ofHeader (value : String) : List (String × String) :=
  (Url.splitOn ';' value.toList).filterMap ofChunk

/-- The cookies of all headers; of two of the same name, the last one counts. -/
def ofHeaders (values : List String) : Entries String String :=
  Entries.ofPairs (values.flatMap ofHeader)

end RelyingParty.Cookie
