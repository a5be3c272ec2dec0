import RelyingParty.Text.DecimalDigit
import RelyingParty.Json.Reader

set_option autoImplicit false

/-! # Addresses between brackets

The host of a URL may be an address between brackets: an IPv6 address, or an address of a later
version, which starts with `v` and a version number. This module recognises both, and IPv4
addresses, which may end an IPv6 address. -/

namespace RelyingParty.Url

/-- The parts of a text between separators; a text without separators is one part. -/
def splitOn (separator : Char) : List Char → List (List Char)
  | [] => [[]]
  | c :: cs =>
    if c = separator then [] :: splitOn separator cs
    else
      match splitOn separator cs with
      | [] => [[c]]
      | part :: parts => (c :: part) :: parts

/-- The text before a character and the text after it, if it occurs; the first one counts. -/
def cut? (separator : Char) : List Char → Option (List Char × List Char)
  | [] => none
  | c :: cs =>
    if c = separator then some ([], cs)
    else (cut? separator cs).map fun (before, after) => (c :: before, after)

/-- A number of an IPv4 address: one to three digits, no leading zero, at most 255. -/
def isOctet (cs : List Char) : Bool :=
  !cs.isEmpty && cs.length ≤ 3 && cs.all (fun c => (Text.asciiDigit? c).isSome)
    && (cs == ['0'] || cs.head? != some '0')
    && Integer.ofDigits (cs.filterMap Text.asciiDigit?) ≤ 255

/-- An IPv4 address: four numbers with points between them. -/
def isIPv4 (cs : List Char) : Bool :=
  let parts := splitOn '.' cs
  parts.length == 4 && parts.all isOctet

/-- A group of an IPv6 address: one to four hexadecimal digits. -/
def isHextet (cs : List Char) : Bool :=
  !cs.isEmpty && cs.length ≤ 4 && cs.all (fun c => (Json.hexValue? c).isSome)

/-- The number of empty parts that are neither first nor last. -/
def innerGaps (parts : List (List Char)) : Nat :=
  (parts.drop 1).dropLast.countP (·.isEmpty)

/-- The groups on one side of the gap: a single empty one is the end of the text. -/
def isSide (parts : List (List Char)) : Bool := parts == [[]] || parts.all isHextet

/-- The number of groups on one side of the gap. -/
def sideLength (parts : List (List Char)) : Nat := if parts == [[]] then 0 else parts.length

/-- The groups of an IPv6 address: eight of them, or fewer around one gap. -/
def areGroups (parts : List (List Char)) : Bool :=
  match innerGaps parts with
  | 0 => parts.length == 8 && parts.all isHextet
  | 1 =>
    let before := parts.take 1 ++ (parts.drop 1).takeWhile (!·.isEmpty)
    let after := parts.drop (before.length + 1)
    isSide before && isSide after && sideLength before + sideLength after < 8
  | _ => false

/-- An IPv6 address without a zone. The last two groups may be written as an IPv4 address. -/
def isGroupText (cs : List Char) : Bool :=
  let parts := splitOn ':' cs
  let last := parts.getLastD []
  if parts.length < 3 then false
  else if last.contains '.' then
    isIPv4 last && parts.length ≤ 8 && areGroups (parts.dropLast ++ [['0'], ['0']])
  else parts.length ≤ 9 && areGroups parts

/-- An IPv6 address; a zone may follow a percent sign. -/
def isIPv6 (cs : List Char) : Bool :=
  if cs.contains '/' then false
  else
    match cut? '%' cs with
    | none => isGroupText cs
    | some (address, zone) => !zone.isEmpty && !zone.contains '%' && isGroupText address

/-- An address of a later version: `v`, hexadecimal digits, a point and at least one character. -/
def isFutureAddress : List Char → Bool
  | 'v' :: cs =>
    match cs.takeWhile (fun c => (Json.hexValue? c).isSome),
        cs.dropWhile (fun c => (Json.hexValue? c).isSome) with
    | _ :: _, '.' :: c :: rest => (c :: rest).all (· != '\n')
    | _, _ => false
  | _ => false

end RelyingParty.Url
