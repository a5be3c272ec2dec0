import RelyingParty.Text.Encoding

set_option autoImplicit false

/-! # Base64 segments

The segments of a token are bytes in base64 with `-` and `_` as the last two digits, written without
padding. Reading is forgiving: the digits `+` and `/` are read as well, bytes that are no digits are
passed over, and what follows a complete padding is not looked at. A segment is refused if its
digits end inside a group and padding does not complete the group, or if one digit is left over.

`encode` is the writer and `decode?` the reader. -/

namespace RelyingParty.Base64

/-! ## Digits -/

/-- The six bits a digit stands for. -/
def digit? (b : UInt8) : Option Nat :=
  let n := b.toNat
  if 65 ≤ n ∧ n ≤ 90 then some (n - 65)
  else if 97 ≤ n ∧ n ≤ 122 then some (n - 71)
  else if 48 ≤ n ∧ n ≤ 57 then some (n + 4)
  else if n = 43 ∨ n = 45 then some 62
  else if n = 47 ∨ n = 95 then some 63
  else none

/-- The digit for six bits. -/
def digit (n : Nat) : UInt8 :=
  if n < 26 then UInt8.ofNat (n + 65)
  else if n < 52 then UInt8.ofNat (n + 71)
  else if n < 62 then UInt8.ofNat (n - 4)
  else if n = 62 then 45
  else 95

theorem digit?_digit : ∀ n, n < 64 → digit? (digit n) = some n := by
  decide

/-! ## Writing -/

/-- Base64 without padding. -/
def encode : Bytes → Bytes
  | [] => []
  | [a] => [digit (a.toNat / 4), digit (a.toNat % 4 * 16)]
  | [a, b] =>
    [digit (a.toNat / 4), digit (a.toNat % 4 * 16 + b.toNat / 16), digit (b.toNat % 16 * 4)]
  | a :: b :: c :: rest =>
    digit (a.toNat / 4) :: digit (a.toNat % 4 * 16 + b.toNat / 16)
      :: digit (b.toNat % 16 * 4 + c.toNat / 64) :: digit (c.toNat % 64) :: encode rest

/-! ## Reading -/

/-- The place of the next digit in its group of four, with the bits that the digits before it have
    left over. -/
inductive Group where
  | first
  | second (bits : Nat)
  | third (bits : Nat)
  | fourth (bits : Nat)
  deriving DecidableEq, Repr

/-- The padding sign. -/
def pad : UInt8 := 61

/-- Read digits in a group, `pads` padding signs having come since the last digit. -/
def read : Group → Nat → Bytes → Option Bytes
  | .first, _, [] => some []
  | _, _, [] => none
  | group, pads, b :: rest =>
    if b = pad then
      match group with
      | .third _ => if 1 ≤ pads then some [] else read group (pads + 1) rest
      | .fourth _ => some []
      | _ => read group pads rest
    else
      match digit? b with
      | none => read group pads rest
      | some d =>
        match group with
        | .first => read (.second d) 0 rest
        | .second bits => (read (.third (d % 16)) 0 rest).map (UInt8.ofNat (bits * 4 + d / 16) :: ·)
        | .third bits => (read (.fourth (d % 4)) 0 rest).map (UInt8.ofNat (bits * 16 + d / 4) :: ·)
        | .fourth bits => (read .first 0 rest).map (UInt8.ofNat (bits * 64 + d) :: ·)

/-- The padding that brings a length to a multiple of four. -/
def padding (length : Nat) : Bytes := List.replicate ((4 - length % 4) % 4) pad

/-- The bytes of a segment, which is padded to a multiple of four first. -/
def decode? (segment : Bytes) : Option Bytes :=
  read .first 0 (segment ++ padding segment.length)

/-- The bytes of a padded text; two more padding signs complete any group. -/
def decodeField? (field : Bytes) : Option Bytes := read .first 0 (field ++ [pad, pad])

end RelyingParty.Base64
