import RelyingParty.Text.CodePage

set_option autoImplicit false

/-! # Text as bytes

Text travels as bytes in tokens, requests and stored profiles. This module reads and writes the
encodings that occur: UTF-8 (strict, or with U+FFFD for what cannot be read), its form with a
signature, UTF-16 and UTF-32 in both byte orders, Latin-1, ASCII and the code pages.

Reading UTF-8 goes through `utf8Step`, which takes one character, or the longest beginning of a
character that does not continue, from a non-empty list of bytes. The strict reader refuses the
latter and the lenient one writes U+FFFD for it. -/

namespace RelyingParty

/-- A string of bytes. -/
abbrev Bytes := List UInt8

namespace Text

/-! ## UTF-8 -/

/-- The UTF-8 bytes of a text. -/
def utf8 (s : String) : Bytes := s.toList.flatMap String.utf8EncodeChar

/-- A byte that continues a character. -/
def isContinuation (b : UInt8) : Bool := 0x80 ≤ b && b ≤ 0xBF

/-- The bytes that may follow a leading byte: they exclude overlong forms, surrogates and code
    points above U+10FFFF. -/
def isSecond (lead second : UInt8) : Bool :=
  if lead = 0xE0 then 0xA0 ≤ second && second ≤ 0xBF
  else if lead = 0xED then 0x80 ≤ second && second ≤ 0x9F
  else if lead = 0xF0 then 0x90 ≤ second && second ≤ 0xBF
  else if lead = 0xF4 then 0x80 ≤ second && second ≤ 0x8F
  else isContinuation second

/-- The six low bits of a continuation byte. -/
def payloadBits (b : UInt8) : Nat := b.toNat % 64

/-- Read one character that starts with `lead`: the character, or `none` for bytes that are no
    character, and what remains. -/
def utf8Step (lead : UInt8) (rest : Bytes) : Option Char × Bytes :=
  if lead < 0x80 then (some (Char.ofNat lead.toNat), rest)
  else if lead < 0xC2 then (none, rest)
  else if lead < 0xE0 then
    match rest with
    | b :: r =>
      if isContinuation b then
        (some (Char.ofNat ((lead.toNat - 0xC0) * 64 + payloadBits b)), r)
      else (none, rest)
    | [] => (none, [])
  else if lead < 0xF0 then
    match rest with
    | b :: r =>
      if isSecond lead b then
        match r with
        | c :: r' =>
          if isContinuation c then
            (some (Char.ofNat ((lead.toNat - 0xE0) * 4096 + payloadBits b * 64 + payloadBits c)),
              r')
          else (none, r)
        | [] => (none, [])
      else (none, rest)
    | [] => (none, [])
  else if lead < 0xF5 then
    match rest with
    | b :: r =>
      if isSecond lead b then
        match r with
        | c :: r' =>
          if isContinuation c then
            match r' with
            | d :: r'' =>
              if isContinuation d then
                (some (Char.ofNat ((lead.toNat - 0xF0) * 262144 + payloadBits b * 4096
                  + payloadBits c * 64 + payloadBits d)), r'')
              else (none, r')
            | [] => (none, [])
          else (none, r)
        | [] => (none, [])
      else (none, rest)
    | [] => (none, [])
  else (none, rest)

theorem length_utf8Step_le (lead : UInt8) (rest : Bytes) :
    (utf8Step lead rest).2.length ≤ rest.length := by
  unfold utf8Step
  repeat' split
  all_goals simp_all
  all_goals omega

/-- The characters of UTF-8 bytes, `none` for each run of bytes that is no character. -/
def utf8Units : Bytes → List (Option Char)
  | [] => []
  | lead :: rest => (utf8Step lead rest).1 :: utf8Units (utf8Step lead rest).2
termination_by bytes => bytes.length
decreasing_by
  have := length_utf8Step_le lead rest
  simp only [List.length_cons]
  omega

/-- All elements, if each is present. -/
def allSome {α : Type} : List (Option α) → Option (List α)
  | [] => some []
  | none :: _ => none
  | some a :: rest => (allSome rest).map (a :: ·)

/-- Text of well-formed UTF-8. -/
def ofUtf8? (bytes : Bytes) : Option String := (allSome (utf8Units bytes)).map String.ofList

/-- Text of UTF-8, with U+FFFD for what cannot be read. -/
def ofUtf8Lenient (bytes : Bytes) : String :=
  String.ofList ((utf8Units bytes).map (·.getD '\uFFFD'))

/-! ## Encodings of one byte a character -/

/-- Each byte is the code point it counts. -/
def ofLatin1 (bytes : Bytes) : String := String.ofList (bytes.map fun b => Char.ofNat b.toNat)

/-- Bytes of the characters below U+0080, if there is no other. -/
def ofAscii? (bytes : Bytes) : Option String :=
  if bytes.all (· < 0x80) then some (ofLatin1 bytes) else none

/-- One byte for each character below `limit`, if there is no other. -/
def bytesBelow? (limit : Nat) (s : String) : Option Bytes :=
  if s.toList.all (·.toNat < limit) then some (s.toList.map fun c => UInt8.ofNat c.toNat) else none

/-! ## Code points -/

/-- A code point that is a character. -/
def codePoint? (n : Nat) : Option Char :=
  if n < 0xD800 ∨ 0xDFFF < n ∧ n < 0x110000 then some (Char.ofNat n) else none

/-- The text of some code points, if they all are characters. -/
def ofPoints? (points : List Nat) : Option String :=
  (allSome (points.map codePoint?)).map String.ofList

/-- The text of some code points, with U+FFFD for those that are no characters. -/
def ofPointsLenient (points : List Nat) : String :=
  String.ofList (points.map fun n => (codePoint? n).getD '\uFFFD')

/-- The first half of a surrogate pair. -/
def isHighSurrogate (n : Nat) : Bool := 0xD800 ≤ n && n ≤ 0xDBFF

/-- The second half of a surrogate pair. -/
def isLowSurrogate (n : Nat) : Bool := 0xDC00 ≤ n && n ≤ 0xDFFF

/-- The code point of a surrogate pair. -/
def pairPoint (high low : Nat) : Nat := 0x10000 + (high - 0xD800) * 1024 + (low - 0xDC00)

/-- Code points with one for each surrogate pair; a half that stands alone stays. -/
def joinSurrogates : List Nat → List Nat
  | [] => []
  | [n] => [n]
  | n :: m :: rest =>
    if isHighSurrogate n && isLowSurrogate m then pairPoint n m :: joinSurrogates rest
    else n :: joinSurrogates (m :: rest)

/-! ## Wide encodings -/

/-- The order of the bytes of a wide unit. -/
inductive ByteOrder where
  | little
  | big
  deriving DecidableEq, Repr

/-- The number two bytes stand for. -/
def ByteOrder.join (order : ByteOrder) (a b : Nat) : Nat :=
  match order with
  | .little => a + 256 * b
  | .big => 256 * a + b

/-- Two bytes for each unit of sixteen bits. -/
def ByteOrder.split (order : ByteOrder) (unit : Nat) : Bytes :=
  let low := UInt8.ofNat (unit % 256)
  let high := UInt8.ofNat (unit / 256 % 256)
  match order with
  | .little => [low, high]
  | .big => [high, low]

/-- The units of sixteen bits of a character. -/
def utf16Units (c : Char) : List Nat :=
  if c.toNat < 0x10000 then [c.toNat]
  else [0xD800 + (c.toNat - 0x10000) / 1024, 0xDC00 + (c.toNat - 0x10000) % 1024]

/-- The UTF-16 bytes of a text. -/
def utf16 (order : ByteOrder) (s : String) : Bytes :=
  (s.toList.flatMap utf16Units).flatMap order.split

/-- Units of sixteen bits, if the bytes come in pairs. -/
def pairs? (order : ByteOrder) : Bytes → Option (List Nat)
  | [] => some []
  | [_] => none
  | a :: b :: rest => (pairs? order rest).map (order.join a.toNat b.toNat :: ·)

/-- The code points of UTF-16 in a known byte order. -/
def utf16Points? (order : ByteOrder) (bytes : Bytes) : Option (List Nat) :=
  (pairs? order bytes).map joinSurrogates

/-- Text of UTF-16 in a known byte order; a surrogate without its partner is refused. -/
def ofUtf16? (order : ByteOrder) (bytes : Bytes) : Option String :=
  (utf16Points? order bytes).bind ofPoints?

/-- The UTF-32 bytes of a text. -/
def utf32 (order : ByteOrder) (s : String) : Bytes :=
  s.toList.flatMap fun c =>
    match order with
    | .big => order.split (c.toNat / 65536) ++ order.split (c.toNat % 65536)
    | .little => order.split (c.toNat % 65536) ++ order.split (c.toNat / 65536)

/-- The code points of UTF-32 in a known byte order. -/
def utf32Points? (order : ByteOrder) : Bytes → Option (List Nat)
  | [] => some []
  | a :: b :: c :: d :: rest =>
    let n := match order with
      | .little => order.join a.toNat b.toNat + 65536 * order.join c.toNat d.toNat
      | .big => 65536 * order.join a.toNat b.toNat + order.join c.toNat d.toNat
    if n < 0x110000 then (utf32Points? order rest).map (n :: ·) else none
  | _ => none

/-- Text of UTF-32 in a known byte order. -/
def ofUtf32? (order : ByteOrder) (bytes : Bytes) : Option String :=
  (utf32Points? order bytes).bind ofPoints?

/-! ## Surrogates in UTF-8 -/

/-- The surrogate that bytes start with, and what follows it: it has the form of a character of
    three bytes. -/
def surrogate? : Bytes → Option (Nat × Bytes)
  | 0xED :: b :: c :: rest =>
    if 0xA0 ≤ b && b ≤ 0xBF && isContinuation c then
      some (0xD000 + payloadBits b * 64 + payloadBits c, rest)
    else none
  | _ => none

theorem length_surrogate?_lt {bytes rest : Bytes} {n : Nat}
    (h : surrogate? bytes = some (n, rest)) : rest.length < bytes.length := by
  unfold surrogate? at h
  split at h
  · split at h
    · simp only [Option.some.injEq, Prod.mk.injEq] at h
      simp only [← h.2, List.length_cons]
      omega
    · exact absurd h (by simp)
  · exact absurd h (by simp)

/-- The code points of UTF-8 in which surrogates may stand. -/
def utf8Points? : Bytes → Option (List Nat)
  | [] => some []
  | lead :: rest =>
    match _h : surrogate? (lead :: rest) with
    | some (n, after) => (utf8Points? after).map (n :: ·)
    | none =>
      match (utf8Step lead rest).1 with
      | some c => (utf8Points? (utf8Step lead rest).2).map (c.toNat :: ·)
      | none => none
termination_by bytes => bytes.length
decreasing_by
  · exact length_surrogate?_lt _h
  · have := length_utf8Step_le lead rest
    simp only [List.length_cons]
    omega

end Text

/-! ## Named encodings -/

/-- The encodings of stored profiles and of form fields. -/
inductive Encoding where
  /-- UTF-8 without a signature. -/
  | utf8
  /-- Characters below U+0080 only. -/
  | ascii
  /-- Characters below U+0100 only. -/
  | latin1
  /-- UTF-16, written little-endian after a byte order mark and read by the mark. -/
  | utf16
  /-- UTF-16, little-endian, without a mark. -/
  | utf16Little
  /-- UTF-16, big-endian, without a mark. -/
  | utf16Big
  /-- UTF-32, written little-endian after a byte order mark and read by the mark. -/
  | utf32
  /-- UTF-32, little-endian, without a mark. -/
  | utf32Little
  /-- UTF-32, big-endian, without a mark. -/
  | utf32Big
  /-- UTF-8, written after a signature; the signature is optional in reading. -/
  | utf8Signed
  /-- A code page. -/
  | page (p : CodePage)
  deriving DecidableEq, Repr

namespace Encoding

/-- The signature of UTF-8. -/
def signature : Bytes := [0xEF, 0xBB, 0xBF]

/-- The encodings by name, in lower case and with underscores; those of code pages are apart. -/
def names : List (String × Encoding) :=
  [("utf_8", .utf8), ("u8", .utf8), ("utf", .utf8), ("utf8", .utf8), ("utf8_ucs2", .utf8),
   ("utf8_ucs4", .utf8), ("cp65001", .utf8), ("ascii", .ascii), ("646", .ascii),
   ("ansi_x3_4_1968", .ascii), ("cp367", .ascii), ("csascii", .ascii), ("ibm367", .ascii),
   ("iso646_us", .ascii), ("iso_ir_6", .ascii), ("us", .ascii), ("us_ascii", .ascii),
   ("latin_1", .latin1), ("8859", .latin1), ("cp819", .latin1), ("csisolatin1", .latin1),
   ("ibm819", .latin1), ("iso8859", .latin1), ("iso8859_1", .latin1), ("iso_8859_1", .latin1),
   ("iso_8859_1_1987", .latin1), ("iso_ir_100", .latin1), ("l1", .latin1), ("latin", .latin1),
   ("latin1", .latin1), ("utf_16", .utf16), ("u16", .utf16), ("utf16", .utf16),
   ("utf_16_le", .utf16Little), ("unicodelittleunmarked", .utf16Little),
   ("utf_16le", .utf16Little), ("utf_16_be", .utf16Big), ("unicodebigunmarked", .utf16Big),
   ("utf_16be", .utf16Big), ("utf_32", .utf32), ("u32", .utf32), ("utf32", .utf32),
   ("utf_32_le", .utf32Little), ("utf_32le", .utf32Little), ("utf_32_be", .utf32Big),
   ("utf_32be", .utf32Big), ("utf_8_sig", .utf8Signed), ("ansi_x3.4_1968", .ascii),
   ("ansi_x3.4_1986", .ascii), ("iso_646.irv_1991", .ascii)]

/-- The words of a name: runs of letters, digits and points. -/
def words : List Char → List (List Char)
  | [] => [[]]
  | c :: cs =>
    if c.isAlphanum || c == '.' then
      match words cs with
      | word :: rest => (c.toLower :: word) :: rest
      | [] => [[c.toLower]]
    else [] :: words cs

/-- A name in lower case, with an underscore for whatever stands between its words. -/
def plainName (name : String) : String :=
  "_".intercalate (((words name.toList).filter (!·.isEmpty)).map String.ofList)

/-- The encoding of a name; neither case nor what stands between its words matters. -/
def ofName? (name : String) : Option Encoding :=
  let name := plainName name
  match names.find? (·.1 == name) with
  | some (_, encoding) => some encoding
  | none => (CodePage.names.find? (·.1 == name)).map fun found => .page found.2

/-- The bytes of a text, if the encoding can write it. -/
def encode? : Encoding → String → Option Bytes
  | .utf8, s => some (Text.utf8 s)
  | .ascii, s => Text.bytesBelow? 0x80 s
  | .latin1, s => Text.bytesBelow? 0x100 s
  | .utf16, s => some ([0xFF, 0xFE] ++ Text.utf16 .little s)
  | .utf16Little, s => some (Text.utf16 .little s)
  | .utf16Big, s => some (Text.utf16 .big s)
  | .utf32, s => some ([0xFF, 0xFE, 0, 0] ++ Text.utf32 .little s)
  | .utf32Little, s => some (Text.utf32 .little s)
  | .utf32Big, s => some (Text.utf32 .big s)
  | .utf8Signed, s => some (signature ++ Text.utf8 s)
  | .page p, s => Text.allSome (s.toList.map p.encodeChar?)

/-- The text of some bytes, if the encoding can read them. -/
def decode? : Encoding → Bytes → Option String
  | .utf8, bytes => Text.ofUtf8? bytes
  | .ascii, bytes => Text.ofAscii? bytes
  | .latin1, bytes => some (Text.ofLatin1 bytes)
  | .utf16, 0xFF :: 0xFE :: bytes => Text.ofUtf16? .little bytes
  | .utf16, 0xFE :: 0xFF :: bytes => Text.ofUtf16? .big bytes
  | .utf16, bytes => Text.ofUtf16? .little bytes
  | .utf16Little, bytes => Text.ofUtf16? .little bytes
  | .utf16Big, bytes => Text.ofUtf16? .big bytes
  | .utf32, 0xFF :: 0xFE :: 0 :: 0 :: bytes => Text.ofUtf32? .little bytes
  | .utf32, 0 :: 0 :: 0xFE :: 0xFF :: bytes => Text.ofUtf32? .big bytes
  | .utf32, bytes => Text.ofUtf32? .little bytes
  | .utf32Little, bytes => Text.ofUtf32? .little bytes
  | .utf32Big, bytes => Text.ofUtf32? .big bytes
  | .utf8Signed, 0xEF :: 0xBB :: 0xBF :: bytes => Text.ofUtf8? bytes
  | .utf8Signed, bytes => Text.ofUtf8? bytes
  | .page p, bytes => (Text.allSome (bytes.map p.decodeByte?)).map String.ofList

end Encoding

end RelyingParty
