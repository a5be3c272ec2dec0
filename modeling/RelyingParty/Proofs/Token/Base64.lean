import RelyingParty.Proofs.Text.Encoding
import RelyingParty.Token.Base64

set_option autoImplicit false

/-! # Base64 comes back

Bytes that are written in base64 are read back: `decode?_encode`. The induction is on groups of
three bytes, which make four digits, so that what is left at the end decides about the padding. -/

namespace RelyingParty.Base64

/-! ## Digits -/

/-- A digit is ASCII, and neither the padding sign nor a point. -/
theorem digit_plain {n : Nat} (h : n < 64) : digit n < 0x80 ∧ digit n ≠ pad ∧ digit n ≠ 46 := by
  have hall : ∀ n, n < 64 → digit n < 0x80 ∧ digit n ≠ pad ∧ digit n ≠ 46 := by decide
  exact hall n h

/-- The digits of base64 are plain. -/
theorem mem_encode {bytes : Bytes} {b : UInt8} (h : b ∈ encode bytes) :
    b < 0x80 ∧ b ≠ pad ∧ b ≠ 46 := by
  have hbyte : ∀ a : UInt8, a.toNat < 256 := fun a => a.toNat_lt
  induction bytes using encode.induct with
  | case1 => exact absurd h (by simp [encode])
  | case2 a =>
    have ha := hbyte a
    simp only [encode, List.mem_cons, List.not_mem_nil, or_false] at h
    rcases h with rfl | rfl
    · exact digit_plain (by omega)
    · exact digit_plain (by omega)
  | case3 a b =>
    have ha := hbyte a
    have hb := hbyte b
    simp only [encode, List.mem_cons, List.not_mem_nil, or_false] at h
    rcases h with rfl | rfl | rfl
    · exact digit_plain (by omega)
    · exact digit_plain (by omega)
    · exact digit_plain (by omega)
  | case4 a b c rest ih =>
    have ha := hbyte a
    have hb := hbyte b
    have hc := hbyte c
    simp only [encode, List.mem_cons] at h
    rcases h with rfl | rfl | rfl | rfl | h
    · exact digit_plain (by omega)
    · exact digit_plain (by omega)
    · exact digit_plain (by omega)
    · exact digit_plain (by omega)
    · exact ih h

/-! ## Reading digits -/

section Reading

variable {n pads : Nat} {rest : Bytes}

theorem read_first (h : n < 64) : read .first pads (digit n :: rest) = read (.second n) 0 rest := by
  simp [read, (digit_plain h).2.1, digit?_digit n h]

theorem read_second (bits : Nat) (h : n < 64) :
    read (.second bits) pads (digit n :: rest)
      = (read (.third (n % 16)) 0 rest).map (UInt8.ofNat (bits * 4 + n / 16) :: ·) := by
  simp [read, (digit_plain h).2.1, digit?_digit n h]

theorem read_third (bits : Nat) (h : n < 64) :
    read (.third bits) pads (digit n :: rest)
      = (read (.fourth (n % 4)) 0 rest).map (UInt8.ofNat (bits * 16 + n / 4) :: ·) := by
  simp [read, (digit_plain h).2.1, digit?_digit n h]

theorem read_fourth (bits : Nat) (h : n < 64) :
    read (.fourth bits) pads (digit n :: rest)
      = (read .first 0 rest).map (UInt8.ofNat (bits * 64 + n) :: ·) := by
  simp [read, (digit_plain h).2.1, digit?_digit n h]

end Reading

/-! ## Groups -/

/-- The bits of a byte, put together again. -/
theorem ofNat_eq {a : UInt8} {n : Nat} (h : n = a.toNat) : UInt8.ofNat n = a := by
  rw [h]
  exact UInt8.ofNat_toNat

/-- A group of three bytes. -/
theorem read_group (a b c : UInt8) (rest : Bytes) :
    read .first 0 (encode (a :: b :: c :: rest) ++ padding (encode (a :: b :: c :: rest)).length)
      = (read .first 0 (encode rest ++ padding (encode rest).length)).map (a :: b :: c :: ·) := by
  have ha := a.toNat_lt
  have hb := b.toNat_lt
  have hc := c.toNat_lt
  have hpadding : padding (encode (a :: b :: c :: rest)).length
      = padding (encode rest).length := by
    have hlength : (encode (a :: b :: c :: rest)).length = (encode rest).length + 4 := rfl
    rw [hlength, padding, padding, Nat.add_mod_right]
  rw [hpadding, encode, List.cons_append, List.cons_append, List.cons_append, List.cons_append,
    read_first (by omega), read_second _ (by omega), read_third _ (by omega),
    read_fourth _ (by omega), ofNat_eq (show _ = a.toNat by omega),
    ofNat_eq (show _ = b.toNat by omega), ofNat_eq (show _ = c.toNat by omega)]
  -- what is left is one map of three bytes against three maps of one
  cases read .first 0 (encode rest ++ padding (encode rest).length) with
  | none => rfl
  | some bytes => rfl

/-- **Bytes in base64 are read back.** -/
theorem decode?_encode (bytes : Bytes) : decode? (encode bytes) = some bytes := by
  have hbyte : ∀ a : UInt8, a.toNat < 256 := fun a => a.toNat_lt
  unfold decode?
  induction bytes using encode.induct with
  | case1 => rfl
  | case2 a =>
    have ha := hbyte a
    have hpadding : padding (encode [a]).length = [pad, pad] := rfl
    rw [hpadding, encode, List.cons_append, List.cons_append, List.nil_append,
      read_first (by omega), read_second _ (by omega), ofNat_eq (show _ = a.toNat by omega)]
    rfl
  | case3 a b =>
    have ha := hbyte a
    have hb := hbyte b
    have hpadding : padding (encode [a, b]).length = [pad] := rfl
    rw [hpadding, encode, List.cons_append, List.cons_append, List.cons_append, List.nil_append,
      read_first (by omega), read_second _ (by omega), read_third _ (by omega),
      ofNat_eq (show _ = a.toNat by omega), ofNat_eq (show _ = b.toNat by omega)]
    rfl
  | case4 a b c rest ih => rw [read_group, ih, Option.map_some]

end RelyingParty.Base64
