import RelyingParty.Json.Reader
import RelyingParty.Proofs.Text.Encoding

set_option autoImplicit false

/-! # Text that is nested too deep

An array inside an array, and so on past the depth that is read: `readBytes_openArrays` says that
such a text is refused for its depth, although nothing in it is closed. -/

namespace RelyingParty.Json

/-- Arrays that are opened and not closed. -/
def openArrays (n : Nat) : List Char := List.replicate n '['

theorem openArrays_succ (n : Nat) : openArrays (n + 1) = '[' :: openArrays n := rfl

theorem isAscii_openArrays (n : Nat) : Text.IsAscii (openArrays n) := by
  intro c hc
  rw [List.eq_of_mem_replicate hc]
  decide

/-- An opened array is no white space. -/
theorem skipSpace_openArrays (n : Nat) : skipSpace (openArrays n) = openArrays n := by
  cases n with
  | zero => rfl
  | succ n => rfl

/-- More arrays than may be nested are too many. -/
theorem value_openArrays {style : NumberStyle} {depth n fuel : Nat} (hn : depth < n)
    (hfuel : 2 * depth < fuel) : value style depth fuel (openArrays n) = .error .tooDeep := by
  -- a level takes two calls: one for the array, one for its first element
  induction depth generalizing n fuel with
  | zero =>
    obtain ⟨m, rfl⟩ : ∃ m, n = m + 1 := ⟨n - 1, by omega⟩
    obtain ⟨f, rfl⟩ : ∃ f, fuel = f + 1 := ⟨fuel - 1, by omega⟩
    rw [openArrays_succ, value]
    rfl
  | succ d ih =>
    obtain ⟨m, rfl⟩ : ∃ m, n = m + 2 := ⟨n - 2, by omega⟩
    obtain ⟨f, rfl⟩ : ∃ f, fuel = f + 2 := ⟨fuel - 2, by omega⟩
    have hinner : value style d f (openArrays (m + 1)) = .error .tooDeep :=
      ih (by omega) (by omega)
    have helements : elements style d (f + 1) ('[' :: openArrays m) = .error .tooDeep := by
      rw [elements, ← openArrays_succ, hinner]
    rw [openArrays_succ, value, if_neg (Nat.succ_ne_zero d), skipSpace_openArrays, openArrays_succ,
      Nat.add_sub_cancel]
    split
    · next heq => exact absurd (List.cons.inj heq).1 (by decide)
    · rw [helements]

/-- Bytes of ASCII characters are read as the characters. -/
theorem readBytes_asciiBytes {cs : List Char} (h : Text.IsAscii cs) :
    readBytes .utf8 (Text.asciiBytes cs) = read (String.ofList cs) := by
  have hdecode : Encoding.utf8.decode? (Text.asciiBytes cs) = some (String.ofList cs) :=
    Text.ofUtf8?_asciiBytes h
  rw [readBytes, hdecode]

/-- **A text of more opened arrays than may be nested is refused for its depth.** -/
theorem readBytes_openArrays {n : Nat} (h : maxDepth < n) :
    readBytes .utf8 (Text.asciiBytes (openArrays n)) = .error .tooDeep := by
  have hlength : (openArrays n).length = n := List.length_replicate
  have hvalue : value .exact maxDepth (2 * n + 1) (openArrays n) = .error .tooDeep :=
    value_openArrays h (by omega)
  rw [readBytes_asciiBytes (isAscii_openArrays n), read, readAs, String.toList_ofList,
    skipSpace_openArrays, hlength, hvalue]

end RelyingParty.Json
