import RelyingParty.Proofs.Json.Writing

set_option autoImplicit false

/-! # Whatever is written is ASCII

Stored documents are ASCII whatever is in them, also what is not read back as it was: every
character of a text that is not ASCII is escaped, and so is every half of a surrogate pair. -/

namespace RelyingParty.Json

variable {depth : Nat} {v : Value}

/-! ## Numbers -/

theorem isAscii_toDigits (n : Nat) : Text.IsAscii (Nat.toDigits 10 n) := by
  intro c hc
  have hdigit := isDigit_of_mem hc
  simp only [Char.isDigit, Bool.and_eq_true, decide_eq_true_eq] at hdigit
  have hlast : c.toNat ≤ 57 := hdigit.2
  omega

theorem isAscii_integerText {n : Int} {text : String} (h : integerText n = .ok text) :
    Text.IsAscii text.toList := by
  rcases (toList_of_integerText h).2 with ⟨htext, -⟩ | ⟨htext, -⟩
  · rw [htext]
    exact isAscii_toDigits _
  · rw [htext]
    exact Text.isAscii_cons (by decide) (isAscii_toDigits _)

theorem isAscii_zeros (n : Nat) : Text.IsAscii (List.replicate n '0') := by
  intro c hc
  rw [(List.mem_replicate.1 hc).2]
  decide

theorem isAscii_positional {digits : List Char} (h : Text.IsAscii digits) (order : Int) :
    Text.IsAscii (Binary64.positional digits order) := by
  unfold Binary64.positional
  split
  · exact Text.isAscii_cons (by decide)
      (Text.isAscii_cons (by decide) (Text.isAscii_append (isAscii_zeros _) h))
  · split
    · exact Text.isAscii_append (Text.isAscii_append h (isAscii_zeros _)) (by decide)
    · exact Text.isAscii_append (fun c hc => h c (List.mem_of_mem_take hc))
        (Text.isAscii_cons (by decide) fun c hc => h c (List.mem_of_mem_drop hc))

theorem isAscii_scientific {digits : List Char} (h : Text.IsAscii digits) (exponent : Int) :
    Text.IsAscii (Binary64.scientific digits exponent) := by
  have hmagnitude : Text.IsAscii (toString exponent.natAbs).toList := by
    rw [Nat.toString_eq_repr, Nat.toList_repr]
    exact isAscii_toDigits _
  have hpoint : Text.IsAscii
      (if digits.length ≤ 1 then digits else digits.take 1 ++ '.' :: digits.drop 1) := by
    split
    · exact h
    · exact Text.isAscii_append (fun c hc => h c (List.mem_of_mem_take hc))
        (Text.isAscii_cons (by decide) fun c hc => h c (List.mem_of_mem_drop hc))
  refine Text.isAscii_append hpoint (Text.isAscii_cons (by decide) (Text.isAscii_cons ?_ ?_))
  · split <;> decide
  · split
    · exact Text.isAscii_cons (by decide) hmagnitude
    · exact hmagnitude

/-- Digits without the zeros at their end. -/
theorem isAscii_trimmed (n : Nat) :
    Text.IsAscii ((toString n).toList.reverse.dropWhile (· = '0')).reverse := by
  intro c hc
  have hmem : c ∈ (toString n).toList :=
    List.mem_reverse.1 (List.dropWhile_subset _ (List.mem_reverse.1 hc))
  rw [Nat.toString_eq_repr, Nat.toList_repr] at hmem
  exact isAscii_toDigits n c hmem

theorem isAscii_floatText (x : Binary64) : Text.IsAscii (floatText x).toList := by
  cases x with
  | nan tag => exact (by decide : Text.IsAscii "NaN".toList)
  | infinity negative =>
    cases negative with
    | false => exact (by decide : Text.IsAscii "Infinity".toList)
    | true => exact (by decide : Text.IsAscii "-Infinity".toList)
  | finite negative m e =>
    have hmagnitude : Text.IsAscii (Binary64.magnitudeText m e) := by
      unfold Binary64.magnitudeText
      split
      · decide
      · dsimp only
        split
        · exact isAscii_positional (isAscii_trimmed _) _
        · exact isAscii_scientific (isAscii_trimmed _) _
    rw [floatText, Binary64.text, String.toList_ofList]
    refine Text.isAscii_append ?_ hmagnitude
    split <;> decide

/-! ## Texts and names -/

theorem isAscii_stringText (s : String) : Text.IsAscii (stringText true s).toList := by
  rw [stringText, String.toList_ofList]
  refine Text.isAscii_append (Text.isAscii_cons (by decide) (Text.isAscii_flatMap fun c _ => ?_))
    (by decide)
  exact isAscii_stringChar c

theorem isAscii_pointsText (points : List Nat) : Text.IsAscii (pointsText true points).toList := by
  rw [pointsText, String.toList_ofList]
  refine Text.isAscii_append (Text.isAscii_cons (by decide) (Text.isAscii_flatMap fun n _ => ?_))
    (by decide)
  split
  · exact isAscii_stringChar _
  · exact isAscii_unitEscape n

theorem isAscii_keyText {name : String} (h : keyText true v = .ok name) :
    Text.IsAscii name.toList := by
  cases v with
  | text s => exact Except.ok.inj h ▸ isAscii_stringText s
  | brokenText points => exact Except.ok.inj h ▸ isAscii_pointsText points
  | null => exact Except.ok.inj h ▸ isAscii_stringText _
  | bool b => exact Except.ok.inj h ▸ isAscii_stringText _
  | float x => exact Except.ok.inj h ▸ isAscii_stringText _
  | int n =>
    obtain ⟨text, -, rfl⟩ := map_eq_ok_iff.1 h
    exact isAscii_stringText text
  | _ => exact absurd h (by simp [keyText])

/-! ## Values -/

theorem isAscii_itemsText {texts : List String} (h : ∀ t ∈ texts, Text.IsAscii t.toList) :
    Text.IsAscii (itemsText .stored texts) := by
  induction texts with
  | nil => decide
  | cons text rest ih =>
    obtain ⟨htext, hrest⟩ := List.forall_mem_cons.1 h
    cases rest with
    | nil =>
      rw [itemsText_singleton]
      exact htext
    | cons next rest =>
      rw [itemsText_cons_cons]
      exact Text.isAscii_append htext (Text.isAscii_append (by decide) (ih hrest))

theorem isAscii_of_scalar {text : String} (hv : v.IsScalar)
    (h : writeNested .stored depth v = .ok text) : Text.IsAscii text.toList := by
  cases v with
  | null =>
    rw [writeNested] at h
    exact Except.ok.inj h ▸ (by decide : Text.IsAscii "null".toList)
  | bool b =>
    rw [writeNested] at h
    rw [← Except.ok.inj h]
    cases b with
    | false => exact (by decide : Text.IsAscii "false".toList)
    | true => exact (by decide : Text.IsAscii "true".toList)
  | int n =>
    rw [writeNested] at h
    exact isAscii_integerText h
  | float x =>
    rw [writeNested] at h
    exact Except.ok.inj h ▸ isAscii_floatText x
  | text s =>
    rw [writeNested] at h
    exact Except.ok.inj h ▸ isAscii_stringText s
  | brokenText points =>
    rw [writeNested] at h
    exact Except.ok.inj h ▸ isAscii_pointsText points
  | _ => exact hv.elim

/-- **Whatever is written is ASCII**, whatever it is made of. -/
theorem isAscii_of_writeNested {text : String} (h : writeNested .stored depth v = .ok text) :
    Text.IsAscii text.toList := by
  induction depth, v using nested_induction generalizing text with
  | scalar depth v hscalar => exact isAscii_of_scalar hscalar h
  | formless depth v hformless =>
    obtain ⟨cause, -, hcause⟩ := writeNested_of_isFormless .stored depth hformless
    exact absurd (hcause.symm.trans h) (by simp)
  | deepArray v xs harray =>
    rw [writeNested_array_zero harray] at h
    exact absurd h (by simp)
  | deepDict entries =>
    rw [writeNested_dict_zero] at h
    exact absurd h (by simp)
  | array depth v xs harray ih =>
    rw [writeNested_array_succ harray] at h
    obtain ⟨texts, htexts, rfl⟩ := map_eq_ok_iff.1 h
    have hitems : Text.IsAscii (itemsText .stored texts) :=
      isAscii_itemsText (forall_of_mapM_eq_ok (fun x hx _ htext => ih x hx htext) htexts)
    rw [String.toList_append, String.toList_append]
    exact Text.isAscii_append (Text.isAscii_append (by decide) hitems) (by decide)
  | dict depth entries ih =>
    rw [writeNested_dict_succ] at h
    obtain ⟨texts, htexts, rfl⟩ := map_eq_ok_iff.1 h
    have hmember : ∀ e ∈ entries, ∀ text, writeEntry .stored depth e = .ok text →
        Text.IsAscii text.toList := by
      intro e he text htext
      rw [writeEntry] at htext
      obtain ⟨name, hname, hrest⟩ := bind_eq_ok_iff.1 htext
      obtain ⟨value, hvalue, heq⟩ := bind_eq_ok_iff.1 hrest
      rw [← Except.ok.inj heq, String.toList_append, String.toList_append]
      exact Text.isAscii_append (Text.isAscii_append (isAscii_keyText hname) (by decide))
        (ih e he hvalue)
    have hitems : Text.IsAscii (itemsText .stored texts) :=
      isAscii_itemsText (forall_of_mapM_eq_ok hmember htexts)
    rw [String.toList_append, String.toList_append]
    exact Text.isAscii_append (Text.isAscii_append (by decide) hitems) (by decide)

end RelyingParty.Json
