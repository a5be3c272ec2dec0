import RelyingParty.Proofs.Json.Numbers
import RelyingParty.Proofs.Json.Strings
import RelyingParty.Proofs.Steps

set_option autoImplicit false

/-! # Written JSON is read back

The reader takes the text of a built value apart again, whatever white space the layout has after
its separators. `Reads` is the invariant: wherever the text stands, if only what may follow a value
follows it, the value is read and what follows is left. Each constructor of built values keeps it,
for lists and mappings by an induction over their items.

`readBytes_of_write` puts this together with the encodings of stored profiles. -/

namespace RelyingParty.Json

/-! ## Layouts -/

/-- Nothing but white space. -/
def IsSpace (cs : List Char) : Prop := ∀ c ∈ cs, isSpace c = true

instance (cs : List Char) : Decidable (IsSpace cs) :=
  List.decidableBAll (fun c : Char => isSpace c = true) cs

/-- White space is ASCII. -/
theorem IsSpace.isAscii {cs : List Char} (h : IsSpace cs) : Text.IsAscii cs := by
  intro c hc
  have hspace := h c hc
  simp only [isSpace, Bool.or_eq_true, beq_iff_eq] at hspace
  rcases hspace with ((rfl | rfl) | rfl) | rfl
  · decide
  · decide
  · decide
  · decide

/-- The separators of a layout are a comma and a colon, with nothing but white space after them. -/
structure Layout.IsPlain (layout : Layout) : Prop where
  items : ∃ space, layout.itemSeparator.toList = ',' :: space ∧ IsSpace space
  names : ∃ space, layout.nameSeparator.toList = ':' :: space ∧ IsSpace space

theorem isPlain_stored : Layout.stored.IsPlain :=
  ⟨⟨[' '], rfl, by decide⟩, ⟨[' '], rfl, by decide⟩⟩

/-! ## What is written -/

section Writing

variable {layout : Layout} {depth : Nat} {text : String} {texts : List String}

/-- Something is written inside another thing unless it is too deep there. -/
theorem nested_eq_ok_iff {written : Except WriteError (List String)} {f : List String → String} :
    (do
      if depth = 0 then throw .tooDeep
      let texts ← written
      return f texts : Except WriteError String) = .ok text ↔
      depth ≠ 0 ∧ ∃ texts, written = .ok texts ∧ f texts = text := by
  by_cases hdepth : depth = 0
  · simp [hdepth, bind, Except.bind]
  · rw [if_neg hdepth]
    show ((written >>= fun texts => pure (f texts)) = .ok text) ↔ _
    rw [bind_eq_ok_iff]
    simp only [pure_eq_ok, Except.ok.injEq]
    exact ⟨fun h => ⟨hdepth, h⟩, fun h => h.2⟩

theorem writeNested_list_eq_ok_iff {xs : List Value} :
    writeNested layout depth (.list xs) = .ok text ↔
      depth ≠ 0 ∧ ∃ texts, writeAll layout (depth - 1) xs = .ok texts
        ∧ "[" ++ layout.itemSeparator.intercalate texts ++ "]" = text := by
  rw [writeNested]
  exact nested_eq_ok_iff

theorem writeNested_dict_eq_ok_iff {entries : List (Value × Value)} :
    writeNested layout depth (.dict entries) = .ok text ↔
      depth ≠ 0 ∧ ∃ texts, writeEntries layout (depth - 1) entries = .ok texts
        ∧ "\x7b" ++ layout.itemSeparator.intercalate texts ++ "\x7d" = text := by
  rw [writeNested]
  exact nested_eq_ok_iff

theorem writeAll_cons_eq_ok_iff {x : Value} {xs : List Value} :
    writeAll layout depth (x :: xs) = .ok texts ↔
      ∃ t ts, writeNested layout depth x = .ok t ∧ writeAll layout depth xs = .ok ts
        ∧ t :: ts = texts := by
  rw [writeAll, bind_eq_ok_iff]
  simp only [bind_eq_ok_iff, pure_eq_ok, Except.ok.injEq, exists_and_left]

theorem writeEntries_cons_eq_ok_iff {k v : Value} {entries : List (Value × Value)} :
    writeEntries layout depth ((k, v) :: entries) = .ok texts ↔
      ∃ name t ts, keyText layout.asciiOnly k = .ok name ∧ writeNested layout depth v = .ok t
        ∧ writeEntries layout depth entries = .ok ts
        ∧ (name ++ layout.nameSeparator ++ t) :: ts = texts := by
  rw [writeEntries, bind_eq_ok_iff, writeEntry]
  simp only [bind_eq_ok_iff, pure_eq_ok, Except.ok.injEq, exists_and_left]
  constructor
  · rintro ⟨_, ⟨name, hname, t, ht, rfl⟩, ts, hts, rfl⟩
    exact ⟨name, hname, t, ht, ts, hts, rfl⟩
  · rintro ⟨name, hname, t, ht, ts, hts, rfl⟩
    exact ⟨_, ⟨name, hname, t, ht, rfl⟩, ts, hts, rfl⟩

end Writing

/-! ## What is read -/

section Reading

variable {style : NumberStyle} {depth fuel : Nat} {cs space after : List Char} {name x : Value}

theorem skipSpace_cons {c : Char} (h : isSpace c = false) (cs : List Char) :
    skipSpace (c :: cs) = c :: cs :=
  List.dropWhile_cons_of_neg (by rw [h]; exact Bool.false_ne_true)

/-- A text starts with a character that is neither white space nor a closing bracket. -/
def Starts (cs : List Char) : Prop := ∃ c rest, cs = c :: rest ∧ isSpace c = false ∧ c ≠ ']'

theorem Starts.append (h : Starts cs) (rest : List Char) : Starts (cs ++ rest) := by
  obtain ⟨c, more, rfl, hc⟩ := h
  exact ⟨c, more ++ rest, rfl, hc⟩

theorem Starts.skipSpace (h : Starts cs) : Json.skipSpace cs = cs := by
  obtain ⟨c, more, rfl, hspace, -⟩ := h
  exact skipSpace_cons hspace more

theorem Starts.skipSpace_append (h : Starts cs) (hspace : IsSpace space) :
    Json.skipSpace (space ++ cs) = cs := by
  rw [Json.skipSpace, List.dropWhile_append_of_pos hspace]
  exact h.skipSpace

theorem value_nil_list (rest : List Char) :
    value style (depth + 1) (fuel + 1) ('[' :: ']' :: rest) = .ok (.list [], rest) := by
  rw [value]
  rfl

theorem value_list {xs : List Value} (hstart : Starts cs)
    (h : elements style depth fuel cs = .ok (xs, after)) :
    value style (depth + 1) (fuel + 1) ('[' :: cs) = .ok (.list xs, after) := by
  obtain ⟨c, rest, rfl, hspace, hclose⟩ := hstart
  rw [value, if_neg (Nat.succ_ne_zero depth), skipSpace_cons hspace, Nat.add_sub_cancel]
  split
  · next heq => exact absurd (List.cons.inj heq).1 hclose
  · rw [h]

theorem value_nil_dict (rest : List Char) :
    value style (depth + 1) (fuel + 1) ('\x7b' :: '\x7d' :: rest) = .ok (.dict [], rest) := by
  rw [value]
  rfl

theorem value_dict {entries : List (Value × Value)}
    (h : members style depth fuel ('"' :: cs) = .ok (entries, after)) :
    value style (depth + 1) (fuel + 1) ('\x7b' :: '"' :: cs)
      = .ok (.dict (Entries.ofPairs entries), after) := by
  rw [value, if_neg (Nat.succ_ne_zero depth), skipSpace_cons (by decide), Nat.add_sub_cancel]
  split
  · next heq => exact absurd (List.cons.inj heq).1 (by decide)
  · rw [h]

theorem elements_last (h : value style depth fuel cs = .ok (x, ']' :: after)) :
    elements style depth (fuel + 1) cs = .ok ([x], after) := by
  rw [elements, h]
  rfl

theorem elements_cons {rest : List Char} {xs : List Value}
    (h : value style depth fuel cs = .ok (x, ',' :: (space ++ rest))) (hspace : IsSpace space)
    (hrest : Starts rest) (hxs : elements style depth fuel rest = .ok (xs, after)) :
    elements style depth (fuel + 1) cs = .ok (x :: xs, after) := by
  rw [elements, h]
  simp only [skipSpace_cons (c := ',') (by decide), hrest.skipSpace_append hspace, hxs]

theorem members_last {quoted : List Char}
    (hname : stringBody quoted = some (name, ':' :: (space ++ cs))) (hspace : IsSpace space)
    (hstart : Starts cs) (h : value style depth fuel cs = .ok (x, '\x7d' :: after)) :
    members style depth (fuel + 1) ('"' :: quoted) = .ok ([(name, x)], after) := by
  rw [members, hname]
  simp only [skipSpace_cons (c := ':') (by decide), hstart.skipSpace_append hspace, h]
  rfl

theorem members_cons {quoted rest space' : List Char} {entries : List (Value × Value)}
    (hname : stringBody quoted = some (name, ':' :: (space ++ cs))) (hspace : IsSpace space)
    (hstart : Starts cs) (h : value style depth fuel cs = .ok (x, ',' :: (space' ++ rest)))
    (hspace' : IsSpace space') (hrest : Starts rest)
    (hentries : members style depth fuel rest = .ok (entries, after)) :
    members style depth (fuel + 1) ('"' :: quoted) = .ok ((name, x) :: entries, after) := by
  rw [members, hname]
  simp only [skipSpace_cons (c := ':') (by decide), hstart.skipSpace_append hspace, h,
    skipSpace_cons (c := ',') (by decide), hrest.skipSpace_append hspace', hentries]

end Reading

/-! ## Items -/

/-- The items of a list or a mapping, between its brackets. -/
def itemsText (layout : Layout) (texts : List String) : List Char :=
  (layout.itemSeparator.intercalate texts).toList

theorem itemsText_singleton (layout : Layout) (text : String) :
    itemsText layout [text] = text.toList := by
  rw [itemsText, String.intercalate_singleton]

theorem itemsText_cons_cons (layout : Layout) (text next : String) (texts : List String) :
    itemsText layout (text :: next :: texts)
      = text.toList ++ (layout.itemSeparator.toList ++ itemsText layout (next :: texts)) := by
  rw [itemsText, String.intercalate_cons_cons, String.toList_append, String.toList_append,
    List.append_assoc]
  rfl

section Items

variable {layout : Layout} {asciiOnly : Bool} {depth : Nat} {text space : List Char}
  {texts : List String}

/-- A text is read as a value wherever it stands, if it is closed. -/
structure ReadsAs (asciiOnly : Bool) (depth : Nat) (text : List Char) (v : Value) : Prop where
  ascii : asciiOnly = true → Text.IsAscii text
  starts : Starts text
  read : ∀ fuel rest, 2 * text.length ≤ fuel → Closes rest →
    value .exact depth fuel (text ++ rest) = .ok (v, rest)

/-- A text is read as the elements of an array. -/
structure ElementsReadAs (asciiOnly : Bool) (depth : Nat) (text : List Char) (xs : List Value) :
    Prop where
  ascii : asciiOnly = true → Text.IsAscii text
  starts : Starts text
  read : ∀ fuel rest, 2 * text.length < fuel →
    elements .exact depth fuel (text ++ ']' :: rest) = .ok (xs, rest)

/-- A text is read as the members of an object. -/
structure MembersReadAs (asciiOnly : Bool) (depth : Nat) (text : List Char)
    (entries : List (Value × Value)) : Prop where
  ascii : asciiOnly = true → Text.IsAscii text
  quoted : ∃ more, text = '"' :: more
  read : ∀ fuel rest, 2 * text.length < fuel →
    members .exact depth fuel (text ++ '\x7d' :: rest) = .ok (entries, rest)

/-- What a value is written as is read as the value. -/
def Reads (layout : Layout) (v : Value) : Prop :=
  ∀ depth text, writeNested layout depth v = .ok text →
    ReadsAs layout.asciiOnly depth text.toList v

/-- A separator between texts. -/
theorem isAscii_separated {c : Char} {more : List Char} (hc : c.toNat < 0x80)
    (hspace : IsSpace space) (htext : Text.IsAscii text) (hmore : Text.IsAscii more) :
    Text.IsAscii (text ++ c :: (space ++ more)) :=
  Text.isAscii_append htext (Text.isAscii_cons hc (Text.isAscii_append hspace.isAscii hmore))

theorem ElementsReadAs.singleton {x : Value} (h : ReadsAs asciiOnly depth text x) :
    ElementsReadAs asciiOnly depth text [x] := by
  refine ⟨h.ascii, h.starts, fun fuel rest hfuel => ?_⟩
  obtain ⟨fuel, rfl⟩ : ∃ f, fuel = f + 1 := ⟨fuel - 1, by omega⟩
  exact elements_last (h.read fuel _ (by omega) (closes_bracket rest))

theorem ElementsReadAs.cons {x : Value} {xs : List Value} {more : List Char}
    (h : ReadsAs asciiOnly depth text x) (hspace : IsSpace space)
    (hxs : ElementsReadAs asciiOnly depth more xs) :
    ElementsReadAs asciiOnly depth (text ++ ',' :: (space ++ more)) (x :: xs) := by
  refine ⟨fun hascii => isAscii_separated (by decide) hspace (h.ascii hascii) (hxs.ascii hascii),
    h.starts.append _, fun fuel rest hfuel => ?_⟩
  simp only [List.length_append, List.length_cons] at hfuel
  obtain ⟨fuel, rfl⟩ : ∃ f, fuel = f + 1 := ⟨fuel - 1, by omega⟩
  rw [List.append_assoc, List.cons_append, List.append_assoc]
  -- the comma closes the element, and the fuel that is left is enough for both
  exact elements_cons (h.read fuel _ (by omega) (closes_comma _)) hspace (hxs.starts.append _)
    (hxs.read fuel rest (by omega))

/-- **The elements of a list are read back** if each of them is. -/
theorem elementsReadAs_of_writeAll (hlayout : layout.IsPlain) {xs : List Value} (hne : xs ≠ [])
    (hxs : ∀ x ∈ xs, Reads layout x) (h : writeAll layout depth xs = .ok texts) :
    ElementsReadAs layout.asciiOnly depth (itemsText layout texts) xs := by
  induction xs generalizing texts with
  | nil => exact absurd rfl hne
  | cons x rest ih =>
    obtain ⟨t, ts, ht, hts, rfl⟩ := writeAll_cons_eq_ok_iff.1 h
    have hx : ReadsAs layout.asciiOnly depth t.toList x := hxs x (List.mem_cons_self ..) depth t ht
    cases rest with
    | nil =>
      rw [writeAll] at hts
      rw [← Except.ok.inj hts, itemsText_singleton]
      exact .singleton hx
    | cons y rest =>
      have hrest := ih (List.cons_ne_nil y rest) (fun z hz => hxs z (List.mem_cons_of_mem _ hz)) hts
      obtain ⟨u, us, -, -, rfl⟩ := writeAll_cons_eq_ok_iff.1 hts
      obtain ⟨space, hseparator, hspace⟩ := hlayout.items
      rw [itemsText_cons_cons, hseparator, List.cons_append]
      exact .cons hx hspace hrest

/-- A member between its quotes and its value. -/
def memberText (name : String) (space text : List Char) : List Char :=
  name.toList ++ ':' :: (space ++ text)

theorem isAscii_memberText {name : String} {k : Value} (hname : Quotes asciiOnly name k)
    (hascii : asciiOnly = true) (hspace : IsSpace space) (htext : Text.IsAscii text) :
    Text.IsAscii (memberText name space text) := by
  obtain ⟨body, hbody, hquoted, -⟩ := hname.body
  rw [memberText, hbody]
  exact isAscii_separated (by decide) hspace (Text.isAscii_cons (by decide) (hquoted hascii)) htext

theorem MembersReadAs.starts {entries : List (Value × Value)}
    (h : MembersReadAs asciiOnly depth text entries) : Starts text := by
  obtain ⟨more, rfl⟩ := h.quoted
  exact ⟨'"', more, rfl, by decide, by decide⟩

theorem MembersReadAs.singleton {name : String} {k x : Value} (hname : Quotes asciiOnly name k)
    (hspace : IsSpace space) (h : ReadsAs asciiOnly depth text x) :
    MembersReadAs asciiOnly depth (memberText name space text) [(k, x)] := by
  obtain ⟨body, hbody, -, hread⟩ := hname.body
  refine ⟨fun hascii => isAscii_memberText hname hascii hspace (h.ascii hascii),
    ⟨_, by rw [memberText, hbody, List.cons_append]⟩, fun fuel rest hfuel => ?_⟩
  rw [memberText, hbody, List.cons_append] at hfuel ⊢
  simp only [List.length_append, List.length_cons] at hfuel
  obtain ⟨fuel, rfl⟩ : ∃ f, fuel = f + 1 := ⟨fuel - 1, by omega⟩
  rw [List.cons_append, List.append_assoc, List.cons_append, List.append_assoc]
  exact members_last (hread _) hspace (h.starts.append _)
    (h.read fuel _ (by omega) (closes_brace rest))

theorem MembersReadAs.cons {name : String} {k x : Value} {entries : List (Value × Value)}
    {space' more : List Char} (hname : Quotes asciiOnly name k) (hspace : IsSpace space)
    (h : ReadsAs asciiOnly depth text x) (hspace' : IsSpace space')
    (hentries : MembersReadAs asciiOnly depth more entries) :
    MembersReadAs asciiOnly depth (memberText name space text ++ ',' :: (space' ++ more))
      ((k, x) :: entries) := by
  obtain ⟨body, hbody, -, hread⟩ := hname.body
  refine ⟨fun hascii => isAscii_separated (by decide) hspace'
    (isAscii_memberText hname hascii hspace (h.ascii hascii)) (hentries.ascii hascii),
    ⟨_, by rw [memberText, hbody, List.cons_append, List.cons_append]⟩, fun fuel rest hfuel => ?_⟩
  rw [memberText, hbody, List.cons_append] at hfuel ⊢
  simp only [List.length_append, List.length_cons] at hfuel
  obtain ⟨fuel, rfl⟩ : ∃ f, fuel = f + 1 := ⟨fuel - 1, by omega⟩
  simp only [List.cons_append, List.append_assoc]
  exact members_cons (hread _) hspace (h.starts.append _)
    (h.read fuel _ (by omega) (closes_comma _)) hspace' (hentries.starts.append _)
    (hentries.read fuel rest (by omega))

/-- **The members of a mapping are read back** if its keys are strings and each value is. -/
theorem membersReadAs_of_writeEntries (hlayout : layout.IsPlain)
    {entries : List (Value × Value)} (hne : entries ≠ []) (hkeys : ∀ e ∈ entries, e.1.IsString)
    (hvalues : ∀ e ∈ entries, Reads layout e.2)
    (h : writeEntries layout depth entries = .ok texts) :
    MembersReadAs layout.asciiOnly depth (itemsText layout texts) entries := by
  induction entries generalizing texts with
  | nil => exact absurd rfl hne
  | cons e rest ih =>
    obtain ⟨k, x⟩ := e
    obtain ⟨name, t, ts, hname, ht, hts, rfl⟩ := writeEntries_cons_eq_ok_iff.1 h
    obtain ⟨space, hseparator, hspace⟩ := hlayout.names
    have hquotes : Quotes layout.asciiOnly name k :=
      quotes_of_keyText (hkeys _ (List.mem_cons_self ..)) hname
    have hx : ReadsAs layout.asciiOnly depth t.toList x :=
      hvalues _ (List.mem_cons_self ..) depth t ht
    have htext : (name ++ layout.nameSeparator ++ t).toList = memberText name space t.toList := by
      rw [String.toList_append, String.toList_append, List.append_assoc, hseparator]
      rfl
    cases rest with
    | nil =>
      rw [writeEntries] at hts
      rw [← Except.ok.inj hts, itemsText_singleton, htext]
      exact .singleton hquotes hspace hx
    | cons e rest =>
      have hrest := ih (List.cons_ne_nil e rest)
        (fun e' he' => hkeys e' (List.mem_cons_of_mem _ he'))
        (fun e' he' => hvalues e' (List.mem_cons_of_mem _ he')) hts
      obtain ⟨k', x'⟩ := e
      obtain ⟨_, _, us, -, -, -, rfl⟩ := writeEntries_cons_eq_ok_iff.1 hts
      obtain ⟨space', hseparator', hspace'⟩ := hlayout.items
      rw [itemsText_cons_cons, htext, hseparator', List.cons_append]
      exact .cons hquotes hspace hx hspace' hrest

end Items

/-! ## Values -/

section Values

variable {layout : Layout} {asciiOnly : Bool} {depth : Nat}

theorem readsAs_of_quotes {text : String} {v : Value} (h : Quotes asciiOnly text v) :
    ReadsAs asciiOnly depth text.toList v := by
  obtain ⟨body, hbody, hquoted, hread⟩ := h.body
  rw [hbody]
  refine ⟨fun hascii => Text.isAscii_cons (by decide) (hquoted hascii),
    ⟨'"', body, rfl, by decide, by decide⟩, fun fuel rest hfuel _ => ?_⟩
  rw [List.length_cons] at hfuel
  obtain ⟨fuel, rfl⟩ : ∃ f, fuel = f + 1 := ⟨fuel - 1, by omega⟩
  rw [List.cons_append, value, hread]

theorem readsAs_of_integerText {n : Int} {text : String} (h : integerText n = .ok text) :
    ReadsAs asciiOnly depth text.toList (.int n) := by
  have hne : ∀ c ∈ text.toList, c.toNat < 0x80 ∧ isSpace c = false ∧ c ≠ ']' := by
    intro c hc
    rcases mem_of_integerText h hc with rfl | hdigit
    · decide
    · have hne : ∀ d : Char, d.isDigit = false → c ≠ d := fun d => ne_of_isDigit hdigit
      simp only [Char.isDigit, Bool.and_eq_true, decide_eq_true_eq] at hdigit
      have hlast : c.toNat ≤ 57 := hdigit.2
      refine ⟨by omega, ?_, hne ']' rfl⟩
      simp [isSpace, hne ' ' rfl, hne '\t' rfl, hne '\n' rfl, hne '\r' rfl]
  obtain ⟨c, cs, hcs⟩ := List.exists_cons_of_ne_nil (ne_nil_of_integerText h)
  have hc : c ∈ text.toList := by rw [hcs]; exact List.mem_cons_self ..
  refine ⟨fun _ c hc => (hne c hc).1, ⟨c, cs, hcs, (hne c hc).2⟩,
    fun fuel rest hfuel hrest => ?_⟩
  rw [hcs, List.length_cons] at hfuel
  obtain ⟨fuel, rfl⟩ : ∃ f, fuel = f + 1 := ⟨fuel - 1, by omega⟩
  exact value_of_integerText h hrest

/-- A word stands for a constant. -/
theorem readsAs_word {word : List Char} {v : Value} (hascii : Text.IsAscii word)
    (hstart : Starts word)
    (hread : ∀ fuel rest, value .exact depth (fuel + 1) (word ++ rest) = .ok (v, rest)) :
    ReadsAs asciiOnly depth word v := by
  refine ⟨fun _ => hascii, hstart, fun fuel rest hfuel _ => ?_⟩
  obtain ⟨c, cs, rfl, -⟩ := hstart
  rw [List.length_cons] at hfuel
  obtain ⟨fuel, rfl⟩ : ∃ f, fuel = f + 1 := ⟨fuel - 1, by omega⟩
  exact hread fuel rest

theorem readsAs_null : ReadsAs asciiOnly depth "null".toList .null :=
  readsAs_word (by decide) ⟨'n', _, rfl, by decide, by decide⟩ fun fuel rest => by
    show value .exact depth (fuel + 1) ('n' :: 'u' :: 'l' :: 'l' :: rest) = _
    rw [value]

theorem readsAs_bool (b : Bool) :
    ReadsAs asciiOnly depth (if b then "true" else "false").toList (.bool b) := by
  cases b with
  | true =>
    refine readsAs_word (by decide) ⟨'t', _, rfl, by decide, by decide⟩ fun fuel rest => ?_
    show value .exact depth (fuel + 1) ('t' :: 'r' :: 'u' :: 'e' :: rest) = _
    rw [value]
  | false =>
    refine readsAs_word (by decide) ⟨'f', _, rfl, by decide, by decide⟩ fun fuel rest => ?_
    show value .exact depth (fuel + 1) ('f' :: 'a' :: 'l' :: 's' :: 'e' :: rest) = _
    rw [value]

theorem writeNested_member (layout : Layout) (depth : Nat) (m : Member) :
    writeNested layout depth (.member m) = .error (.value m.enumeration.name) := by
  simp only [writeNested, Value.typeName]

theorem readsAs_list (hlayout : layout.IsPlain) {texts : List String} {xs : List Value}
    (hxs : ∀ x ∈ xs, Reads layout x) (h : writeAll layout depth xs = .ok texts) :
    ReadsAs layout.asciiOnly (depth + 1) ('[' :: (itemsText layout texts ++ [']'])) (.list xs) := by
  cases xs with
  | nil =>
    rw [writeAll] at h
    rw [← Except.ok.inj h, itemsText, String.intercalate_nil]
    exact readsAs_word (by decide) ⟨'[', _, rfl, by decide, by decide⟩
      fun fuel rest => value_nil_list rest
  | cons x rest =>
    have hitems := elementsReadAs_of_writeAll hlayout (List.cons_ne_nil x rest) hxs h
    refine ⟨fun hascii => Text.isAscii_cons (by decide)
        (Text.isAscii_append (hitems.ascii hascii) (by decide)),
      ⟨'[', _, rfl, by decide, by decide⟩, fun fuel after hfuel _ => ?_⟩
    simp only [List.length_cons, List.length_append] at hfuel
    obtain ⟨fuel, rfl⟩ : ∃ f, fuel = f + 1 := ⟨fuel - 1, by omega⟩
    rw [List.cons_append, List.append_assoc, List.singleton_append]
    exact value_list (hitems.starts.append _) (hitems.read fuel after (by omega))

theorem readsAs_dict (hlayout : layout.IsPlain) {texts : List String}
    {entries : List (Value × Value)} (hkeys : ∀ e ∈ entries, e.1.IsString)
    (hdistinct : (Entries.keys entries).Nodup) (hvalues : ∀ e ∈ entries, Reads layout e.2)
    (h : writeEntries layout depth entries = .ok texts) :
    ReadsAs layout.asciiOnly (depth + 1) ('\x7b' :: (itemsText layout texts ++ ['\x7d']))
      (.dict entries) := by
  cases entries with
  | nil =>
    rw [writeEntries] at h
    rw [← Except.ok.inj h, itemsText, String.intercalate_nil]
    exact readsAs_word (by decide) ⟨'\x7b', _, rfl, by decide, by decide⟩
      fun fuel rest => value_nil_dict rest
  | cons e rest =>
    have hitems := membersReadAs_of_writeEntries hlayout (List.cons_ne_nil e rest) hkeys hvalues h
    refine ⟨fun hascii => Text.isAscii_cons (by decide)
        (Text.isAscii_append (hitems.ascii hascii) (by decide)),
      ⟨'\x7b', _, rfl, by decide, by decide⟩, fun fuel after hfuel _ => ?_⟩
    simp only [List.length_cons, List.length_append] at hfuel
    obtain ⟨fuel, rfl⟩ : ∃ f, fuel = f + 1 := ⟨fuel - 1, by omega⟩
    obtain ⟨more, hmore⟩ := hitems.quoted
    have hread := hitems.read fuel after (by omega)
    rw [hmore, List.cons_append] at hread
    rw [hmore, List.cons_append, List.append_assoc, List.singleton_append, List.cons_append,
      value_dict hread, Value.ofPairs_eq_self_of_isString hkeys hdistinct]

/-- **What a built value is written as is read as the value.** -/
theorem reads_of_built (hlayout : layout.IsPlain) {allowed : Value → Prop} {v : Value}
    (hv : v.Built allowed) : Reads layout v := by
  intro depth text h
  -- the items of a list or a mapping are written one level deeper, so the depth varies
  induction hv generalizing depth text with
  | null =>
    rw [writeNested] at h
    rw [← Except.ok.inj h]
    exact readsAs_null
  | bool b =>
    rw [writeNested] at h
    rw [← Except.ok.inj h]
    exact readsAs_bool b
  | int n =>
    rw [writeNested] at h
    exact readsAs_of_integerText h
  | string hs =>
    rw [writeNested_eq_keyText hs] at h
    exact readsAs_of_quotes (quotes_of_keyText hs h)
  | member m =>
    -- a member has no JSON of its own
    rw [writeNested_member] at h
    exact absurd h (by simp)
  | list _ ih =>
    obtain ⟨hdepth, texts, htexts, rfl⟩ := writeNested_list_eq_ok_iff.1 h
    obtain ⟨depth, rfl⟩ := Nat.exists_eq_succ_of_ne_zero hdepth
    rw [String.toList_append, String.toList_append, List.append_assoc]
    exact readsAs_list hlayout ih htexts
  | dict hkeys hdistinct _ ih =>
    obtain ⟨hdepth, texts, htexts, rfl⟩ := writeNested_dict_eq_ok_iff.1 h
    obtain ⟨depth, rfl⟩ := Nat.exists_eq_succ_of_ne_zero hdepth
    rw [String.toList_append, String.toList_append, List.append_assoc]
    exact readsAs_dict hlayout (fun e he => (hkeys e he).1) hdistinct ih htexts

end Values

/-! ## Documents -/

variable {allowed : Value → Prop} {v : Value} {text : String}

theorem isAscii_of_write (hv : v.Built allowed) (h : write .stored v = .ok text) :
    Text.IsAscii text.toList :=
  (reads_of_built isPlain_stored hv maxDepth text h).ascii rfl

/-- **A document is read back**, in whatever layout it is written. -/
theorem read_of_write {layout : Layout} (hlayout : layout.IsPlain) (hv : v.Built allowed)
    (h : write layout v = .ok text) : read text = .ok v := by
  have hreads := reads_of_built hlayout hv maxDepth text h
  have hvalue := hreads.read (2 * text.toList.length + 1) [] (by omega) closes_nil
  rw [List.append_nil] at hvalue
  rw [read, readAs, hreads.starts.skipSpace, hvalue]
  rfl

/-- **A document is read back from its bytes** in each of the encodings of stored profiles. -/
theorem readBytes_of_write {e : Encoding} (he : e ∈ Encoding.ofProfiles) (hv : v.Built allowed)
    (h : write .stored v = .ok text) {bytes : Bytes} (hbytes : e.encode? text = some bytes) :
    readBytes e bytes = .ok v := by
  obtain ⟨bytes', hencode, hdecode⟩ :=
    Encoding.decode?_encode?_of_ascii he (isAscii_of_write hv h)
  rw [String.ofList_toList] at hencode hdecode
  obtain rfl := Option.some.inj (hbytes.symm.trans hencode)
  rw [readBytes, hdecode]
  exact read_of_write isPlain_stored hv h

end RelyingParty.Json
