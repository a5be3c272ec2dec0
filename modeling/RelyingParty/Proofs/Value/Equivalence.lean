import Mathlib.Data.List.Forall2
import RelyingParty.Proofs.Number.Exact
import RelyingParty.Proofs.Value.Equality

set_option autoImplicit false

/-! # Equality of values is an equivalence

Values are the same across types: a boolean is an integer, an integer a floating-point number, a set
a frozen set, and mappings are the same in any order. Still this is an equivalence on all values
that are properly built, whatever they are nested in: `IsProper.equalityAt`.

The proof follows the first of the values. What it needs of the others is only that they are proper:
that an element is the same as two others makes these the same, and if every element of a set is the
same as one of another set of the same size, then each of these is hit, because no two elements of
the first set can hit the same one. -/

namespace RelyingParty

/-! ## Relations like equality -/

/-- A relation is like equality at a point: it holds of the point and itself, and a related point
    has the same relations to the points of a domain. -/
structure EqualityAt {α : Type} (domain : α → Prop) (R : α → α → Prop) (x : α) : Prop where
  refl : R x x
  congr : ∀ {y z : α}, domain y → domain z → R x y → (R x z ↔ R y z)

section Relations

variable {α : Type} {domain : α → Prop} {R : α → α → Prop}

theorem EqualityAt.symm {x y : α} (h : EqualityAt domain R x) (hx : domain x) (hy : domain y)
    (hxy : R x y) : R y x :=
  (h.congr hy hx hxy).1 h.refl

/-! ### Lists, element by element -/

theorem EqualityAt.forall₂ {xs : List α} (h : ∀ x ∈ xs, EqualityAt domain R x) :
    EqualityAt (fun ys => ∀ y ∈ ys, domain y) (List.Forall₂ R) xs where
  refl := List.forall₂_same.2 fun x hx => (h x hx).refl
  congr := by
    induction xs with
    | nil =>
      intro ys zs _ _ hys
      rw [List.forall₂_nil_left_iff.1 hys]
    | cons x xs ih =>
      intro ys zs hy hz hys
      obtain ⟨hx, hxs⟩ := List.forall_mem_cons.1 h
      obtain ⟨y, ys, hxy, hrest, rfl⟩ := List.forall₂_cons_left_iff.1 hys
      obtain ⟨hy, hys⟩ := List.forall_mem_cons.1 hy
      cases zs with
      | nil => simp
      | cons z zs =>
        obtain ⟨hz, hzs⟩ := List.forall_mem_cons.1 hz
        rw [List.forall₂_cons, List.forall₂_cons, hx.congr hy hz hxy, ih hxs hys hzs hrest]

/-! ### Lists in any order -/

/-- The lists are of one length, and every element of the first is related to one of the second. -/
def Covers (R : α → α → Prop) (xs ys : List α) : Prop :=
  xs.length = ys.length ∧ ∀ x ∈ xs, ∃ y ∈ ys, R x y

/-- If no two elements are related to the same one, as many elements are hit as there are. -/
theorem exists_of_injective {xs ys : List α} (hlength : ys.length ≤ xs.length)
    (hsome : ∀ x ∈ xs, ∃ y ∈ ys, R x y)
    (honce : xs.Pairwise fun a b => ∀ y ∈ ys, R a y → ¬ R b y) :
    ∀ y ∈ ys, ∃ x ∈ xs, R x y := by
  induction xs generalizing ys with
  | nil =>
    rw [List.length_eq_zero_iff.1 (Nat.le_zero.1 hlength)]
    simp
  | cons x xs ih =>
    obtain ⟨hfirst, hrest⟩ := List.pairwise_cons.1 honce
    obtain ⟨⟨y₀, hy₀, hxy₀⟩, hsome⟩ := List.forall_mem_cons.1 hsome
    obtain ⟨before, after, rfl⟩ := List.append_of_mem hy₀
    have hsub : ∀ y ∈ before ++ after, y ∈ before ++ y₀ :: after := by
      intro y hy
      rcases List.mem_append.1 hy with hy | hy
      · exact List.mem_append_left _ hy
      · exact List.mem_append_right _ (List.mem_cons_of_mem _ hy)
    -- the others are related to what is left, and as many of it are left
    have hothers : ∀ y ∈ before ++ after, ∃ x' ∈ xs, R x' y := by
      refine ih ?_ (fun x' hx' => ?_) (hrest.imp fun h y hy => h y (hsub y hy))
      · simp only [List.length_append, List.length_cons] at hlength ⊢
        omega
      · obtain ⟨y, hy, hxy⟩ := hsome x' hx'
        have hne : y ≠ y₀ := fun heq => hfirst x' hx' y₀ hy₀ hxy₀ (heq ▸ hxy)
        refine ⟨y, ?_, hxy⟩
        rcases List.mem_append.1 hy with hy | hy
        · exact List.mem_append_left _ hy
        · exact List.mem_append_right _ ((List.mem_cons.1 hy).resolve_left hne)
    intro y hy
    by_cases heq : y = y₀
    · exact ⟨x, List.mem_cons_self .., heq ▸ hxy₀⟩
    · have hleft : y ∈ before ++ after := by
        rcases List.mem_append.1 hy with hy | hy
        · exact List.mem_append_left _ hy
        · exact List.mem_append_right _ ((List.mem_cons.1 hy).resolve_left heq)
      obtain ⟨x', hx', hxy⟩ := hothers y hleft
      exact ⟨x', List.mem_cons_of_mem _ hx', hxy⟩

/-- Two different elements are not related to the same one, so that all are hit. -/
theorem Covers.exists_of_mem {xs ys : List α} (h : Covers R xs ys) (hxs : ∀ x ∈ xs, domain x)
    (hys : ∀ y ∈ ys, domain y) (heq : ∀ x ∈ xs, EqualityAt domain R x)
    (hdistinct : xs.Pairwise fun a b => ¬ R a b) : ∀ y ∈ ys, ∃ x ∈ xs, R x y := by
  refine exists_of_injective h.1.ge h.2 ?_
  refine hdistinct.imp_of_mem fun {a b} ha hb hab y hy hay hby => ?_
  have hyb : R y b := (heq b hb).symm (hxs b hb) (hys y hy) hby
  exact hab (((heq a ha).congr (hys y hy) (hxs b hb) hay).2 hyb)

theorem EqualityAt.covers {xs : List α} (hxs : ∀ x ∈ xs, domain x)
    (h : ∀ x ∈ xs, EqualityAt domain R x) (hdistinct : xs.Pairwise fun a b => ¬ R a b) :
    EqualityAt (fun ys => ∀ y ∈ ys, domain y) (Covers R) xs where
  refl := ⟨rfl, fun x hx => ⟨x, hx, (h x hx).refl⟩⟩
  congr := by
    intro ys zs hy hz hys
    constructor
    · intro hzs
      refine ⟨hys.1.symm.trans hzs.1, fun y hmem => ?_⟩
      obtain ⟨x, hx, hxy⟩ := hys.exists_of_mem hxs hy h hdistinct y hmem
      obtain ⟨z, hmem', hxz⟩ := hzs.2 x hx
      exact ⟨z, hmem', ((h x hx).congr (hy y hmem) (hz z hmem') hxy).1 hxz⟩
    · intro hzs
      refine ⟨hys.1.trans hzs.1, fun x hx => ?_⟩
      obtain ⟨y, hmem, hxy⟩ := hys.2 x hx
      obtain ⟨z, hmem', hyz⟩ := hzs.2 y hmem
      exact ⟨z, hmem', ((h x hx).congr (hy y hmem) (hz z hmem') hxy).2 hyz⟩

end Relations

namespace Value

/-! ## Proper values -/

/-- Values as they are built: floating-point numbers are in canonical form, no set has an element
    twice, and no mapping a key. -/
inductive IsProper : Value → Prop
  | null : IsProper .null
  | bool (b : Bool) : IsProper (.bool b)
  | int (n : Int) : IsProper (.int n)
  | float {x : Binary64} (h : x.IsCanonical) : IsProper (.float x)
  | text (s : String) : IsProper (.text s)
  | brokenText (points : List Nat) : IsProper (.brokenText points)
  | list {xs : List Value} (h : ∀ x ∈ xs, IsProper x) : IsProper (.list xs)
  | tuple {xs : List Value} (h : ∀ x ∈ xs, IsProper x) : IsProper (.tuple xs)
  | set {xs : List Value} (h : ∀ x ∈ xs, IsProper x)
    (hdistinct : xs.Pairwise fun a b => ¬ a.same b = true) : IsProper (.set xs)
  | frozenSet {xs : List Value} (h : ∀ x ∈ xs, IsProper x)
    (hdistinct : xs.Pairwise fun a b => ¬ a.same b = true) : IsProper (.frozenSet xs)
  | bytes (b : Bytes) : IsProper (.bytes b)
  | dict {entries : List (Value × Value)} (hkeys : ∀ e ∈ entries, IsProper e.1)
    (h : ∀ e ∈ entries, IsProper e.2)
    (hdistinct : entries.Pairwise fun a b => ¬ a.1.same b.1 = true) : IsProper (.dict entries)
  | member (m : Member) : IsProper (.member m)
  | object (id : Nat) : IsProper (.object id)

/-- Equality of values as a relation. -/
def Same (a b : Value) : Prop := a.same b = true

/-- Equality of the entries of mappings. -/
def SameEntry (e e' : Value × Value) : Prop := Same e.1 e'.1 ∧ Same e.2 e'.2

/-- An entry of which both parts are proper. -/
def IsProperEntry (e : Value × Value) : Prop := e.1.IsProper ∧ e.2.IsProper

theorem equalityAt_entry {e : Value × Value} (hkey : EqualityAt IsProper Same e.1)
    (hvalue : EqualityAt IsProper Same e.2) : EqualityAt IsProperEntry SameEntry e where
  refl := ⟨hkey.refl, hvalue.refl⟩
  congr := fun hy hz hxy =>
    and_congr (hkey.congr hy.1 hz.1 hxy.1) (hvalue.congr hy.2 hz.2 hxy.2)

/-! ## Collections -/

theorem sameList_iff {xs ys : List Value} :
    sameList xs ys = true ↔ List.Forall₂ Same xs ys := by
  induction xs generalizing ys with
  | nil => simp [sameList]
  | cons x xs ih =>
    cases ys with
    | nil => simp [sameList]
    | cons y ys => rw [sameList, Bool.and_eq_true, List.forall₂_cons, ih, Same]

theorem allAmong_iff {xs ys : List Value} :
    allAmong xs ys = true ↔ ∀ x ∈ xs, ∃ y ∈ ys, Same x y := by
  induction xs with
  | nil => simp [allAmong]
  | cons x xs ih =>
    rw [allAmong, Bool.and_eq_true, List.any_eq_true, List.forall_mem_cons, ih]
    rfl

theorem allUnder_iff {xs ys : List (Value × Value)} :
    allUnder xs ys = true ↔ ∀ e ∈ xs, hasEntry e ys = true := by
  induction xs with
  | nil => simp [allUnder]
  | cons e xs ih => rw [allUnder, Bool.and_eq_true, List.forall_mem_cons, ih]

theorem exists_of_hasEntry {e : Value × Value} {ys : List (Value × Value)}
    (h : hasEntry e ys = true) : ∃ e' ∈ ys, SameEntry e e' := by
  rw [hasEntry] at h
  split at h
  · next e' hfind =>
    have hkey := List.find?_some (p := fun e' : Value × Value => e.1.same e'.1) hfind
    exact ⟨e', List.mem_of_find?_eq_some hfind, hkey, h⟩
  · exact absurd h (by simp)

/-- An entry that is there is found, because no other entry has its key. The entry looked for need
    only be the same as one at which equality is understood. -/
theorem hasEntry_of_mem {x : Value} (hx : EqualityAt IsProper Same x) {y z : Value × Value}
    {zs : List (Value × Value)} (hy : y.1.IsProper) (hzs : ∀ e ∈ zs, e.1.IsProper)
    (hdistinct : zs.Pairwise fun a b => ¬ Same a.1 b.1) (hxy : Same x y.1) (hz : z ∈ zs)
    (hyz : SameEntry y z) : hasEntry y zs = true := by
  induction zs with
  | nil => exact absurd hz (by simp)
  | cons first rest ih =>
    obtain ⟨hfirst, hrest⟩ := List.pairwise_cons.1 hdistinct
    obtain ⟨hproper, hothers⟩ := List.forall_mem_cons.1 hzs
    by_cases hsame : Same y.1 first.1
    · have hz : z = first := by
        rcases List.mem_cons.1 hz with heq | hz
        · exact heq
        · have hxfirst : Same x first.1 := (hx.congr hy hproper hxy).2 hsame
          have hxz : Same x z.1 := (hx.congr hy (hothers z hz) hxy).2 hyz.1
          exact absurd ((hx.congr hproper (hothers z hz) hxfirst).1 hxz) (hfirst z hz)
      rw [hasEntry, List.find?_cons_of_pos (p := fun e : Value × Value => y.1.same e.1) hsame, ← hz]
      exact hyz.2
    · have hz : z ∈ rest := by
        rcases List.mem_cons.1 hz with rfl | hz
        · exact absurd hyz.1 hsame
        · exact hz
      have hlater := ih hothers hrest hz
      rw [hasEntry] at hlater ⊢
      rw [List.find?_cons_of_neg (p := fun e : Value × Value => y.1.same e.1) hsame]
      exact hlater

/-! ## Views -/

/-- The elements of a list. -/
def listed? : Value → Option (List Value)
  | .list xs => some xs
  | _ => none

/-- The elements of a tuple. -/
def tupled? : Value → Option (List Value)
  | .tuple xs => some xs
  | _ => none

/-- The elements of a set of either kind. -/
def gathered? : Value → Option (List Value)
  | .set xs | .frozenSet xs => some xs
  | _ => none

/-- The entries of a mapping. -/
def mapped? : Value → Option (List (Value × Value))
  | .dict entries => some entries
  | _ => none

/-- Values that show something are equal if what they show is. -/
theorem equalityAt_of_view {β : Type} {f : Value → Option β} {P : β → Prop}
    {R : β → β → Prop} {v : Value} {x : β} (hv : v.IsProper) (hview : f v = some x)
    (hproper : ∀ {b y}, IsProper b → f b = some y → P y) (hx : EqualityAt P R x)
    (hsame : ∀ {a b y}, IsProper a → IsProper b → f a = some y → R x y →
      (a.same b = true ↔ ∃ z, f b = some z ∧ R y z)) :
    EqualityAt IsProper Same v where
  refl := (hsame hv hv hview hx.refl).2 ⟨x, hview, hx.refl⟩
  congr := by
    intro a b ha hb hva
    obtain ⟨y, hy, hxy⟩ := (hsame hv ha hview hx.refl).1 hva
    rw [Same, Same, hsame hv hb hview hx.refl, hsame ha hb hy hxy]
    refine exists_congr fun z => and_congr_right fun hz => ?_
    exact hx.congr (hproper ha hy) (hproper hb hz) hxy

/-- A value that only itself is the same as. -/
theorem equalityAt_of_same_iff {v : Value} (h : ∀ b : Value, v.same b = true ↔ b = v) :
    EqualityAt IsProper Same v where
  refl := (h v).2 rfl
  congr := by
    intro a b _ _ ha
    rw [(h a).1 ha]

theorem same_iff_of_numeric? {a b : Value} {n : Numeric} (h : a.numeric? = some n) :
    a.same b = true ↔ ∃ n', b.numeric? = some n' ∧ n.same n' = true := by
  cases a with
  | bool x =>
    rw [← Option.some.inj h, same]
    cases b.numeric? <;> simp
  | int x =>
    rw [← Option.some.inj h, same]
    cases b.numeric? <;> simp
  | float x =>
    rw [← Option.some.inj h, same]
    cases b.numeric? <;> simp
  | _ => exact absurd h (by simp [numeric?])

theorem IsProper.isCanonical {v : Value} (hv : v.IsProper) {n : Numeric}
    (h : v.numeric? = some n) : n.IsCanonical := by
  cases hv with
  | float hx =>
    rw [← Option.some.inj h]
    exact hx
  | bool b =>
    rw [← Option.some.inj h]
    trivial
  | int n =>
    rw [← Option.some.inj h]
    trivial
  | _ => exact absurd h (by simp [numeric?])

theorem equalityAt_of_numeric? {v : Value} (hv : v.IsProper) {n : Numeric}
    (h : v.numeric? = some n) : EqualityAt IsProper Same v := by
  refine equalityAt_of_view (f := numeric?) (P := Numeric.IsCanonical)
    (R := fun a b => a.same b = true) hv h (fun hb hy => hb.isCanonical hy) ?_
    fun _ _ hy _ => same_iff_of_numeric? hy
  have hn := hv.isCanonical h
  refine ⟨(Numeric.same_iff_worth_eq hn hn).2 rfl, fun hy hz hxy => ?_⟩
  rw [Numeric.same_iff_worth_eq hn hz, Numeric.same_iff_worth_eq hy hz,
    (Numeric.same_iff_worth_eq hn hy).1 hxy]

theorem equalityAt_of_gathered? {v : Value} (hv : v.IsProper) {xs : List Value}
    (h : v.gathered? = some xs) (hxs : ∀ x ∈ xs, x.IsProper)
    (heq : ∀ x ∈ xs, EqualityAt IsProper Same x)
    (hdistinct : xs.Pairwise fun a b => ¬ Same a b) : EqualityAt IsProper Same v := by
  refine equalityAt_of_view (f := gathered?) hv h (fun hb hy => ?_)
    (.covers hxs heq hdistinct) (fun {a b ys} _ _ hy _ => ?_)
  · cases hb with
    | set hys => exact Option.some.inj hy ▸ hys
    | frozenSet hys => exact Option.some.inj hy ▸ hys
    | _ => exact absurd hy (by simp [gathered?])
  · have hcovers (zs : List Value) :
        (ys.length == zs.length && allAmong ys zs) = true ↔ Covers Same ys zs := by
      rw [Bool.and_eq_true, beq_iff_eq, allAmong_iff, Covers]
    cases a with
    | set ys' =>
      obtain rfl := Option.some.inj hy
      cases b <;> simp [same, gathered?, ← hcovers]
    | frozenSet ys' =>
      obtain rfl := Option.some.inj hy
      cases b <;> simp [same, gathered?, ← hcovers]
    | _ => exact absurd hy (by simp [gathered?])

/-- The entries of a proper mapping, among which no two have the same key. -/
theorem entries_of_mapped? {b : Value} {ys : List (Value × Value)} (hb : IsProper b)
    (hy : mapped? b = some ys) :
    b = .dict ys ∧ (∀ e ∈ ys, IsProperEntry e) ∧ ys.Pairwise fun a b => ¬ Same a.1 b.1 := by
  cases hb with
  | dict hkeys h hdistinct =>
    rw [← Option.some.inj hy]
    exact ⟨rfl, fun e he => ⟨hkeys e he, h e he⟩, hdistinct⟩
  | _ => exact absurd hy (by simp [mapped?])

theorem equalityAt_dict {xs : List (Value × Value)} (hkeys : ∀ e ∈ xs, IsProper e.1)
    (h : ∀ e ∈ xs, IsProper e.2) (hdistinct : xs.Pairwise fun a b => ¬ Same a.1 b.1)
    (hkey : ∀ e ∈ xs, EqualityAt IsProper Same e.1)
    (hvalue : ∀ e ∈ xs, EqualityAt IsProper Same e.2) :
    EqualityAt IsProper Same (.dict xs) := by
  have hentries : ∀ e ∈ xs, IsProperEntry e := fun e he => ⟨hkeys e he, h e he⟩
  have heq : ∀ e ∈ xs, EqualityAt IsProperEntry SameEntry e :=
    fun e he => equalityAt_entry (hkey e he) (hvalue e he)
  have hdiffer : xs.Pairwise fun a b => ¬ SameEntry a b :=
    hdistinct.imp fun hab hsame => hab hsame.1
  refine equalityAt_of_view (f := mapped?) (.dict hkeys h hdistinct) rfl
    (fun hb hy => (entries_of_mapped? hb hy).2.1) (.covers hentries heq hdiffer)
    fun {a b ys} ha hb hy hxy => ?_
  obtain ⟨rfl, hys, -⟩ := entries_of_mapped? ha hy
  constructor
  · intro hsame
    cases b with
    | dict zs =>
      rw [same, Bool.and_eq_true, beq_iff_eq, allUnder_iff] at hsame
      exact ⟨zs, rfl, hsame.1, fun e he => exists_of_hasEntry (hsame.2 e he)⟩
    | _ => exact absurd hsame (by simp [same])
  · rintro ⟨zs, hz, hlength, hall⟩
    obtain ⟨rfl, hzs, hunique⟩ := entries_of_mapped? hb hz
    rw [same, Bool.and_eq_true, beq_iff_eq, allUnder_iff]
    refine ⟨hlength, fun y hy => ?_⟩
    -- the key of `y` is one of `xs`, where equality is known to be an equivalence
    obtain ⟨x, hx, hsame⟩ := hxy.exists_of_mem hentries hys heq hdiffer y hy
    obtain ⟨z, hz, hyz⟩ := hall y hy
    exact hasEntry_of_mem (hkey x hx) (hys y hy).1 (fun e he => (hzs e he).1) hunique
      hsame.1 hz hyz

/-! ## The equivalence -/

/-- **At every proper value, equality is an equivalence.** -/
theorem IsProper.equalityAt {v : Value} (h : v.IsProper) : EqualityAt IsProper Same v := by
  induction h with
  | null => exact equalityAt_of_same_iff fun b => by cases b <;> simp [same]
  | bool b => exact equalityAt_of_numeric? (.bool b) rfl
  | int n => exact equalityAt_of_numeric? (.int n) rfl
  | float h => exact equalityAt_of_numeric? (.float h) rfl
  | text s => exact equalityAt_of_same_iff fun _ => same_text_iff
  | brokenText points => exact equalityAt_of_same_iff fun _ => same_brokenText_iff
  | bytes x => exact equalityAt_of_same_iff fun b => by cases b <;> simp [same, eq_comm (a := x)]
  | member m => exact equalityAt_of_same_iff fun b => by cases b <;> simp [same, eq_comm (a := m)]
  | object id =>
    exact equalityAt_of_same_iff fun b => by cases b <;> simp [same, eq_comm (a := id)]
  | list h ih =>
    refine equalityAt_of_view (f := listed?) (.list h) rfl (fun hb hy => ?_) (.forall₂ ih)
      fun {a b ys} _ _ hy _ => ?_
    · cases hb with
      | list hys => exact Option.some.inj hy ▸ hys
      | _ => exact absurd hy (by simp [listed?])
    · cases a with
      | list ys' =>
        obtain rfl := Option.some.inj hy
        cases b <;> simp [same, listed?, sameList_iff]
      | _ => exact absurd hy (by simp [listed?])
  | tuple h ih =>
    refine equalityAt_of_view (f := tupled?) (.tuple h) rfl (fun hb hy => ?_) (.forall₂ ih)
      fun {a b ys} _ _ hy _ => ?_
    · cases hb with
      | tuple hys => exact Option.some.inj hy ▸ hys
      | _ => exact absurd hy (by simp [tupled?])
    · cases a with
      | tuple ys' =>
        obtain rfl := Option.some.inj hy
        cases b <;> simp [same, tupled?, sameList_iff]
      | _ => exact absurd hy (by simp [tupled?])
  | set h hdistinct ih => exact equalityAt_of_gathered? (.set h hdistinct) rfl h ih hdistinct
  | frozenSet h hdistinct ih =>
    exact equalityAt_of_gathered? (.frozenSet h hdistinct) rfl h ih hdistinct
  | dict hkeys h hdistinct ihkeys ih => exact equalityAt_dict hkeys h hdistinct ihkeys ih

theorem IsProper.same_self {v : Value} (h : v.IsProper) : v.same v = true := h.equalityAt.refl

theorem IsProper.same_symm {v w : Value} (hv : v.IsProper) (hw : w.IsProper)
    (h : v.same w = true) : w.same v = true :=
  hv.equalityAt.symm hv hw h

theorem IsProper.same_trans {u v w : Value} (hu : u.IsProper) (hv : v.IsProper) (hw : w.IsProper)
    (huv : u.same v = true) (hvw : v.same w = true) : u.same w = true :=
  (hu.equalityAt.congr hv hw huv).2 hvw

end Value

end RelyingParty
