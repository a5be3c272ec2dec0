import RelyingParty.Fault

set_option autoImplicit false

/-! # Checks in sequence

Checks follow one another in `Except`: a sequence succeeds exactly if each step does, and it ends
with the error of the first step that fails. These are the equations by which the other proofs take
a sequence apart. -/

namespace RelyingParty

variable {ε ε' α β : Type}

/-! ## Sequences -/

@[simp] theorem pure_eq_ok (a : α) : (pure a : Except ε α) = .ok a := rfl

@[simp] theorem throw_eq_error (e : ε) : (throw e : Except ε α) = .error e := rfl

@[simp] theorem ok_bind (a : α) (f : α → Except ε β) : (Except.ok a >>= f) = f a := rfl

theorem bind_eq_ok_iff {x : Except ε α} {f : α → Except ε β} {b : β} :
    (x >>= f) = .ok b ↔ ∃ a, x = .ok a ∧ f a = .ok b := by
  cases x with
  | error e => simp [bind, Except.bind]
  | ok a => simp [bind, Except.bind]

/-- A check has no result but that it passes. -/
theorem check_bind_eq_ok_iff {x : Except ε Unit} {f : Unit → Except ε β} {b : β} :
    (x >>= f) = .ok b ↔ x = .ok () ∧ f () = .ok b := by
  rw [bind_eq_ok_iff]
  exact ⟨fun ⟨(), hx, hf⟩ => ⟨hx, hf⟩, fun ⟨hx, hf⟩ => ⟨(), hx, hf⟩⟩

theorem bind_eq_error_iff {x : Except ε α} {f : α → Except ε β} {e : ε} :
    (x >>= f) = .error e ↔ x = .error e ∨ ∃ a, x = .ok a ∧ f a = .error e := by
  cases x with
  | error e' => simp [bind, Except.bind]
  | ok a => simp [bind, Except.bind]

theorem check_bind_eq_error_iff {x : Except ε Unit} {f : Unit → Except ε β} {e : ε} :
    (x >>= f) = .error e ↔ x = .error e ∨ x = .ok () ∧ f () = .error e := by
  rw [bind_eq_error_iff]
  exact or_congr_right ⟨fun ⟨(), hx, hf⟩ => ⟨hx, hf⟩, fun ⟨hx, hf⟩ => ⟨(), hx, hf⟩⟩

/-- A demand that is not met ends a sequence. -/
theorem demand_eq_ok_iff {c : Prop} [Decidable c] {x : Except ε α} {e : ε} {f : β → Except ε α}
    {a : α} : (if c then x else throw e >>= f) = .ok a ↔ c ∧ x = .ok a := by
  by_cases hc : c
  · simp [hc]
  · simp [hc, bind, Except.bind]

/-! ## Results of another kind -/

theorem map_eq_ok_iff {x : Except ε α} {f : α → β} {b : β} :
    x.map f = .ok b ↔ ∃ a, x = .ok a ∧ f a = b := by
  cases x with
  | error e => simp [Except.map]
  | ok a => simp [Except.map]

theorem exists_map_eq_ok_iff {x : Except ε α} {f : α → β} :
    (∃ b, x.map f = .ok b) ↔ ∃ a, x = .ok a := by
  cases x with
  | error e => simp [Except.map]
  | ok a => simp [Except.map]

theorem map_eq_error_iff {x : Except ε α} {f : α → β} {e : ε} :
    x.map f = .error e ↔ x = .error e := by
  cases x with
  | error e' => simp [Except.map]
  | ok a => simp [Except.map]

/-! ## Errors of another kind -/

@[simp] theorem mapError_ok (f : ε → ε') (a : α) :
    (Except.ok a : Except ε α).mapError f = .ok a := rfl

@[simp] theorem mapError_error (f : ε → ε') (e : ε) :
    (Except.error e : Except ε α).mapError f = .error (f e) := rfl

theorem mapError_eq_ok_iff {x : Except ε α} {f : ε → ε'} {a : α} :
    x.mapError f = .ok a ↔ x = .ok a := by
  cases x with
  | error e => simp
  | ok b => simp

theorem mapError_eq_error_iff {x : Except ε α} {f : ε → ε'} {e' : ε'} :
    x.mapError f = .error e' ↔ ∃ e, x = .error e ∧ f e = e' := by
  cases x with
  | error e => simp
  | ok b => simp

/-- A refusal is no fault. -/
theorem mapError_refused_ne_fault {x : Except ε α} {cause : Fault} :
    x.mapError Failure.refused ≠ .error (.fault cause) := by
  rw [ne_eq, mapError_eq_error_iff]
  rintro ⟨e, -, he⟩
  exact absurd he (by simp)

theorem mapError_refused_eq_iff {x : Except ε α} {e : ε} :
    x.mapError Failure.refused = .error (.refused e) ↔ x = .error e := by
  rw [mapError_eq_error_iff]
  simp

/-- A reason of another kind leaves faults as they are. -/
theorem mapError_map_eq_fault_iff {x : Except (Failure ε) α} {f : ε → ε'} {cause : Fault} :
    x.mapError (Failure.map f) = .error (.fault cause) ↔ x = .error (.fault cause) := by
  rw [mapError_eq_error_iff]
  constructor
  · rintro ⟨e, he, hf⟩
    cases e with
    | refused reason => exact absurd hf (by simp [Failure.map])
    | fault cause' =>
      obtain rfl := Failure.fault.inj hf
      exact he
  · intro h
    exact ⟨_, h, rfl⟩

/-! ## The same step for each element of a list -/

theorem mapM_cons_eq_ok_iff {f : α → Except ε β} {x : α} {xs : List α} {ys : List β} :
    (x :: xs).mapM f = .ok ys ↔ ∃ y rest, f x = .ok y ∧ xs.mapM f = .ok rest ∧ y :: rest = ys := by
  rw [List.mapM_cons, bind_eq_ok_iff]
  simp only [bind_eq_ok_iff, pure_eq_ok, Except.ok.injEq, exists_and_left]

theorem mapM_cons_eq_error_iff {f : α → Except ε β} {x : α} {xs : List α} {e : ε} :
    (x :: xs).mapM f = .error e ↔ f x = .error e ∨ (∃ y, f x = .ok y) ∧ xs.mapM f = .error e := by
  rw [List.mapM_cons, bind_eq_error_iff]
  refine or_congr_right ⟨?_, ?_⟩
  · rintro ⟨y, hy, hrest⟩
    refine ⟨⟨y, hy⟩, ?_⟩
    rcases bind_eq_error_iff.1 hrest with h | ⟨ys, -, h⟩
    · exact h
    · exact absurd h (by simp)
  · rintro ⟨⟨y, hy⟩, hrest⟩
    exact ⟨y, hy, bind_eq_error_iff.2 (Or.inl hrest)⟩

/-- All steps succeed if each does. -/
theorem exists_mapM_eq_ok_iff {f : α → Except ε β} {xs : List α} :
    (∃ ys, xs.mapM f = .ok ys) ↔ ∀ x ∈ xs, ∃ y, f x = .ok y := by
  induction xs with
  | nil => simp
  | cons x xs ih =>
    rw [List.forall_mem_cons, ← ih]
    constructor
    · rintro ⟨ys, h⟩
      obtain ⟨y, rest, hy, hrest, -⟩ := mapM_cons_eq_ok_iff.1 h
      exact ⟨⟨y, hy⟩, ⟨rest, hrest⟩⟩
    · rintro ⟨⟨y, hy⟩, ⟨rest, hrest⟩⟩
      exact ⟨_, mapM_cons_eq_ok_iff.2 ⟨y, rest, hy, hrest, rfl⟩⟩

/-- What each step gives is the same for all of them. -/
theorem forall_of_mapM_eq_ok {f : α → Except ε β} {P : β → Prop} {xs : List α}
    {ys : List β} (hf : ∀ x ∈ xs, ∀ y, f x = .ok y → P y) (h : xs.mapM f = .ok ys) :
    ∀ y ∈ ys, P y := by
  induction xs generalizing ys with
  | nil =>
    rw [← Except.ok.inj h]
    simp
  | cons x xs ih =>
    obtain ⟨hfirst, hrest⟩ := List.forall_mem_cons.1 hf
    obtain ⟨y, rest, hy, htail, rfl⟩ := mapM_cons_eq_ok_iff.1 h
    exact List.forall_mem_cons.2 ⟨hfirst y hy, ih hrest htail⟩

/-- Something is so of a result exactly if it is so of what the result comes from. -/
theorem exists_mem_iff_of_mapM {f : α → Except ε β} {P : β → Prop} {Q : α → Prop}
    {xs : List α} {ys : List β} (hf : ∀ x ∈ xs, ∀ y, f x = .ok y → (P y ↔ Q x))
    (h : xs.mapM f = .ok ys) : (∃ y ∈ ys, P y) ↔ ∃ x ∈ xs, Q x := by
  induction xs generalizing ys with
  | nil =>
    rw [← Except.ok.inj h]
    simp
  | cons x xs ih =>
    obtain ⟨hfirst, hrest⟩ := List.forall_mem_cons.1 hf
    obtain ⟨y, rest, hy, htail, rfl⟩ := mapM_cons_eq_ok_iff.1 h
    simp only [List.mem_cons, exists_eq_or_imp, hfirst y hy, ih hrest htail]

/-- The error is that of the first step that fails. -/
theorem mapM_eq_error_iff {f : α → Except ε β} {xs : List α} {e : ε} :
    xs.mapM f = .error e ↔ ∃ before x after, xs = before ++ x :: after
      ∧ (∀ y ∈ before, ∃ z, f y = .ok z) ∧ f x = .error e := by
  induction xs with
  | nil => simp
  | cons x xs ih =>
    rw [mapM_cons_eq_error_iff, ih]
    constructor
    · rintro (hx | ⟨hx, before, y, after, rfl, hbefore, hy⟩)
      · exact ⟨[], x, xs, rfl, by simp, hx⟩
      · exact ⟨x :: before, y, after, rfl, List.forall_mem_cons.2 ⟨hx, hbefore⟩, hy⟩
    · rintro ⟨before, y, after, hsplit, hbefore, hy⟩
      cases before with
      | nil =>
        obtain ⟨rfl, -⟩ := List.cons.inj hsplit
        exact Or.inl hy
      | cons first before =>
        obtain ⟨rfl, rfl⟩ := List.cons.inj hsplit
        obtain ⟨hfirst, hbefore⟩ := List.forall_mem_cons.1 hbefore
        exact Or.inr ⟨hfirst, before, y, after, rfl, hbefore, hy⟩

theorem mapM_eq_self {f : α → Except ε α} {xs : List α} (h : ∀ x ∈ xs, f x = .ok x) :
    xs.mapM f = .ok xs := by
  induction xs with
  | nil => rfl
  | cons x xs ih =>
    obtain ⟨hx, hxs⟩ := List.forall_mem_cons.1 h
    exact mapM_cons_eq_ok_iff.2 ⟨x, xs, hx, ih hxs, rfl⟩

theorem eq_self_of_mapM {f : α → Except ε α} {xs ys : List α}
    (hself : ∀ x ∈ xs, ∀ y, f x = .ok y → y = x) (h : xs.mapM f = .ok ys) : ys = xs := by
  induction xs generalizing ys with
  | nil => exact (Except.ok.inj h).symm
  | cons x xs ih =>
    obtain ⟨hfirst, hrest⟩ := List.forall_mem_cons.1 hself
    obtain ⟨y, rest, hy, htail, rfl⟩ := mapM_cons_eq_ok_iff.1 h
    rw [hfirst y hy, ih hrest htail]

/-! ## Results and errors -/

theorem exists_ok_iff {x : Except ε α} : (∃ a, x = .ok a) ↔ ¬ ∃ e, x = .error e := by
  cases x with
  | ok a => simp
  | error e => simp

/-- What neither succeeds nor is refused is a fault. -/
theorem ok_or_refused_iff {x : Except (Failure ε) α} :
    ((∃ a, x = .ok a) ∨ ∃ reason, x = .error (.refused reason)) ↔
      ¬ ∃ cause, x = .error (.fault cause) := by
  rcases x with (_ | _) | _
  · simp
  · simp
  · simp

/-- A sequence breaks off at the first step that does. -/
theorem bind_fault_iff {x : Except (Failure ε) α} {f : α → Except (Failure ε) β} :
    (∃ cause, (x >>= f) = .error (.fault cause)) ↔
      (∃ cause, x = .error (.fault cause))
        ∨ ∃ a, x = .ok a ∧ ∃ cause, f a = .error (.fault cause) := by
  simp only [bind_eq_error_iff, exists_or]
  refine or_congr_right ⟨?_, ?_⟩
  · rintro ⟨cause, a, ha, hcause⟩
    exact ⟨a, ha, cause, hcause⟩
  · rintro ⟨a, ha, cause, hcause⟩
    exact ⟨cause, a, ha, hcause⟩

/-- What succeeds has a result. -/
theorem exists_ok_of_toOption {x : Except ε α} {p : α → Bool}
    (h : (x.toOption.any p) = true) : ∃ a, x = .ok a ∧ p a = true := by
  cases x with
  | error e => simp [Except.toOption] at h
  | ok a => exact ⟨a, rfl, by simpa [Except.toOption] using h⟩

end RelyingParty
