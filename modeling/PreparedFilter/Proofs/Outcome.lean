import Mathlib.Data.List.Forall2

/-!
# Computations that may fail

When a computation in `Except` ends with a value, its parts do too. When it fails, it ends with the
first of the errors that its parts may come to, in their order (`EndsAt`; `firstOr` where the value
is known, too).
-/

namespace PreparedFilter

variable {ε ε' α β : Type}

/-- A computation in two steps succeeds when both do. -/
theorem bind_eq_ok_iff {x : Except ε α} {f : α → Except ε β} {b : β} :
    (x >>= f) = .ok b ↔ ∃ a, x = .ok a ∧ f a = .ok b := by
  cases x <;> simp [bind, Except.bind]

/-- A computation in two steps fails when one of them does. -/
theorem bind_eq_error_iff {x : Except ε α} {f : α → Except ε β} {e : ε} :
    (x >>= f) = .error e ↔ x = .error e ∨ ∃ a, x = .ok a ∧ f a = .error e := by
  cases x <;> simp [bind, Except.bind]

theorem mapError_eq_ok_iff {f : ε → ε'} {x : Except ε α} {a : α} :
    x.mapError f = .ok a ↔ x = .ok a := by
  cases x <;> simp [Except.mapError]

theorem mapError_eq_error_iff {f : ε → ε'} {x : Except ε α} {e' : ε'} :
    x.mapError f = .error e' ↔ ∃ e, x = .error e ∧ f e = e' := by
  cases x <;> simp [Except.mapError]

/-- A computation on every member of a list succeeds when it does on each. -/
theorem mapM_eq_ok_iff {f : α → Except ε β} : ∀ {l : List α} {r : List β},
    l.mapM f = .ok r ↔ List.Forall₂ (fun a b => f a = .ok b) l r
  | [], r => by
    rw [List.mapM_nil]
    constructor
    · intro h
      cases h
      exact .nil
    · intro h
      cases h
      rfl
  | a :: l, r => by
    rw [List.mapM_cons, bind_eq_ok_iff]
    simp only [bind_eq_ok_iff, mapM_eq_ok_iff]
    constructor
    · rintro ⟨b, hb, bs, hbs, h⟩
      cases h
      exact .cons hb hbs
    · intro h
      cases h with
      | cons hb hbs => exact ⟨_, hb, _, hbs, rfl⟩

/-- A computation on every member of a list fails only if it does on one of them. -/
theorem exists_mem_of_mapM_eq_error {f : α → Except ε β} {l : List α} {e : ε}
    (h : l.mapM f = .error e) : ∃ a ∈ l, f a = .error e := by
  induction l with
  | nil => cases h
  | cons a l ih =>
    rw [List.mapM_cons, bind_eq_error_iff] at h
    rcases h with head | ⟨b, -, tail⟩
    · exact ⟨a, List.mem_cons_self, head⟩
    · rcases bind_eq_error_iff.mp tail with later | ⟨bs, -, last⟩
      · obtain ⟨a', mem, fails⟩ := ih later
        exact ⟨a', List.mem_cons_of_mem a mem, fails⟩
      · cases last

/-- A computation ends with the first of some errors, or with a value if there are none. -/
def EndsAt (errors : List ε) (x : Except ε α) : Prop :=
  match errors with
  | [] => ∃ a, x = .ok a
  | e :: _ => x = .error e

/-- The errors of the second step come after those of the first. -/
theorem EndsAt.bind {errors later : List ε} {x : Except ε α} {f : α → Except ε β}
    (hx : EndsAt errors x) (hf : ∀ a, x = .ok a → EndsAt later (f a)) :
    EndsAt (errors ++ later) (x >>= f) := by
  cases errors with
  | nil =>
    obtain ⟨a, rfl⟩ := hx
    exact hf a rfl
  | cons e errors =>
    cases hx
    exact rfl

/-- A last step that cannot fail adds no error. -/
theorem EndsAt.bind_ok {errors : List ε} {x : Except ε α} {f : α → Except ε β}
    (hx : EndsAt errors x) (hf : ∀ a, x = .ok a → ∃ b, f a = .ok b) : EndsAt errors (x >>= f) := by
  rw [← List.append_nil errors]
  exact hx.bind hf

theorem EndsAt.ok_iff {errors : List ε} {x : Except ε α} (h : EndsAt errors x) :
    (∃ a, x = .ok a) ↔ errors = [] := by
  cases errors with
  | nil => exact iff_of_true h rfl
  | cons e errors =>
    cases h
    exact iff_of_false nofun nofun

theorem EndsAt.mem_of_error {errors : List ε} {x : Except ε α} {e : ε} (h : EndsAt errors x)
    (fails : x = .error e) : e ∈ errors := by
  cases errors with
  | nil =>
    obtain ⟨a, rfl⟩ := h
    cases fails
  | cons first errors =>
    cases h
    cases fails
    exact List.mem_cons_self

/-- A computation fails exactly by the first of its errors. -/
theorem EndsAt.error_iff {errors : List ε} {x : Except ε α} {e : ε} (h : EndsAt errors x) :
    x = .error e ↔ errors.head? = some e := by
  cases errors with
  | nil =>
    obtain ⟨a, rfl⟩ := h
    exact iff_of_false nofun nofun
  | cons first errors =>
    cases h
    rw [Except.error.injEq, List.head?_cons, Option.some.injEq]

/-- The errors at the members of a list come in their order. -/
theorem EndsAt.mapM {f : α → Except ε β} {errorsAt : α → List ε}
    (h : ∀ a, EndsAt (errorsAt a) (f a)) (l : List α) :
    EndsAt (l.flatMap errorsAt) (l.mapM f) := by
  induction l with
  | nil => exact ⟨[], rfl⟩
  | cons a l ih =>
    rw [List.mapM_cons, List.flatMap_cons]
    exact (h a).bind fun b _ => ih.bind_ok fun bs _ => ⟨b :: bs, rfl⟩

/-- The error of a computation, if it fails. -/
def errorsOf (x : Except ε α) : List ε :=
  match x with
  | .error e => [e]
  | .ok _ => []

theorem endsAt_errorsOf (x : Except ε α) : EndsAt (errorsOf x) x := by
  cases x with
  | error e => exact rfl
  | ok a => exact ⟨a, rfl⟩

/-! ## Two computations -/

section

variable {γ δ : Type} {errors : ε → ε' → Prop} {values : α → β → Prop}

/-- Two computations end alike: both with values or both with errors, which are related. -/
inductive Alike (errors : ε → ε' → Prop) (values : α → β → Prop) :
    Except ε α → Except ε' β → Prop where
  | ok {a : α} {b : β} (related : values a b) : Alike errors values (.ok a) (.ok b)
  | error {e : ε} {e' : ε'} (related : errors e e') : Alike errors values (.error e) (.error e')

/-- Computations in two steps end alike if both steps do. -/
theorem Alike.bind {later : γ → δ → Prop} {x : Except ε α} {y : Except ε' β}
    {f : α → Except ε γ} {g : β → Except ε' δ} (first : Alike errors values x y)
    (second : ∀ a b, values a b → Alike errors later (f a) (g b)) :
    Alike errors later (x >>= f) (y >>= g) := by
  cases first with
  | ok related => exact second _ _ related
  | error related => exact .error related

/-- Computations that end alike end alike with their errors reported. -/
theorem Alike.mapError {ε₁ ε₂ : Type} {reports : ε₁ → ε₂ → Prop} {f : ε → ε₁} {g : ε' → ε₂}
    {x : Except ε α} {y : Except ε' β} (h : Alike errors values x y)
    (reported : ∀ e e', errors e e' → reports (f e) (g e')) :
    Alike reports values (x.mapError f) (y.mapError g) := by
  cases h with
  | ok related => exact .ok related
  | error related => exact .error (reported _ _ related)

theorem Alike.refl {errors : ε → ε → Prop} (same : ∀ e, errors e e) (x : Except ε α) :
    Alike errors Eq x x := by
  cases x with
  | error e => exact .error (same e)
  | ok a => exact .ok rfl

/-- Computations that end alike end with the same value. -/
theorem Alike.ok_iff {x : Except ε α} {y : Except ε' α} (h : Alike errors Eq x y) {a : α} :
    x = .ok a ↔ y = .ok a := by
  cases h with
  | ok related => rw [related, Except.ok.injEq, Except.ok.injEq]
  | error related => exact iff_of_false nofun nofun

/-- Computations that end alike at every member of a list end alike on the list. -/
theorem Alike.mapM {f : α → Except ε γ} {g : α → Except ε' γ} {l : List α}
    (h : ∀ a ∈ l, Alike errors Eq (f a) (g a)) : Alike errors Eq (l.mapM f) (l.mapM g) := by
  induction l with
  | nil => exact .ok rfl
  | cons a l ih =>
    rw [List.mapM_cons, List.mapM_cons]
    refine (h a List.mem_cons_self).bind fun b b' hb => ?_
    refine (ih fun a' mem => h a' (List.mem_cons_of_mem a mem)).bind fun bs bs' hbs => ?_
    rw [hb, hbs]
    exact .ok rfl

end

/-! ## The first of the errors, or a value -/

/-- Ends with the first of some errors, or with a value if there are none. -/
def firstOr (errors : List ε) (value : α) : Except ε α :=
  match errors with
  | [] => .ok value
  | e :: _ => .error e

variable {errors later : List ε} {a : α} {b : β}

@[simp] theorem firstOr_nil : firstOr ([] : List ε) a = .ok a := rfl

/-- The errors of the second step come after those of the first. -/
theorem firstOr_bind {f : α → Except ε β} (h : f a = firstOr later b) :
    (firstOr errors a >>= f) = firstOr (errors ++ later) b := by
  cases errors with
  | nil => exact h
  | cons e errors => rfl

/-- A last step that cannot fail adds no error. -/
theorem firstOr_bind_ok {f : α → Except ε β} (h : f a = .ok b) :
    (firstOr errors a >>= f) = firstOr errors b := by
  cases errors with
  | nil => exact h
  | cons e errors => rfl

theorem mapError_firstOr (f : ε → ε') :
    (firstOr errors a).mapError f = firstOr (errors.map f) a := by
  cases errors <;> rfl

/-- The errors at the members of a list come in their order. -/
theorem mapM_eq_firstOr {f : α → Except ε β} {errorsAt : α → List ε} {g : α → β}
    (h : ∀ a, f a = firstOr (errorsAt a) (g a)) (l : List α) :
    l.mapM f = firstOr (l.flatMap errorsAt) (l.map g) := by
  induction l with
  | nil => rfl
  | cons a l ih =>
    rw [List.mapM_cons, h a, ih, List.flatMap_cons]
    exact firstOr_bind (firstOr_bind_ok rfl)

/-- A last part without errors adds none. -/
theorem flatMap_append_of_eq_nil {f : α → List ε} (l : List α) (quiet : f a = []) :
    (l ++ [a]).flatMap f = l.flatMap f := by
  rw [List.flatMap_append, List.flatMap_singleton, quiet, List.append_nil]

theorem firstOr_eq_ok_iff {c : α} : firstOr errors a = .ok c ↔ errors = [] ∧ c = a := by
  cases errors with
  | nil =>
    rw [firstOr_nil, Except.ok.injEq]
    exact ⟨fun h => ⟨rfl, h.symm⟩, fun h => h.2.symm⟩
  | cons e errors => exact ⟨nofun, fun h => nomatch h.1⟩

theorem firstOr_eq_error_iff {e : ε} : firstOr errors a = .error e ↔ errors.head? = some e := by
  cases errors with
  | nil => exact ⟨nofun, nofun⟩
  | cons first errors => rw [firstOr, Except.error.injEq, List.head?_cons, Option.some.injEq]

end PreparedFilter
