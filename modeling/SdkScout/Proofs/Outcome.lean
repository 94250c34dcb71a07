import Mathlib.Data.List.Forall2

/-!
# Outcomes

A loop over fallible steps ends at the first step that fails. `Except.ofFailure?` is the normal form
of such a loop: a failure, if there is one, or else a result that is computed without failures. Two
loops in a row are in the normal form if each of them is (`Except.ofFailure?_or`).
-/

namespace Except

variable {ε α β : Type}

/-- The failure of an outcome, if it is one. -/
def failure? : Except ε α → Option ε
  | .ok _ => none
  | .error e => some e

/-- A failure, or else a result. -/
def ofFailure? (failure : Option ε) (result : α) : Except ε α :=
  match failure with
  | some e => .error e
  | none => .ok result

/-- Outcomes that fail in the same way, or have results that are related. -/
inductive Corresponds (R : α → β → Prop) : Except ε α → Except ε β → Prop
  | ok {a : α} {b : β} : R a b → Corresponds R (.ok a) (.ok b)
  | error (e : ε) : Corresponds R (.error e) (.error e)

@[simp] theorem failure?_ok (a : α) : (Except.ok a : Except ε α).failure? = none := rfl

@[simp] theorem failure?_error (e : ε) : (Except.error e : Except ε α).failure? = some e := rfl

@[simp] theorem ofFailure?_none (a : α) : (ofFailure? none a : Except ε α) = .ok a := rfl

@[simp] theorem ofFailure?_some (e : ε) (a : α) : ofFailure? (some e) a = .error e := rfl

@[simp] theorem ok_bind (a : α) (f : α → Except ε β) : (Except.ok a >>= f) = f a := rfl

@[simp] theorem error_bind (e : ε) (f : α → Except ε β) : (Except.error e >>= f) = .error e := rfl

@[simp] theorem pure_eq_ok (a : α) : (pure a : Except ε α) = .ok a := rfl

@[simp] theorem map_ok_eq (f : α → β) (a : α) : (Except.ok a : Except ε α).map f = .ok (f a) := rfl

@[simp] theorem map_error_eq (f : α → β) (e : ε) :
    (Except.error e : Except ε α).map f = .error e := rfl

@[simp] theorem toOption_ok (a : α) : (Except.ok a : Except ε α).toOption = some a := rfl

@[simp] theorem toOption_error (e : ε) : (Except.error e : Except ε α).toOption = none := rfl

theorem bind_eq_ok_iff {x : Except ε α} {f : α → Except ε β} {b : β} :
    x >>= f = .ok b ↔ ∃ a, x = .ok a ∧ f a = .ok b := by
  cases x <;> simp

theorem bind_eq_error_iff {x : Except ε α} {f : α → Except ε β} {e : ε} :
    x >>= f = .error e ↔ x = .error e ∨ ∃ a, x = .ok a ∧ f a = .error e := by
  cases x <;> simp

theorem map_eq_ok_iff {x : Except ε α} {f : α → β} {b : β} :
    x.map f = .ok b ↔ ∃ a, x = .ok a ∧ f a = b := by
  cases x <;> simp

theorem map_eq_error_iff {x : Except ε α} {f : α → β} {e : ε} :
    x.map f = .error e ↔ x = .error e := by
  cases x <;> simp

theorem failure?_eq_some_iff {x : Except ε α} {e : ε} : x.failure? = some e ↔ x = .error e := by
  cases x <;> simp

theorem failure?_eq_none_iff_exists {x : Except ε α} : x.failure? = none ↔ ∃ a, x = .ok a := by
  cases x <;> simp

/-- Without a failure there is a result. -/
theorem failure?_eq_none_iff {x : Except ε α} (d : α) :
    x.failure? = none ↔ x = .ok (x.toOption.getD d) := by
  cases x <;> simp

theorem toOption_eq_some_iff {x : Except ε α} {a : α} : x.toOption = some a ↔ x = .ok a := by
  cases x <;> simp

theorem ofFailure?_eq_error_iff {failure : Option ε} {a : α} {e : ε} :
    ofFailure? failure a = .error e ↔ failure = some e := by
  cases failure <;> simp

theorem ofFailure?_eq_ok_iff {failure : Option ε} {a b : α} :
    ofFailure? failure a = .ok b ↔ failure = none ∧ a = b := by
  cases failure <;> simp

theorem Corresponds.refl {R : α → α → Prop} (hR : ∀ a, R a a) :
    (x : Except ε α) → x.Corresponds R x
  | .ok a => .ok (hR a)
  | .error e => .error e

theorem Corresponds.exists_of_ok {R : α → β → Prop} {a : α} {y : Except ε β}
    (h : (Except.ok a).Corresponds R y) : ∃ b, y = .ok b ∧ R a b := by
  cases h with
  | ok h => exact ⟨_, rfl, h⟩

/-- Where one outcome fails, the other fails in the same way. -/
theorem Corresponds.eq_error {R : α → β → Prop} {e : ε} {y : Except ε β}
    (h : (Except.error e).Corresponds R y) : y = .error e := by
  cases h
  rfl

/-- What goes on alike after related results has the same outcome. -/
theorem Corresponds.bind_mapError {R : α → β → Prop} {γ ε' : Type} {x : Except ε α} {y : Except ε β}
    {g : ε → ε'} {f : α → Except ε' γ} {f' : β → Except ε' γ} (h : x.Corresponds R y)
    (hf : ∀ a b, R a b → f a = f' b) : x.mapError g >>= f = y.mapError g >>= f' := by
  cases h with
  | ok h => exact hf _ _ h
  | error e => rfl

/-- One loop after another. -/
theorem ofFailure?_or (first second : Option ε) (a : α) :
    ofFailure? (first.or second) a = ofFailure? first () >>= fun _ => ofFailure? second a := by
  cases first <;> rfl

/-- A loop that collects the results of its steps. -/
theorem mapM_eq_ofFailure? (f : α → Except ε β) (xs : List α) :
    xs.mapM f = ofFailure? (xs.findSome? fun x => (f x).failure?)
      (xs.filterMap fun x => (f x).toOption) := by
  induction xs with
  | nil => rfl
  | cons x xs ih =>
    rw [List.mapM_cons, ih, List.findSome?_cons, List.filterMap_cons]
    cases f x with
    | error _ => rfl
    | ok b => cases xs.findSome? fun x => (f x).failure? <;> rfl

/-- A loop depends on nothing but its steps. -/
theorem mapM_congr {f g : α → Except ε β} {xs : List α} (h : ∀ x ∈ xs, f x = g x) :
    xs.mapM f = xs.mapM g := by
  induction xs with
  | nil => rfl
  | cons x xs ih =>
    rw [List.mapM_cons, List.mapM_cons, h x List.mem_cons_self,
      ih fun y hy => h y (List.mem_cons_of_mem x hy)]

/-- A loop fails at the first step that fails. -/
theorem mapM_eq_error_iff {f : α → Except ε β} {xs : List α} {e : ε} :
    xs.mapM f = .error e ↔ ∃ before x after, xs = before ++ x :: after ∧
      (∀ y ∈ before, ∃ b, f y = .ok b) ∧ f x = .error e := by
  simp only [mapM_eq_ofFailure?, ofFailure?_eq_error_iff, List.findSome?_eq_some_iff,
    failure?_eq_some_iff, failure?_eq_none_iff_exists]
  constructor
  · rintro ⟨before, x, after, rfl, hx, hbefore⟩
    exact ⟨before, x, after, rfl, hbefore, hx⟩
  · rintro ⟨before, x, after, rfl, hbefore, hx⟩
    exact ⟨before, x, after, rfl, hx, hbefore⟩

/-- A loop has a result if all its steps have one, in their order. -/
theorem mapM_eq_ok_iff {f : α → Except ε β} {xs : List α} {bs : List β} :
    xs.mapM f = .ok bs ↔ List.Forall₂ (fun x b => f x = .ok b) xs bs := by
  induction xs generalizing bs with
  | nil => cases bs <;> simp
  | cons x xs ih =>
    simp only [List.mapM_cons, bind_eq_ok_iff, pure_eq_ok, ok.injEq, List.forall₂_cons_left_iff, ih]
    constructor
    · rintro ⟨b, hb, rest, hrest, rfl⟩
      exact ⟨b, rest, hb, hrest, rfl⟩
    · rintro ⟨b, rest, hb, hrest, rfl⟩
      exact ⟨b, hb, rest, hrest, rfl⟩

theorem mapM_eq_ok_iff_map {f : α → Except ε β} {xs : List α} {bs : List β} (d : β) :
    xs.mapM f = .ok bs ↔
      (∀ x ∈ xs, ∃ b, f x = .ok b) ∧ bs = xs.map fun x => (f x).toOption.getD d := by
  rw [mapM_eq_ok_iff]
  constructor
  · intro h
    induction h with
    | nil => simp
    | cons hb _ ih =>
      obtain ⟨hall, rfl⟩ := ih
      simpa [hb] using hall
  · rintro ⟨hall, rfl⟩
    rw [List.forall₂_map_right_iff, List.forall₂_same]
    intro x hx
    obtain ⟨b, hb⟩ := hall x hx
    simp [hb]

/-- Whether a loop has a result does not depend on the order of its steps. -/
theorem exists_mapM_eq_ok_iff {f : α → Except ε β} {xs : List α} :
    (∃ bs, xs.mapM f = .ok bs) ↔ ∀ x ∈ xs, ∃ b, f x = .ok b := by
  simp [mapM_eq_ofFailure?, ofFailure?_eq_ok_iff, failure?_eq_none_iff_exists]

end Except
