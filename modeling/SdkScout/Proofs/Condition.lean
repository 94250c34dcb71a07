import SdkScout.Failure
import SdkScout.Proofs.Outcome

/-!
# Conditions in order

A check goes through its conditions one after the other and fails with the first that does not hold
(`Condition.FirstViolated`). An outcome is decided by conditions (`Condition.Decide`) if it is a
result where all of them hold, and else the failure of the first that does not; so it is told from
the conditions alone whether and how it fails. Checks in a row are decided by their conditions in a
row (`Condition.Decide.bind`, `Condition.Decide.mapM`).
-/

namespace SdkScout

/-- Something that is to hold, and the failure if it does not. -/
structure Condition where
  holds : Prop
  failure : Failure

namespace Condition

/-- The failure of the first condition that does not hold. -/
inductive FirstViolated : List Condition → Failure → Prop
  | here {c : Condition} {cs : List Condition} : ¬ c.holds → FirstViolated (c :: cs) c.failure
  | later {c : Condition} {cs : List Condition} {failure : Failure} :
    c.holds → FirstViolated cs failure → FirstViolated (c :: cs) failure

variable {c : Condition} {cs ds : List Condition} {failure : Failure} {α β : Type}
  {x : Except Failure α}

/-- A check has one of two outcomes. -/
theorem all_hold_or_firstViolated (cs : List Condition) :
    (∀ c ∈ cs, c.holds) ∨ ∃ failure, FirstViolated cs failure := by
  induction cs with
  | nil => exact .inl nofun
  | cons c cs ih =>
    by_cases hc : c.holds
    · rcases ih with hall | ⟨failure, hfirst⟩
      · exact .inl (List.forall_mem_cons.mpr ⟨hc, hall⟩)
      · exact .inr ⟨failure, .later hc hfirst⟩
    · exact .inr ⟨c.failure, .here hc⟩

theorem FirstViolated.exists_mem (h : FirstViolated cs failure) :
    ∃ c ∈ cs, ¬ c.holds ∧ c.failure = failure := by
  induction h with
  | here hc => exact ⟨_, List.mem_cons_self, hc, rfl⟩
  | later _ _ ih =>
    obtain ⟨c, hc, hfailure⟩ := ih
    exact ⟨c, List.mem_cons_of_mem _ hc, hfailure⟩

/-- Later conditions count only where all earlier ones hold. -/
theorem FirstViolated.of_append (h : FirstViolated (cs ++ ds) failure) :
    FirstViolated cs failure ∨ (∀ c ∈ cs, c.holds) ∧ FirstViolated ds failure := by
  induction cs with
  | nil => exact .inr ⟨nofun, h⟩
  | cons c cs ih =>
    cases h with
    | here hc => exact .inl (.here hc)
    | later hc h =>
      rcases ih h with hfirst | ⟨hall, hfirst⟩
      · exact .inl (.later hc hfirst)
      · exact .inr ⟨List.forall_mem_cons.mpr ⟨hc, hall⟩, hfirst⟩

/-- An outcome is a result where all conditions hold, and else the failure of the first that does
not. -/
structure Decide (cs : List Condition) (x : Except Failure α) : Prop where
  ok : (∀ c ∈ cs, c.holds) → ∃ a, x = .ok a
  error : ∀ {failure}, FirstViolated cs failure → x = .error failure

namespace Decide

theorem exists_eq_ok_iff (h : Decide cs x) : (∃ a, x = .ok a) ↔ ∀ c ∈ cs, c.holds := by
  refine ⟨fun ⟨a, ha⟩ => ?_, h.ok⟩
  rcases all_hold_or_firstViolated cs with hall | ⟨failure, hfirst⟩
  · exact hall
  · cases ha.symm.trans (h.error hfirst)

/-- The failures of a check are exactly those of a first violated condition. -/
theorem eq_error_iff (h : Decide cs x) : x = .error failure ↔ FirstViolated cs failure := by
  refine ⟨fun hx => ?_, h.error⟩
  rcases all_hold_or_firstViolated cs with hall | ⟨failure', hfirst⟩
  · obtain ⟨a, ha⟩ := h.ok hall
    cases ha.symm.trans hx
  · cases hx.symm.trans (h.error hfirst)
    exact hfirst

/-- What depends on no condition never fails. -/
theorem pure (a : α) : Decide [] (.ok a : Except Failure α) :=
  ⟨fun _ => ⟨a, rfl⟩, nofun⟩

theorem single (hok : c.holds → ∃ a, x = .ok a) (herror : ¬ c.holds → x = .error c.failure) :
    Decide [c] x where
  ok hall := hok (hall c (List.mem_singleton_self c))
  error hfirst := by
    cases hfirst with
    | here hc => exact herror hc
    | later _ hnone => cases hnone

/-- The second check is only come to if the first has a result, and may depend on it. -/
theorem bind {f : α → Except Failure β} (hx : Decide cs x)
    (hf : ∀ a, x = .ok a → Decide ds (f a)) : Decide (cs ++ ds) (x >>= f) where
  ok hall := by
    obtain ⟨hcs, hds⟩ := List.forall_mem_append.mp hall
    obtain ⟨a, ha⟩ := hx.ok hcs
    rw [ha, Except.ok_bind]
    exact (hf a ha).ok hds
  error hfirst := by
    rcases hfirst.of_append with hfirst | ⟨hcs, hfirst⟩
    · rw [hx.error hfirst, Except.error_bind]
    · obtain ⟨a, ha⟩ := hx.ok hcs
      rw [ha, Except.ok_bind]
      exact (hf a ha).error hfirst

theorem bind_pure (hx : Decide cs x) (f : α → β) : Decide cs (x >>= fun a => .ok (f a)) := by
  rw [← List.append_nil cs]
  exact hx.bind fun a _ => .pure (f a)

/-- A loop is decided by the conditions of its steps, one step after the other. -/
theorem mapM {f : α → Except Failure β} {conditions : α → List Condition}
    (hf : ∀ a, Decide (conditions a) (f a)) (xs : List α) :
    Decide (xs.flatMap conditions) (xs.mapM f) := by
  induction xs with
  | nil => exact .pure []
  | cons x xs ih =>
    rw [List.mapM_cons, List.flatMap_cons]
    exact (hf x).bind fun b _ => ih.bind_pure (b :: ·)

end Decide

end Condition

end SdkScout
