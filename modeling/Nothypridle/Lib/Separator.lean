import Mathlib.Data.List.Infix

/-!
# Separators

What stands before the first separator of a list, and that it is determined by the list.
-/

namespace Separator

variable {α : Type*} [DecidableEq α] {separator : α} {before before' rest rest' : List α}

theorem forall_ne (hbefore : separator ∉ before) : ∀ c ∈ before, decide (c ≠ separator) = true := by
  intro c hc
  rw [decide_eq_true_eq]
  intro heq
  subst heq
  exact hbefore hc

theorem takeWhile_append (hbefore : separator ∉ before) :
    (before ++ separator :: rest).takeWhile (· ≠ separator) = before := by
  rw [List.takeWhile_append_of_pos (forall_ne hbefore), List.takeWhile_cons_of_neg (by simp),
    List.append_nil]

theorem dropWhile_append (hbefore : separator ∉ before) :
    (before ++ separator :: rest).dropWhile (· ≠ separator) = separator :: rest := by
  rw [List.dropWhile_append_of_pos (forall_ne hbefore), List.dropWhile_cons_of_neg (by simp)]

theorem before_unique (hbefore : separator ∉ before) (hbefore' : separator ∉ before')
    (heq : before ++ separator :: rest = before' ++ separator :: rest') : before = before' := by
  calc
    before = (before ++ separator :: rest).takeWhile (· ≠ separator) :=
      (takeWhile_append hbefore).symm
    _ = (before' ++ separator :: rest').takeWhile (· ≠ separator) := by rw [heq]
    _ = before' := takeWhile_append hbefore'

/-- What is in front ends at the first separator. -/
theorem append_singleton_prefix_iff (hbefore : separator ∉ before)
    (hbefore' : separator ∉ before') :
    before ++ [separator] <+: before' ++ separator :: rest ↔ before = before' := by
  constructor
  · intro hfront
    obtain ⟨after, hafter⟩ := hfront
    rw [List.append_assoc, List.singleton_append] at hafter
    exact before_unique hbefore hbefore' hafter
  · intro heq
    subst heq
    exact ⟨rest, by rw [List.append_assoc, List.singleton_append]⟩

end Separator
