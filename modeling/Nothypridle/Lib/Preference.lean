import Mathlib.Data.Set.Image
import Mathlib.Tactic.Common

/-!
# Preferring some of a list

A list narrowed to the elements that are preferred, or left as it is where none of them is. The
narrowing never empties a list, and what is kept depends on an element and on whether any element is
preferred at all.
-/

namespace Preference

variable {α : Type*} {p q : α → Bool} {l : List α} {a : α}

def preferring (p : α → Bool) (l : List α) : List α :=
  let preferred := l.filter p
  if !preferred.isEmpty then preferred else l

open Classical in
/-- What is preferred in `V`, or all of `V` where nothing is. -/
noncomputable def orElse (C V : Set α) : Set α := if C.Nonempty then C else V

theorem preferring_sublist (p : α → Bool) (l : List α) : (preferring p l).Sublist l := by
  rw [preferring]
  split
  · exact List.filter_sublist
  · exact List.Sublist.refl l

theorem mem_preferring_iff :
    a ∈ preferring p l ↔ a ∈ l ∧ ((∃ b ∈ l, p b = true) → p a = true) := by
  by_cases hsome : ∃ b ∈ l, p b = true
  · have hne : (l.filter p).isEmpty = false := by
      obtain ⟨b, hb, hpb⟩ := hsome
      exact List.isEmpty_eq_false_iff_exists_mem.mpr ⟨b, List.mem_filter.mpr ⟨hb, hpb⟩⟩
    simp only [preferring, hne, Bool.not_false, if_true, List.mem_filter, hsome, true_implies]
  · have hempty : l.filter p = [] := by
      apply List.filter_eq_nil_iff.mpr
      intro b hb hpb
      exact hsome ⟨b, hb, hpb⟩
    simp only [preferring, hempty, List.isEmpty_nil, Bool.not_true, Bool.false_eq_true, if_false,
      hsome, false_implies, and_true]

theorem setOf_mem_preferring (p : α → Bool) (l : List α) :
    {a | a ∈ preferring p l} = orElse {a | a ∈ l ∧ p a = true} {a | a ∈ l} := by
  ext a
  change a ∈ preferring p l ↔ _
  rw [mem_preferring_iff, orElse]
  split
  · rename_i hsome
    exact and_congr_right fun _ => ⟨fun h => h hsome, fun h _ => h⟩
  · rename_i hnone
    exact ⟨And.left, fun h => ⟨h, fun hsome => absurd hsome hnone⟩⟩

theorem preferring_congr (hcongr : ∀ b ∈ l, p b = q b) : preferring p l = preferring q l := by
  rw [preferring, preferring, List.filter_congr hcongr]

/-- An element that is kept where more of them are preferred is kept where only the others stop
being so. -/
theorem mem_preferring_of_le (hle : ∀ b ∈ l, p b = true → q b = true) (hsame : p a = q a)
    (hmem : a ∈ preferring q l) : a ∈ preferring p l := by
  obtain ⟨ha, hpreferred⟩ := mem_preferring_iff.mp hmem
  apply mem_preferring_iff.mpr
  refine ⟨ha, ?_⟩
  intro hsome
  obtain ⟨b, hb, hpb⟩ := hsome
  rw [hsame]
  exact hpreferred ⟨b, hb, hle b hb hpb⟩

theorem orElse_eq_empty_iff {C V : Set α} (hsubset : C ⊆ V) : orElse C V = ∅ ↔ V = ∅ := by
  rw [orElse]
  split
  · rename_i hsome
    exact iff_of_false hsome.ne_empty (hsome.mono hsubset).ne_empty
  · rfl

theorem image_orElse {β : Type*} (f : α → β) (C V : Set α) :
    Set.image f (orElse C V) = orElse (Set.image f C) (Set.image f V) := by
  by_cases hsome : C.Nonempty
  · rw [orElse, orElse, if_pos hsome, if_pos (hsome.image f)]
  · rw [orElse, orElse, if_neg hsome, if_neg fun himage => hsome (Set.image_nonempty.mp himage)]

end Preference
