import Mathlib.Algebra.BigOperators.Group.List.Basic
import Mathlib.Algebra.GroupWithZero.Nat
import Mathlib.Data.Nat.Notation

/-!
# Replacing one entry of a list

What a list shows after one of its entries, which is there, has been replaced: the new entry, the
same list if the entry is the old one, the same view where both look alike, and a total or a
selection that has moved by the difference of the two.
-/

namespace Entries

variable {α β : Type*} {l : List α} {i : ℕ} {old new : α}

theorem getElem?_set_of_some (hget : l[i]? = some old) (new : α) : (l.set i new)[i]? = some new :=
  List.getElem?_set_self (List.getElem?_eq_some_iff.mp hget).1

theorem set_of_getElem? (hget : l[i]? = some old) : l.set i old = l := by
  obtain ⟨hlt, rfl⟩ := List.getElem?_eq_some_iff.mp hget
  exact List.set_getElem_self hlt

/-- What an entry is replaced by does not show in what both have in common. -/
theorem map_set_eq (f : α → β) (hget : l[i]? = some old) (hsame : f new = f old) :
    (l.set i new).map f = l.map f := by
  rw [List.map_set, hsame, ← List.map_set, set_of_getElem? hget]

theorem sum_map_set (f : α → ℕ) (hget : l[i]? = some old) (new : α) :
    ((l.set i new).map f).sum + f old = (l.map f).sum + f new := by
  induction l generalizing i with
  | nil => cases hget
  | cons a l ih =>
      cases i with
      | zero =>
          obtain rfl := Option.some.inj hget
          simp only [List.set_cons_zero, List.map_cons, List.sum_cons]
          omega
      | succ i =>
          have hrest := ih hget
          simp only [List.set_cons_succ, List.map_cons, List.sum_cons]
          omega

/-- What is picked from the list moves by what is picked from the two entries. -/
theorem filterMap_set_perm (f : α → Option β) (hget : l[i]? = some old) (new : α) :
    ((l.set i new).filterMap f ++ (f old).toList).Perm (l.filterMap f ++ (f new).toList) := by
  have hcons : ∀ (a : α) (l : List α), (a :: l).filterMap f = (f a).toList ++ l.filterMap f := by
    intro a l
    rw [List.filterMap_cons]
    cases f a <;> rfl
  induction l generalizing i with
  | nil => cases hget
  | cons a l ih =>
      cases i with
      | zero =>
          obtain rfl := Option.some.inj hget
          rw [List.set_cons_zero, hcons, hcons]
          calc ((f new).toList ++ l.filterMap f) ++ (f a).toList
              = (f new).toList ++ (l.filterMap f ++ (f a).toList) := List.append_assoc _ _ _
            List.Perm _ ((l.filterMap f ++ (f a).toList) ++ (f new).toList) :=
              List.perm_append_comm
            List.Perm _ (((f a).toList ++ l.filterMap f) ++ (f new).toList) :=
              List.perm_append_comm.append_right _
      | succ i =>
          rw [List.set_cons_succ, hcons, hcons, List.append_assoc, List.append_assoc]
          exact (ih hget).append_left _

end Entries
