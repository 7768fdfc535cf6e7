import Mathlib.Data.List.Basic
import Mathlib.Order.Notation

/-!
# Extrema with a default

Folding `min` over a list from a value above all of it yields the minimum of the list, and that
value itself only where the list is empty; dually for `max`. The default is then in band, and the
minimum of a part of the list can be compared with the minimum of the whole through it.
-/

namespace Extrema

variable {α β γ δ : Type*} [LE α] [Std.IsLinearOrder α] {l part : List α}

/-! ### Folds -/

theorem foldl_min_eq_getD [Min α] [Std.LawfulOrderMin α] {top : α} (htop : ∀ a ∈ l, a ≤ top) :
    l.foldl min top = l.min?.getD top := by
  rw [List.foldl_min]
  cases hmin : l.min? with
  | none => exact Std.min_self
  | some a =>
      have hmem := (List.min?_eq_some_iff.mp hmin).1
      exact Std.le_antisymm Std.min_le_right (Std.le_min_iff.mpr ⟨htop a hmem, Std.le_refl a⟩)

theorem foldl_max_eq_getD [Max α] [Std.LawfulOrderMax α] {bottom : α}
    (hbottom : ∀ a ∈ l, bottom ≤ a) : l.foldl max bottom = l.max?.getD bottom := by
  rw [List.foldl_max]
  cases hmax : l.max? with
  | none => exact Std.max_self
  | some a =>
      have hmem := (List.max?_eq_some_iff.mp hmax).1
      exact Std.le_antisymm (Std.max_le_iff.mpr ⟨hbottom a hmem, Std.le_refl a⟩) Std.right_le_max

theorem foldl_max_eq_max [Max α] [Std.LawfulOrderMax α] {bottom a : α} (hbottom : bottom ≤ a) :
    l.foldl max a = max a (l.foldl max bottom) := by
  have hself : max a bottom = a :=
    Std.le_antisymm (Std.max_le_iff.mpr ⟨Std.le_refl a, hbottom⟩) Std.left_le_max
  calc
    l.foldl max a = l.foldl max (max a bottom) := by rw [hself]
    _ = max a (l.foldl max bottom) := List.foldl_assoc

omit [LE α] [Std.IsLinearOrder α] in
/-- A loop that keeps two accumulators is two loops. -/
theorem foldl_prod (f : β → δ → β) (g : γ → δ → γ) (l : List δ) (b : β) (c : γ) :
    l.foldl (fun acc x => (f acc.1 x, g acc.2 x)) (b, c) = (l.foldl f b, l.foldl g c) := by
  induction l generalizing b c with
  | nil => rfl
  | cons x l ih => exact ih (f b x) (g c x)

omit [LE α] [Std.IsLinearOrder α] in
/-- A loop that passes over what yields nothing is a loop over what is yielded. -/
theorem foldl_elim (f : δ → Option α) (g : β → α → β) (l : List δ) (b : β) :
    l.foldl (fun acc x => (f x).elim acc (g acc)) b = (l.filterMap f).foldl g b := by
  induction l generalizing b with
  | nil => rfl
  | cons x l ih =>
      rw [List.foldl_cons, List.filterMap_cons, ih]
      cases f x <;> rfl

omit [LE α] [Std.IsLinearOrder α] in
theorem max?_map [Max α] [Max β] {f : α → β} (hf : ∀ a b, max (f a) (f b) = f (max a b))
    (l : List α) : (l.map f).max? = l.max?.map f := by
  cases l with
  | nil => rfl
  | cons a l =>
      rw [List.map_cons, List.max?_cons', List.max?_cons', Option.map_some, List.foldl_map]
      exact congrArg some (List.foldl_hom f fun x y => hf x y)

omit [LE α] [Std.IsLinearOrder α] in
theorem min?_map [Min α] [Min β] {f : α → β} (hf : ∀ a b, min (f a) (f b) = f (min a b))
    (l : List α) : (l.map f).min? = l.min?.map f := by
  cases l with
  | nil => rfl
  | cons a l =>
      rw [List.map_cons, List.min?_cons', List.min?_cons', Option.map_some, List.foldl_map]
      exact congrArg some (List.foldl_hom f fun x y => hf x y)

/-! ### The default -/

section

variable [Min α] [Std.LawfulOrderMin α] {top : α}

theorem getD_min_eq_default_iff (htop : ∀ a ∈ l, ¬top ≤ a) :
    l.min?.getD top = top ↔ l = [] := by
  constructor
  · intro heq
    cases hmin : l.min? with
    | none => exact List.min?_eq_none_iff.mp hmin
    | some a =>
        have hmem := (List.min?_eq_some_iff.mp hmin).1
        rw [hmin, Option.getD_some] at heq
        exact absurd (heq ▸ Std.le_refl a) (htop a hmem)
  · rintro rfl
    rfl

/-- **Part and whole.** The minimum of a part is the minimum of the whole exactly if nothing in the
whole lies below all of the part. -/
theorem getD_min_eq_iff_of_subset (htop : ∀ a ∈ l, ¬top ≤ a) (hsubset : part ⊆ l) :
    part.min?.getD top = l.min?.getD top ↔ ∀ a ∈ l, ∃ least ∈ part, least ≤ a := by
  cases hpart : part.min? with
  | none =>
      obtain rfl := List.min?_eq_none_iff.mp hpart
      rw [Option.getD_none, eq_comm, getD_min_eq_default_iff htop]
      constructor
      · rintro rfl
        simp
      · intro hall
        apply List.eq_nil_iff_forall_not_mem.mpr
        intro a ha
        obtain ⟨least, hmem, _⟩ := hall a ha
        cases hmem
  | some m =>
      obtain ⟨hm, hleast⟩ := List.min?_eq_some_iff.mp hpart
      cases hwhole : l.min? with
      | none =>
          obtain rfl := List.min?_eq_none_iff.mp hwhole
          exact absurd (hsubset hm) (by simp)
      | some n =>
          obtain ⟨hn, hbelow⟩ := List.min?_eq_some_iff.mp hwhole
          rw [Option.getD_some, Option.getD_some]
          constructor
          · rintro rfl a ha
            exact ⟨m, hm, hbelow a ha⟩
          · intro hall
            obtain ⟨least, hmem, hle⟩ := hall n hn
            exact Std.le_antisymm (Std.le_trans (hleast least hmem) hle) (hbelow m (hsubset hm))

end

end Extrema
