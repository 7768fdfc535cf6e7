import Mathlib.Data.List.Basic
import Mathlib.Data.Nat.Nth

/-!
# Matching by counting

If no prefix of a list holds more entries of one kind than of another, every entry of the first
kind can be given an earlier entry of the second, no two of them the same. The matching is the one
that serves in order: the `n`-th entry of the first kind takes the `n`-th of the second.
-/

namespace Matching

variable {α : Type*} {needs gives : α → Bool} {l : List α}

def At (kind : α → Bool) (l : List α) (i : ℕ) : Prop := ∃ a, l[i]? = some a ∧ kind a = true

theorem countP_take_succ (kind : α → Bool) (l : List α) (i : ℕ) :
    (l.take (i + 1)).countP kind = (l.take i).countP kind + (l[i]?.toList).countP kind := by
  rw [List.take_add_one, List.countP_append]

theorem countP_take_succ_of_at {kind : α → Bool} {i : ℕ} (hat : At kind l i) :
    (l.take (i + 1)).countP kind = (l.take i).countP kind + 1 := by
  obtain ⟨a, hget, hkind⟩ := hat
  simp [countP_take_succ, hget, hkind]

theorem count_at_eq_countP_take (kind : α → Bool) (l : List α) [DecidablePred (At kind l)]
    (i : ℕ) : Nat.count (At kind l) i = (l.take i).countP kind := by
  induction i with
  | zero => simp
  | succ i ih =>
      rw [Nat.count_succ, ih, countP_take_succ]
      cases hget : l[i]? with
      | none => simp [At, hget]
      | some a => by_cases hkind : kind a = true <;> simp [At, hget, hkind]

theorem countP_take_lt {kind : α → Bool} {i j : ℕ} (hlt : i < j) (hat : At kind l i) :
    (l.take i).countP kind < (l.take j).countP kind := by
  have hsucc := countP_take_succ_of_at hat
  have hbefore : l.take (i + 1) <+: l.take j := List.take_prefix_take_left (by omega)
  have hle := hbefore.sublist.countP_le (p := kind)
  omega

/-- **Matching by counting.** -/
theorem exists_earlier_matching (hdisjoint : ∀ a, needs a = true → gives a = false)
    (hcounted : ∀ before, before <+: l → before.countP needs ≤ before.countP gives) :
    ∃ earlier : ℕ → ℕ, Set.InjOn earlier {i | At needs l i} ∧
      ∀ i, At needs l i → earlier i < i ∧ At gives l (earlier i) := by
  classical
  -- Where a need stands, more has been given before it than was needed before it.
  have hgiven : ∀ i, At needs l i → (l.take i).countP needs < Nat.count (At gives l) i := by
    intro i hat
    obtain ⟨a, hget, hneeds⟩ := hat
    have hneed := countP_take_succ_of_at ⟨a, hget, hneeds⟩
    have hgive := countP_take_succ gives l i
    have hle := hcounted (l.take (i + 1)) (List.take_prefix _ _)
    simp only [hget, Option.toList_some, List.countP_singleton, hdisjoint a hneeds] at hgive
    rw [count_at_eq_countP_take]
    simp only [Bool.false_eq_true, if_false] at hgive
    omega
  have hcard : ∀ i, At needs l i → ∀ hfinite : (Set.ofPred (At gives l)).Finite,
      (l.take i).countP needs < hfinite.toFinset.card := fun i hat hfinite =>
    (hgiven i hat).trans_le (Nat.count_le_card hfinite i)
  refine ⟨fun i => Nat.nth (At gives l) ((l.take i).countP needs), ?_, ?_⟩
  · intro i hi j hj heq
    have hcount : (l.take i).countP needs = (l.take j).countP needs := by
      have hsame := congrArg (Nat.count (At gives l)) heq
      simpa only [Nat.count_nth (hcard i hi), Nat.count_nth (hcard j hj)] using hsame
    rcases lt_trichotomy i j with hij | hij | hij
    · have hlt := countP_take_lt hij hi
      omega
    · exact hij
    · have hlt := countP_take_lt hij hj
      omega
  · intro i hat
    exact ⟨Nat.nth_lt_of_lt_count (hgiven i hat), Nat.nth_mem _ (hcard i hat)⟩

end Matching
