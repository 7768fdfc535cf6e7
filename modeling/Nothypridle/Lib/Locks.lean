import Mathlib.Data.Set.Insert
import Mathlib.Logic.Function.Basic
import Mathlib.Logic.Relation
import Mathlib.Order.Basic
import Mathlib.Order.WellFounded

/-!
# Mutexes that are taken in order

Threads that acquire and release mutexes, each by a program of its own. A mutex is not reentrant:
who asks for one that is held waits, its holder included. Where every thread asks only for mutexes
that rank above all that it holds, the rank grows along a chain of waiting threads. So no chain
closes, and where ranks cannot grow forever a chain ends at a thread that does not wait.
-/

namespace Locks

inductive Op (L : Type*) where
  | acquire (lock : L)
  | release (lock : L)
  deriving DecidableEq

/-- Who holds each mutex, and what each thread is still to do. -/
structure State (ι L : Type*) where
  owner : L → Option ι
  remaining : ι → List (Op L)

variable {ι L : Type*}

namespace State

def idle : State ι L := ⟨fun _ => none, fun _ => []⟩

def Holds (s : State ι L) (i : ι) (lock : L) : Prop := s.owner lock = some i

def AsksFor (s : State ι L) (i : ι) (lock : L) : Prop :=
  (s.remaining i).head? = some (.acquire lock)

/-- Thread `i` asks for a mutex that thread `j` holds. -/
def WaitsFor (s : State ι L) (i j : ι) : Prop := ∃ lock, s.AsksFor i lock ∧ s.Holds j lock

variable [DecidableEq ι] [DecidableEq L]

def begin (s : State ι L) (i : ι) (ops : List (Op L)) : Option (State ι L) :=
  match s.remaining i with
  | [] => some { s with remaining := Function.update s.remaining i ops }
  | _ :: _ => none

/-- The next operation of the thread, which is not possible while it waits. -/
def advance (s : State ι L) (i : ι) : Option (State ι L) :=
  match s.remaining i with
  | [] => none
  | .acquire lock :: ops =>
      match s.owner lock with
      | none =>
          some { owner := Function.update s.owner lock (some i)
                 remaining := Function.update s.remaining i ops }
      | some _ => none
  | .release lock :: ops =>
      some { owner := Function.update s.owner lock none
             remaining := Function.update s.remaining i ops }

end State

/-! ### Programs -/

section Programs

variable {R : Type*} [Preorder R] (rank : L → R)

/-- From the mutexes `held` on, the program asks only for mutexes that rank above those it holds,
releases only what it holds, and ends with nothing held. -/
def Ordered : Set L → List (Op L) → Prop
  | held, [] => held = ∅
  | held, .acquire lock :: ops =>
      (∀ other ∈ held, rank other < rank lock) ∧ Ordered (insert lock held) ops
  | held, .release lock :: ops => lock ∈ held ∧ Ordered (held \ {lock}) ops

def critical (lock : L) : List (Op L) := [.acquire lock, .release lock]

variable {rank} {held : Set L} {ops : List (Op L)}

/-- A mutex that is released right after it was acquired can be left out. -/
theorem Ordered.critical_append {lock : L} (hrank : ∀ other ∈ held, rank other < rank lock)
    (hops : Ordered rank held ops) : Ordered rank held (critical lock ++ ops) := by
  have hfresh : lock ∉ held := fun hmem => lt_irrefl _ (hrank lock hmem)
  refine ⟨hrank, Set.mem_insert lock held, ?_⟩
  rwa [Set.insert_sdiff_self_of_notMem hfresh]

theorem Ordered.criticals_append {locks : List L}
    (hrank : ∀ lock ∈ locks, ∀ other ∈ held, rank other < rank lock)
    (hops : Ordered rank held ops) : Ordered rank held (locks.flatMap critical ++ ops) := by
  induction locks with
  | nil => exact hops
  | cons lock locks ih =>
      rw [List.flatMap_cons, List.append_assoc]
      apply Ordered.critical_append (hrank lock List.mem_cons_self)
      exact ih fun lock' hmem => hrank lock' (List.mem_cons_of_mem _ hmem)

end Programs

namespace State

variable {R : Type*} [Preorder R] {rank : L → R}

def held (s : State ι L) (i : ι) : Set L := { lock | s.Holds i lock }

/-- Every thread is in the middle of a program that takes its mutexes in order. -/
def InOrder (rank : L → R) (s : State ι L) : Prop :=
  ∀ i, Ordered rank (s.held i) (s.remaining i)

theorem inOrder_idle : InOrder rank (idle : State ι L) := by
  intro i
  have hnone : (idle : State ι L).held i = ∅ := by
    ext lock
    simp [held, Holds, idle]
  exact hnone

variable [DecidableEq ι] {s s' : State ι L} {i j : ι}

theorem InOrder.begin (hs : s.InOrder rank) {ops : List (Op L)} (hops : Ordered rank ∅ ops)
    (hbegin : s.begin i ops = some s') : s'.InOrder rank := by
  unfold State.begin at hbegin
  split at hbegin
  next hremaining =>
    obtain rfl := Option.some.inj hbegin
    intro j
    change Ordered rank (s.held j) (Function.update s.remaining i ops j)
    by_cases heq : j = i
    · subst heq
      have hnone : Ordered rank (s.held j) [] := hremaining ▸ hs j
      rw [Function.update_self, show s.held j = ∅ from hnone]
      exact hops
    · rw [Function.update_of_ne heq]
      exact hs j
  next => cases hbegin

variable [DecidableEq L]

theorem advance_cases (hadvance : s.advance i = some s') :
    (∃ lock ops, s.remaining i = .acquire lock :: ops ∧ s.owner lock = none ∧
      s' = { owner := Function.update s.owner lock (some i)
             remaining := Function.update s.remaining i ops }) ∨
    (∃ lock ops, s.remaining i = .release lock :: ops ∧
      s' = { owner := Function.update s.owner lock none
             remaining := Function.update s.remaining i ops }) := by
  unfold advance at hadvance
  split at hadvance
  next => cases hadvance
  next lock ops hremaining =>
    split at hadvance
    next hfree => exact .inl ⟨lock, ops, hremaining, hfree, (Option.some.inj hadvance).symm⟩
    next => cases hadvance
  next lock ops hremaining =>
    exact .inr ⟨lock, ops, hremaining, (Option.some.inj hadvance).symm⟩

/-- The mutexes of a thread after the owner of one mutex has changed. -/
theorem held_update (owner : L → Option ι) (remaining : ι → List (Op L)) (lock : L)
    (holder : Option ι) (j : ι) :
    (State.mk (Function.update owner lock holder) remaining).held j =
      if holder = some j then insert lock { other | owner other = some j }
      else { other | owner other = some j } \ {lock} := by
  ext other
  by_cases heq : other = lock
  · subst heq
    by_cases hholder : holder = some j <;> simp [held, Holds, hholder]
  · by_cases hholder : holder = some j <;> simp [held, Holds, hholder, heq]

theorem InOrder.advance (hs : s.InOrder rank) (hadvance : s.advance i = some s') :
    s'.InOrder rank := by
  rcases advance_cases hadvance with ⟨lock, ops, hremaining, hfree, rfl⟩ |
    ⟨lock, ops, hremaining, rfl⟩
  · intro j
    have hj := hs j
    rw [held_update]
    change Ordered rank _ (Function.update s.remaining i ops j)
    by_cases heq : j = i
    · subst heq
      rw [hremaining] at hj
      rw [if_pos rfl, Function.update_self]
      exact hj.2
    · have hkept : { other | s.owner other = some j } \ {lock} = s.held j :=
        Set.sdiff_singleton_eq_self (by simp [hfree])
      rw [if_neg (by simpa using Ne.symm heq), Function.update_of_ne heq, hkept]
      exact hj
  · intro j
    have hi := hs i
    rw [hremaining] at hi
    have hj := hs j
    rw [held_update, if_neg (by simp)]
    change Ordered rank _ (Function.update s.remaining i ops j)
    by_cases heq : j = i
    · subst heq
      rw [Function.update_self]
      exact hi.2
    · have howner : s.owner lock = some i := hi.1
      have hkept : { other | s.owner other = some j } \ {lock} = s.held j :=
        Set.sdiff_singleton_eq_self (by simpa [howner] using Ne.symm heq)
      rw [Function.update_of_ne heq, hkept]
      exact hj

/-! ### Waiting -/

omit [DecidableEq ι] [DecidableEq L] in
theorem AsksFor.exists_remaining {lock : L} (hasks : s.AsksFor i lock) :
    ∃ ops, s.remaining i = .acquire lock :: ops := by
  cases hremaining : s.remaining i with
  | nil => simp [AsksFor, hremaining] at hasks
  | cons op ops =>
      obtain rfl : op = .acquire lock := by simpa [AsksFor, hremaining] using hasks
      exact ⟨ops, rfl⟩

omit [DecidableEq ι] [DecidableEq L] in
/-- A thread asks only for what ranks above everything that it holds. -/
theorem InOrder.lt_of_asksFor (hs : s.InOrder rank) {lock other : L} (hasks : s.AsksFor i lock)
    (hholds : s.Holds i other) : rank other < rank lock := by
  have hi := hs i
  obtain ⟨ops, hremaining⟩ := hasks.exists_remaining
  rw [hremaining] at hi
  exact hi.1 other hholds

omit [DecidableEq ι] [DecidableEq L] in
/-- Along a chain of waiting threads the rank of what they ask for does not fall below that of what
the last of them holds. -/
theorem InOrder.exists_le_of_transGen (hs : s.InOrder rank)
    (hchain : Relation.TransGen s.WaitsFor i j) :
    ∃ lock other, s.AsksFor i lock ∧ s.Holds j other ∧ rank lock ≤ rank other := by
  induction hchain with
  | single hwaits =>
      obtain ⟨lock, hasks, hholds⟩ := hwaits
      exact ⟨lock, lock, hasks, hholds, le_rfl⟩
  | tail _ hwaits ih =>
      obtain ⟨lock, other, hasks, hholds, hle⟩ := ih
      obtain ⟨next, hasks', hholds'⟩ := hwaits
      exact ⟨lock, next, hasks, hholds', hle.trans (hs.lt_of_asksFor hasks' hholds).le⟩

omit [DecidableEq ι] [DecidableEq L] in
/-- **No circular wait.** -/
theorem InOrder.not_transGen_self (hs : s.InOrder rank) (i : ι) :
    ¬Relation.TransGen s.WaitsFor i i := by
  intro hchain
  obtain ⟨lock, other, hasks, hholds, hle⟩ := hs.exists_le_of_transGen hchain
  exact absurd (hs.lt_of_asksFor hasks hholds) (not_lt_of_ge hle)

theorem advance_of_asksFor {lock : L} (hasks : s.AsksFor i lock) (hfree : s.owner lock = none) :
    (s.advance i).isSome := by
  obtain ⟨ops, hremaining⟩ := hasks.exists_remaining
  simp [advance, hremaining, hfree]

/-- A thread that holds a mutex goes on, unless it waits for another one. -/
theorem InOrder.advance_or_waitsFor (hs : s.InOrder rank) {lock : L} (hholds : s.Holds i lock) :
    (s.advance i).isSome ∨ ∃ other k, s.AsksFor i other ∧ s.Holds k other := by
  cases hremaining : s.remaining i with
  | nil =>
      have hnone : s.held i = ∅ := by
        have hi := hs i
        rwa [hremaining] at hi
      have hmem : lock ∈ s.held i := hholds
      rw [hnone] at hmem
      exact absurd hmem (Set.notMem_empty lock)
  | cons op ops =>
      cases op with
      | acquire other =>
          have hasks : s.AsksFor i other := by simp [AsksFor, hremaining]
          cases howner : s.owner other with
          | none => exact .inl (advance_of_asksFor hasks howner)
          | some k => exact .inr ⟨other, k, hasks, howner⟩
      | release other => exact .inl (by simp [State.advance, hremaining])

/-- **No deadlock.** A chain of waiting threads leads on to a thread that can take its next step. -/
theorem InOrder.exists_advance [WellFoundedGT R] (hs : s.InOrder rank) (hwaits : s.WaitsFor i j) :
    ∃ k, Relation.TransGen s.WaitsFor i k ∧ (s.advance k).isSome := by
  have hchain : ∀ r j lock, rank lock = r → s.Holds j lock → Relation.TransGen s.WaitsFor i j →
      ∃ k, Relation.TransGen s.WaitsFor i k ∧ (s.advance k).isSome := by
    intro r
    -- The mutex at the end of the chain ranks higher and higher.
    induction r using WellFoundedGT.induction with
    | ind r ih =>
        intro j lock hr hholds hreach
        rcases hs.advance_or_waitsFor hholds with hadvance | ⟨other, k, hasks, hholds'⟩
        · exact ⟨j, hreach, hadvance⟩
        · have hlt : r < rank other := hr ▸ hs.lt_of_asksFor hasks hholds
          exact ih (rank other) hlt k other rfl hholds' (hreach.tail ⟨other, hasks, hholds'⟩)
  obtain ⟨lock, hasks, hholds⟩ := hwaits
  exact hchain (rank lock) j lock rfl hholds (.single ⟨lock, hasks, hholds⟩)

end State

end Locks
