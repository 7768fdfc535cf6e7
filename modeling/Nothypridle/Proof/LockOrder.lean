import Nothypridle.Lib.Locks
import Nothypridle.Lib.Transition
import Nothypridle.Proof.Warnings
import Nothypridle.Wayland
import Mathlib.Data.Fintype.Fin
import Mathlib.Data.Fintype.EquivFin

/-!
# The order of the locks

A poll holds the resource monitor throughout, and takes the record of its rule and the map of
toplevels inside it, one at a time. The dispatch thread takes the map alone. So all threads take the
locks in one order, whatever the polls find.
-/

namespace Nothypridle

open Locks (Op)

variable {S : Type} [ResourceSource S]

inductive Lock where
  | resourceMonitor
  | fullscreen
  | warned (id : String)
  deriving DecidableEq

/-! ### Where the locks are taken -/

def warnOnceLocks {α : Type} (id : String) : Except String α → List Lock
  | .ok _ => []
  | .error _ => [.warned id]

/-- The locks that a poll takes and gives back on account of a setting it consults. -/
def Setting.locks (loader : RuleConfigSource) (id : String) : Setting → List Lock
  | maxCpuUsage => warnOnceLocks id (loader.maxCpuUsage id)
  | maxGpuUsage => warnOnceLocks id (loader.maxGpuUsage id)
  | minRamMb => warnOnceLocks id (loader.minRamMb id)
  | minVramMb => warnOnceLocks id (loader.minVramMb id)
  | keepAliveProcesses => warnOnceLocks id (loader.keepAliveProcesses id)
  | musicPlaying => []
  | musicProcessName => warnOnceLocks id (loader.musicProcessName id)
  | fullscreen =>
      match loader.fullscreen id with
      | .ok true => [.fullscreen]
      | _ => []

/-- A poisoned resource monitor is held as well, until its error has been logged. -/
def pollOps (loader : RuleConfigSource) (resourceMonitor : Mutex S)
    (fullscreen : Mutex FullscreenState) (rule : RuleRuntime) : List (Op Lock) :=
  .acquire .resourceMonitor ::
    (((consulted loader resourceMonitor fullscreen rule).flatMap
      (Setting.locks loader rule.id)).flatMap Locks.critical ++ [.release .resourceMonitor])

def toplevelOps : ToplevelHandleEvent → List (Op Lock)
  | .state _ => Locks.critical .fullscreen
  | .closed => Locks.critical .fullscreen
  | .other => []

section

variable {loader : RuleConfigSource} {resourceMonitor : Mutex S}
  {fullscreen : Mutex FullscreenState} {rule : RuleRuntime} {id : String}

theorem mem_warnOnceLocks {α : Type} {getter : Except String α} {lock : Lock} :
    lock ∈ warnOnceLocks id getter ↔ lock = .warned id ∧ ∃ err, getter = .error err := by
  cases getter <;> simp [warnOnceLocks]

theorem Setting.mem_locks_iff {setting : Setting} {lock : Lock} :
    lock ∈ setting.locks loader id ↔
      (lock = .warned id ∧ setting.Fails loader id ∧ ¬setting.Silent) ∨
        (lock = .fullscreen ∧ setting = .fullscreen ∧ loader.fullscreen id = .ok true) := by
  cases setting with
  | fullscreen =>
      rcases hfull : loader.fullscreen id with err | _ | _ <;>
        simp [locks, hfull, Silent, Fails]
  | _ => simp [locks, mem_warnOnceLocks, Fails, Silent]

theorem acquire_mem_pollOps_iff {lock : Lock} :
    Op.acquire lock ∈ pollOps loader resourceMonitor fullscreen rule ↔
      lock = .resourceMonitor ∨
        ∃ setting ∈ consulted loader resourceMonitor fullscreen rule,
          lock ∈ setting.locks loader rule.id := by
  simp [pollOps, Locks.critical]

/-- The record of a rule changes only while it is locked. -/
theorem warned_unchanged (hhealthy : rule.warned.poisoned = false)
    (hunlocked : Op.acquire (.warned rule.id) ∉ pollOps loader resourceMonitor fullscreen rule) :
    (shouldInhibit loader resourceMonitor fullscreen rule).rule.warned = rule.warned := by
  apply (shouldInhibit_reported loader resourceMonitor fullscreen hhealthy).unchanged
  intro setting hcomplains
  apply hunlocked
  rw [acquire_mem_pollOps_iff]
  exact .inr ⟨setting, hcomplains.1, Setting.mem_locks_iff.mpr (.inl ⟨rfl, hcomplains.2⟩)⟩

/-- The map of toplevels is read only while it is locked. -/
theorem toplevels_unread
    (hunlocked : Op.acquire .fullscreen ∉ pollOps loader resourceMonitor fullscreen rule)
    (fullscreen' : Mutex FullscreenState) :
    shouldInhibit loader resourceMonitor fullscreen rule =
      shouldInhibit loader resourceMonitor fullscreen' rule := by
  apply shouldInhibit_congr_fullscreen
  intro setting hmem hsetting hfull
  apply hunlocked
  rw [acquire_mem_pollOps_iff]
  exact .inr ⟨setting, hmem, Setting.mem_locks_iff.mpr (.inr ⟨rfl, hsetting, hfull⟩)⟩

end

/-! ### The order -/

def Lock.rank : Lock → Fin 2
  | resourceMonitor => 0
  | fullscreen => 1
  | warned _ => 1

theorem Lock.rank_resourceMonitor_lt {lock : Lock} (hne : lock ≠ resourceMonitor) :
    resourceMonitor.rank < lock.rank := by
  cases lock with
  | resourceMonitor => exact absurd rfl hne
  | fullscreen => exact Fin.zero_lt_one
  | warned id => exact Fin.zero_lt_one

theorem ordered_pollOps (loader : RuleConfigSource) (resourceMonitor : Mutex S)
    (fullscreen : Mutex FullscreenState) (rule : RuleRuntime) :
    Locks.Ordered Lock.rank ∅ (pollOps loader resourceMonitor fullscreen rule) := by
  refine ⟨by simp, ?_⟩
  rw [insert_empty_eq]
  apply Locks.Ordered.criticals_append
  · intro lock hmem other hother
    obtain ⟨setting, _, hlock⟩ := List.mem_flatMap.mp hmem
    obtain rfl := Set.mem_singleton_iff.mp hother
    apply Lock.rank_resourceMonitor_lt
    intro heq
    subst heq
    simp [Setting.mem_locks_iff] at hlock
  · exact ⟨rfl, Set.sdiff_self⟩

theorem ordered_toplevelOps (event : ToplevelHandleEvent) :
    Locks.Ordered Lock.rank ∅ (toplevelOps event) := by
  have hcritical : Locks.Ordered Lock.rank ∅ (Locks.critical .fullscreen ++ []) :=
    Locks.Ordered.critical_append (by simp) rfl
  cases event with
  | state bytes => exact hcritical
  | closed => exact hcritical
  | other => rfl

/-! ### The threads -/

/-- Thread 0 dispatches the Wayland events, and thread `i + 1` is the `i`-th checker, of which the
list has the rule. -/
structure Threads where
  locks : Locks.State ℕ Lock
  checkers : List String

namespace Threads

/-- A poll is given with what it is going to find, and takes its locks one `advance` at a time. -/
inductive Label (S : Type) where
  | idled (id : String)
  | resumed (id : String)
  | toplevel (event : ToplevelHandleEvent)
  | poll (i : ℕ) (loader : RuleConfigSource) (resourceMonitor : Mutex S)
    (fullscreen : Mutex FullscreenState) (rule : RuleRuntime)
  | advance (i : ℕ)

def init : Threads := { locks := .idle, checkers := [] }

def step (s : Threads) : Label S → Option Threads
  | .idled id =>
      -- The next event is dispatched when the last one has been handled.
      if (s.locks.remaining 0).isEmpty then some { s with checkers := s.checkers ++ [id] } else none
  | .resumed _ => if (s.locks.remaining 0).isEmpty then some s else none
  | .toplevel event =>
      (s.locks.begin 0 (toplevelOps event)).map fun locks => { s with locks }
  | .poll i loader resourceMonitor fullscreen rule =>
      if s.checkers[i]? = some rule.id then
        (s.locks.begin (i + 1) (pollOps loader resourceMonitor fullscreen rule)).map
          fun locks => { s with locks }
      else none
  | .advance i => (s.locks.advance i).map fun locks => { s with locks }

/-- No thread asks for a lock that it holds, no threads wait for one another in a circle, and who
waits is at the start of a chain of waiting threads that ends at one that can take its next step. -/
structure DeadlockFree (S : Type) [ResourceSource S] (s : Threads) : Prop where
  noRelock : ∀ i lock, s.locks.AsksFor i lock → ¬s.locks.Holds i lock
  noCircle : ∀ i, ¬Relation.TransGen s.locks.WaitsFor i i
  progress : ∀ i j, s.locks.WaitsFor i j →
    ∃ k, Relation.TransGen s.locks.WaitsFor i k ∧ (s.step (.advance k : Label S)).isSome

theorem step_inOrder {s s' : Threads} {label : Label S} (hstep : s.step label = some s')
    (hs : s.locks.InOrder Lock.rank) : s'.locks.InOrder Lock.rank := by
  cases label with
  | idled id =>
      obtain ⟨_, heq⟩ := Option.ite_none_right_eq_some.mp hstep
      obtain rfl := Option.some.inj heq
      exact hs
  | resumed id =>
      obtain ⟨_, heq⟩ := Option.ite_none_right_eq_some.mp hstep
      obtain rfl := Option.some.inj heq
      exact hs
  | toplevel event =>
      obtain ⟨locks, hbegin, rfl⟩ := Option.map_eq_some_iff.mp hstep
      exact hs.begin (ordered_toplevelOps event) hbegin
  | poll i loader resourceMonitor fullscreen rule =>
      obtain ⟨_, hstep⟩ := Option.ite_none_right_eq_some.mp hstep
      obtain ⟨locks, hbegin, rfl⟩ := Option.map_eq_some_iff.mp hstep
      exact hs.begin (ordered_pollOps loader resourceMonitor fullscreen rule) hbegin
  | advance i =>
      obtain ⟨locks, hadvance, rfl⟩ := Option.map_eq_some_iff.mp hstep
      exact hs.advance hadvance

theorem inOrder {labels : List (Label S)} {s : Threads}
    (hrun : Transition.Runs step init labels s) : s.locks.InOrder Lock.rank :=
  hrun.invariant (fun _ _ _ hs hstep => step_inOrder hstep hs) Locks.State.inOrder_idle

/-- **No deadlock** in any state that the dispatch thread and any number of checkers of any number
of rules can reach. -/
theorem deadlockFree {labels : List (Label S)} {s : Threads}
    (hrun : Transition.Runs step init labels s) : DeadlockFree S s where
  noRelock := fun i lock hasks hholds =>
    absurd ((inOrder hrun).lt_of_asksFor hasks hholds) (lt_irrefl _)
  noCircle := (inOrder hrun).not_transGen_self
  progress := fun i j hwaits => by
    obtain ⟨k, hchain, hadvance⟩ := (inOrder hrun).exists_advance hwaits
    exact ⟨k, hchain, by simpa [step] using hadvance⟩

/-- Two rules poll at once, and the second waits for the first. -/
theorem dim_and_lock_deadlockFree :
    ∃ s : Threads, s.locks.WaitsFor 2 1 ∧ DeadlockFree FakeResourceSource s := by
  obtain ⟨s, hrun⟩ := Transition.exists_runs (step (S := FakeResourceSource)) init
    [.idled "dim", .idled "lock", .poll 0 dimConfig (.new {}) (.new .empty) (.new "dim"),
      .poll 1 dimConfig (.new {}) (.new .empty) (.new "lock"), .toplevel .closed, .advance 1,
      .advance 0] (by decide +kernel)
  have hasks := hrun.observe (fun s => (s.locks.remaining 2).head?)
    (by decide +kernel : _ = some (some (.acquire .resourceMonitor)))
  have hholds := hrun.observe (fun s => s.locks.owner .resourceMonitor)
    (by decide +kernel : _ = some (some 1))
  exact ⟨s, ⟨.resourceMonitor, hasks, hholds⟩, deadlockFree hrun⟩

end Threads

end Nothypridle
