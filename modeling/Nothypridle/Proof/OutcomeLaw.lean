import Nothypridle.Fakes
import Nothypridle.Proof.Moves
import Mathlib.Data.Nat.Find

/-!
# The outcome of one checker

A checker alone against an environment that may answer anything: at each access it finds the rule
and the locks as the environment has left them. What it returns, how often it polls, what it hands
to the runner and what it writes are functions of the polls, the epochs it loads and `on_timeout`.
-/

namespace Nothypridle

variable {S : Type} [ResourceSource S]

/-- What a checker finds at its accesses, in the `i`-th iteration of its loop and outside of it. -/
structure Environment (S : Type) where
  loadStart : RuleRuntime
  poll : ℕ → RuleRuntime
  resourceMonitor : ℕ → Mutex S
  fullscreen : ℕ → Mutex FullscreenState
  sleep : ℕ → RuleRuntime
  loopLoad : ℕ → RuleRuntime
  finalLoad : RuleRuntime
  runOnTimeout : RuleRuntime
  storeFired : RuleRuntime

/-- The rule as the access found and left it, and the commands handed to the runner. -/
structure Access (S : Type) where
  step : CheckerStep S
  found : RuleRuntime
  left : RuleRuntime
  commands : List String

structure Execution (S : Type) where
  checker : Checker
  iteration : ℕ
  accesses : List (Access S)

def CheckerStep.isPoll : CheckerStep S → Bool
  | .poll _ _ => true
  | _ => false

def CheckerStep.isStore : CheckerStep S → Bool
  | .storeFired => true
  | _ => false

/-- The access leaves the epoch as it found it, and the fired flag unless it stores it. -/
def Access.OnlyFires (access : Access S) : Prop :=
  access.left.fired = (if access.step.isStore then true else access.found.fired) ∧
    access.left.epoch = access.found.epoch

namespace Execution

def start : Execution S := { checker := .loadStart, iteration := 0, accesses := [] }

def polls (x : Execution S) : ℕ := x.accesses.countP fun access => access.step.isPoll

def stores (x : Execution S) : ℕ := x.accesses.countP fun access => access.step.isStore

def commands (x : Execution S) : List String := x.accesses.flatMap Access.commands

/-- The access that the checker makes next, and the rule as it finds it. -/
def next (env : Environment S) (i : ℕ) : Checker → Option (CheckerStep S × RuleRuntime)
  | .loadStart => some (.loadStart, env.loadStart)
  | .poll _ => some (.poll (env.resourceMonitor i) (env.fullscreen i), env.poll i)
  | .sleep _ => some (.sleep, env.sleep i)
  | .loopLoad _ => some (.loopLoad, env.loopLoad i)
  | .finalLoad _ => some (.finalLoad, env.finalLoad)
  | .runOnTimeout => some (.runOnTimeout, env.runOnTimeout)
  | .storeFired _ => some (.storeFired, env.storeFired)
  | .returned _ => none

def nextIteration (i : ℕ) : Checker → Checker → ℕ
  | .loopLoad _, .poll _ => i + 1
  | _, _ => i

def step (config : RuleConfigSource) (options : IdleCheckOptions) (env : Environment S) :
    Transition.Step (Execution S) Unit :=
  fun x _ =>
    (next env x.iteration x.checker).bind fun (access, found) =>
      (x.checker.step config options found access).map fun (checker, left, commands) =>
        { checker
          iteration := nextIteration x.iteration x.checker checker
          accesses := x.accesses ++ [⟨access, found, left, commands⟩] }

def Reaches (config : RuleConfigSource) (options : IdleCheckOptions) (env : Environment S)
    (x : Execution S) : Prop :=
  ∃ labels, Transition.Runs (step config options env) start labels x

end Execution

/-! ### The law -/

namespace Environment

variable (config : RuleConfigSource) (env : Environment S)

def inhibits (i : ℕ) : Bool :=
  (shouldInhibit config (env.resourceMonitor i) (env.fullscreen i) (env.poll i)).inhibited

/-- The `i`-th iteration is the last one: its poll does not inhibit, or the epoch has moved since
the start. -/
def Exits (i : ℕ) : Prop :=
  env.inhibits config i = false ∨
    (env.inhibits config i = true ∧ (env.loopLoad i).epoch ≠ env.loadStart.epoch)

def FirstExit (n : ℕ) : Prop := env.Exits config n ∧ ∀ i < n, ¬env.Exits config i

/-- What is returned once the last epoch check has passed. -/
def firing : IdleCheckOutcome :=
  match config.onTimeout env.runOnTimeout.id with
  | .ok (some _) => .firedOnTimeout
  | .ok none => .noCommandToFire
  | .error _ => .parseError

def outcome (n : ℕ) : IdleCheckOutcome :=
  if env.inhibits config n = true then .abortedByUserResume
  else if env.finalLoad.epoch ≠ env.loadStart.epoch then .abortedByUserResume
  else env.firing config

/-- The commands handed to the runner by a checker that returns `res`. -/
def calls (res : IdleCheckOutcome) : List String :=
  match res, config.onTimeout env.runOnTimeout.id with
  | .firedOnTimeout, .ok (some cmd) => [cmd]
  | _, _ => []

variable {config} {env} {n : ℕ}

theorem outcome_of_epoch_ne (hfree : env.inhibits config n = false)
    (hepoch : env.finalLoad.epoch ≠ env.loadStart.epoch) :
    env.outcome config n = .abortedByUserResume := by
  rw [outcome, if_neg (by simp [hfree]), if_pos hepoch]

theorem outcome_of_epoch_eq (hfree : env.inhibits config n = false)
    (hepoch : env.finalLoad.epoch = env.loadStart.epoch) :
    env.outcome config n = env.firing config := by
  rw [outcome, if_neg (by simp [hfree]), if_neg (by simpa using hepoch)]

omit [ResourceSource S] in
theorem firing_ne_aborted (config : RuleConfigSource) (env : Environment S) :
    env.firing config ≠ .abortedByUserResume := by
  unfold firing
  split <;> decide

end Environment

open Environment in
/-- What is known of a checker that has returned `res` after its `n`-th iteration. -/
structure Outcome (config : RuleConfigSource) (env : Environment S) (n : ℕ) (res : IdleCheckOutcome)
    (x : Execution S) : Prop where
  result : res = env.outcome config n
  polls : x.polls = n + 1
  commands : x.commands = env.calls config res
  stores : x.stores = if res = .abortedByUserResume then 0 else 1
  fired : ∀ access ∈ x.accesses,
    access.left.fired = if access.step.isStore then true else access.found.fired
  epoch : ∀ access ∈ x.accesses, access.left.epoch = access.found.epoch

/-! ### Where a checker stands -/

/-- Polls, stores and calls of the iteration under way. -/
def Checker.polled : Checker → ℕ
  | .loadStart => 0
  | .poll _ => 0
  | _ => 1

def Checker.stored : Checker → ℕ
  | .returned res => if res = .abortedByUserResume then 0 else 1
  | _ => 0

def Checker.called (config : RuleConfigSource) (env : Environment S) : Checker → List String
  | .storeFired res => env.calls config res
  | .returned res => env.calls config res
  | _ => []

namespace Execution

/-- What the place of the checker says of the answers in the iteration under way. -/
def Phase (config : RuleConfigSource) (env : Environment S) (i : ℕ) : Checker → Prop
  | .loadStart => True
  | .poll startEpoch => startEpoch = env.loadStart.epoch
  | .sleep startEpoch => startEpoch = env.loadStart.epoch ∧ env.inhibits config i = true
  | .loopLoad startEpoch => startEpoch = env.loadStart.epoch ∧ env.inhibits config i = true
  | .finalLoad startEpoch => startEpoch = env.loadStart.epoch ∧ env.inhibits config i = false
  | .runOnTimeout => env.inhibits config i = false ∧ env.finalLoad.epoch = env.loadStart.epoch
  | .storeFired res => env.inhibits config i = false ∧
      env.finalLoad.epoch = env.loadStart.epoch ∧ res = env.firing config
  | .returned res => env.Exits config i ∧ res = env.outcome config i

structure Ledger (config : RuleConfigSource) (env : Environment S) (x : Execution S) : Prop where
  earlier : ∀ i < x.iteration, ¬env.Exits config i
  phase : Phase config env x.iteration x.checker
  polls : x.polls = x.iteration + x.checker.polled
  stores : x.stores = x.checker.stored
  commands : x.commands = x.checker.called config env

theorem ledger_start (config : RuleConfigSource) (env : Environment S) :
    Ledger config env (start : Execution S) :=
  ⟨fun i hi => absurd hi (Nat.not_lt_zero i), trivial, rfl, rfl, rfl⟩

variable {config : RuleConfigSource} {options : IdleCheckOptions} {env : Environment S}
  {x x' : Execution S}

/-- How one access of a checker changes the ledger. -/
structure Advance (config : RuleConfigSource) (env : Environment S) (i : ℕ) (checker : Checker)
    (access : CheckerStep S) (checker' : Checker) (commands : List String) : Prop where
  earlier : ∀ j < nextIteration i checker checker', j < i ∨ ¬env.Exits config j
  phase : Phase config env (nextIteration i checker checker') checker'
  polls : i + checker.polled + [access].countP CheckerStep.isPoll =
    nextIteration i checker checker' + checker'.polled
  stores : checker.stored + [access].countP CheckerStep.isStore = checker'.stored
  commands : checker.called config env ++ commands = checker'.called config env

/-- The call of the runner, after the last epoch check. -/
theorem advance_runOnTimeout {i : ℕ} {checker' : Checker} {left : RuleRuntime}
    {commands : List String} (hphase : Phase config env i .runOnTimeout)
    (hmove : Checker.runOnTimeout.step config options env.runOnTimeout
      (.runOnTimeout : CheckerStep S) = some (checker', left, commands)) :
    Advance config env i .runOnTimeout (.runOnTimeout : CheckerStep S) checker' commands := by
  obtain ⟨hfree, hepoch⟩ := hphase
  cases hcommand : config.onTimeout env.runOnTimeout.id with
  | error err =>
      simp only [Checker.step, hcommand] at hmove
      cases hmove
      refine ⟨fun j hj => .inl hj, ⟨hfree, hepoch, ?_⟩, rfl, rfl, rfl⟩
      rw [Environment.firing, hcommand]
  | ok command =>
      cases command with
      | none =>
          simp only [Checker.step, hcommand] at hmove
          cases hmove
          refine ⟨fun j hj => .inl hj, ⟨hfree, hepoch, ?_⟩, rfl, rfl, rfl⟩
          rw [Environment.firing, hcommand]
      | some cmd =>
          simp only [Checker.step, hcommand] at hmove
          cases hmove
          refine ⟨fun j hj => .inl hj, ⟨hfree, hepoch, ?_⟩, rfl, rfl, ?_⟩
          · rw [Environment.firing, hcommand]
          · simp [Checker.called, Environment.calls, hcommand]

theorem Phase.advance {i : ℕ} {checker checker' : Checker} {access : CheckerStep S}
    {found left : RuleRuntime} {commands : List String} (hphase : Phase config env i checker)
    (hnext : next env i checker = some (access, found))
    (hmove : checker.step config options found access = some (checker', left, commands)) :
    Advance config env i checker access checker' commands := by
  cases checker with
  | loadStart =>
      cases hnext
      cases hmove
      exact ⟨fun j hj => .inl hj, rfl, rfl, rfl, rfl⟩
  | poll startEpoch =>
      cases hnext
      have hstart : startEpoch = env.loadStart.epoch := hphase
      by_cases hinhibits : env.inhibits config i = true
      · have hpoll : (shouldInhibit config (env.resourceMonitor i) (env.fullscreen i)
            (env.poll i)).inhibited = true := hinhibits
        simp only [Checker.step, hpoll, if_true] at hmove
        split at hmove
        · cases hmove
          exact ⟨fun j hj => .inl hj, ⟨hstart, hinhibits⟩, rfl, rfl, rfl⟩
        · cases hmove
          exact ⟨fun j hj => .inl hj, ⟨hstart, hinhibits⟩, rfl, rfl, rfl⟩
      · have hfree : env.inhibits config i = false := by simpa using hinhibits
        have hpoll : (shouldInhibit config (env.resourceMonitor i) (env.fullscreen i)
            (env.poll i)).inhibited = false := hfree
        simp only [Checker.step, hpoll] at hmove
        cases hmove
        exact ⟨fun j hj => .inl hj, ⟨hstart, hfree⟩, rfl, rfl, rfl⟩
  | sleep startEpoch =>
      cases hnext
      cases hmove
      exact ⟨fun j hj => .inl hj, hphase, rfl, rfl, rfl⟩
  | loopLoad startEpoch =>
      cases hnext
      obtain ⟨rfl, hinhibits⟩ := hphase
      by_cases hepoch : (env.loopLoad i).epoch = env.loadStart.epoch
      · rw [Checker.step, if_neg (by simpa using hepoch)] at hmove
        cases hmove
        refine ⟨?_, rfl, rfl, rfl, rfl⟩
        intro j hj
        rcases Nat.lt_succ_iff_lt_or_eq.mp hj with hlt | rfl
        · exact .inl hlt
        · exact .inr (by simp [Environment.Exits, hinhibits, hepoch])
      · rw [Checker.step, if_pos hepoch] at hmove
        cases hmove
        have hresult : env.outcome config i = .abortedByUserResume := if_pos hinhibits
        exact ⟨fun j hj => .inl hj, ⟨.inr ⟨hinhibits, hepoch⟩, hresult.symm⟩, rfl, rfl, rfl⟩
  | finalLoad startEpoch =>
      cases hnext
      obtain ⟨rfl, hfree⟩ := hphase
      by_cases hepoch : env.finalLoad.epoch = env.loadStart.epoch
      · rw [Checker.step, if_neg (by simpa using hepoch)] at hmove
        cases hmove
        exact ⟨fun j hj => .inl hj, ⟨hfree, hepoch⟩, rfl, rfl, rfl⟩
      · rw [Checker.step, if_pos hepoch] at hmove
        cases hmove
        have hresult := Environment.outcome_of_epoch_ne hfree hepoch
        exact ⟨fun j hj => .inl hj, ⟨.inl hfree, hresult.symm⟩, rfl, rfl, rfl⟩
  | runOnTimeout =>
      cases hnext
      exact advance_runOnTimeout hphase hmove
  | storeFired res =>
      cases hnext
      cases hmove
      obtain ⟨hfree, hepoch, rfl⟩ := hphase
      have hresult := Environment.outcome_of_epoch_eq hfree hepoch
      refine ⟨fun j hj => .inl hj, ⟨.inl hfree, hresult.symm⟩, rfl, ?_, by simp [Checker.called]⟩
      simp [Checker.stored, Environment.firing_ne_aborted, CheckerStep.isStore]
  | returned res => cases hnext

/-- A step makes one access. -/
theorem step_cases (hstep : step config options env x () = some x') :
    ∃ access found left commands, next env x.iteration x.checker = some (access, found) ∧
      x.checker.step config options found access = some (x'.checker, left, commands) ∧
      x'.iteration = nextIteration x.iteration x.checker x'.checker ∧
      x'.accesses = x.accesses ++ [⟨access, found, left, commands⟩] := by
  simp only [step, Option.bind_eq_some_iff, Option.map_eq_some_iff] at hstep
  obtain ⟨⟨access, found⟩, hnext, ⟨checker, left, commands⟩, hmove, rfl⟩ := hstep
  exact ⟨access, found, left, commands, hnext, hmove, rfl, rfl⟩

theorem Ledger.step (hledger : Ledger config env x)
    (hstep : Execution.step config options env x () = some x') : Ledger config env x' := by
  obtain ⟨access, found, left, commands, hnext, hmove, hiteration, haccesses⟩ := step_cases hstep
  have hadvance := hledger.phase.advance hnext hmove
  refine ⟨?_, ?_, ?_, ?_, ?_⟩
  · intro i hi
    rw [hiteration] at hi
    rcases hadvance.earlier i hi with hlt | hexits
    · exact hledger.earlier i hlt
    · exact hexits
  · rw [hiteration]
    exact hadvance.phase
  · have hpolls := hledger.polls
    rw [Execution.polls] at hpolls
    rw [Execution.polls, haccesses, List.countP_append, hpolls, hiteration, ← hadvance.polls]
    rfl
  · have hstores := hledger.stores
    rw [Execution.stores] at hstores
    rw [Execution.stores, haccesses, List.countP_append, hstores, ← hadvance.stores]
    rfl
  · have hcommands := hledger.commands
    rw [Execution.commands] at hcommands
    rw [Execution.commands, haccesses, List.flatMap_append, hcommands, ← hadvance.commands,
      List.flatMap_singleton]

theorem Reaches.ledger (hreaches : Reaches config options env x) : Ledger config env x := by
  obtain ⟨labels, hrun⟩ := hreaches
  exact hrun.invariant (fun _ _ _ hledger hstep => hledger.step hstep) (ledger_start config env)

theorem onlyFires_step (hwrites : ∀ access ∈ x.accesses, access.OnlyFires)
    (hstep : Execution.step config options env x () = some x') :
    ∀ access ∈ x'.accesses, access.OnlyFires := by
  obtain ⟨access, found, left, commands, hnext, hmove, hiteration, haccesses⟩ := step_cases hstep
  have hmove := Checker.move_of_step hmove
  rw [haccesses]
  intro other hother
  rcases List.mem_append.mp hother with hold | hnew
  · exact hwrites other hold
  · obtain rfl := List.mem_singleton.mp hnew
    refine ⟨?_, hmove.epoch_eq⟩
    rcases hmove.fired_cases with ⟨hne, hfired⟩ | ⟨rfl, hfired⟩
    · have hstore : access.isStore = false := by
        cases access <;> first | rfl | exact absurd rfl hne
      simp [hstore, hfired]
    · simp [CheckerStep.isStore, hfired]

theorem Reaches.writes (hreaches : Reaches config options env x) :
    ∀ access ∈ x.accesses, access.OnlyFires := by
  obtain ⟨labels, hrun⟩ := hreaches
  exact hrun.invariant (fun _ _ _ hwrites hstep => onlyFires_step hwrites hstep) (by simp [start])

/-! ### Termination -/

def Returned (x : Execution S) : Prop := ∃ res, x.checker = .returned res

theorem canReach_of_move {checker checker' : Checker} {access : CheckerStep S}
    {found left : RuleRuntime} {commands : List String} (hchecker : x.checker = checker)
    (hnext : next env x.iteration checker = some (access, found))
    (hmove : checker.step config options found access = some (checker', left, commands))
    (hrest : ∀ y : Execution S, y.checker = checker' →
      y.iteration = nextIteration x.iteration checker checker' →
      Transition.CanReach (step config options env) Returned y) :
    Transition.CanReach (step config options env) Returned x := by
  subst hchecker
  have hstep : step config options env x () =
      some ⟨checker', nextIteration x.iteration x.checker checker',
        x.accesses ++ [⟨access, found, left, commands⟩]⟩ := by
    simp only [step, hnext, Option.bind_some, hmove, Option.map_some]
  exact .of_step hstep (hrest _ rfl rfl)

theorem canReach_of_storeFired {res : IdleCheckOutcome} (hchecker : x.checker = .storeFired res) :
    Transition.CanReach (step config options env) Returned x := by
  apply canReach_of_move hchecker rfl rfl
  intro y hy _
  exact .done ⟨res, hy⟩

theorem canReach_of_runOnTimeout (hchecker : x.checker = .runOnTimeout) :
    Transition.CanReach (step config options env) Returned x := by
  obtain ⟨res, commands, hmove⟩ : ∃ res commands,
      Checker.runOnTimeout.step config options env.runOnTimeout (.runOnTimeout : CheckerStep S) =
        some (.storeFired res, env.runOnTimeout, commands) := by
    cases hcommand : config.onTimeout env.runOnTimeout.id with
    | error err => exact ⟨_, _, by simp only [Checker.step, hcommand]; rfl⟩
    | ok command =>
        cases command with
        | none => exact ⟨_, _, by simp only [Checker.step, hcommand]; rfl⟩
        | some cmd => exact ⟨_, _, by simp only [Checker.step, hcommand]; rfl⟩
  apply canReach_of_move hchecker rfl hmove
  intro y hy _
  exact canReach_of_storeFired hy

theorem canReach_of_finalLoad {startEpoch : UInt64} (hchecker : x.checker = .finalLoad startEpoch) :
    Transition.CanReach (step config options env) Returned x := by
  by_cases hepoch : env.finalLoad.epoch = startEpoch
  · apply canReach_of_move hchecker rfl (if_neg (by simpa using hepoch))
    intro y hy _
    exact canReach_of_runOnTimeout hy
  · apply canReach_of_move hchecker rfl (if_pos hepoch)
    intro y hy _
    exact .done ⟨_, hy⟩

/-- A poll that inhibits leads to the load that follows it, with or without a sleep between. -/
theorem canReach_of_inhibited {startEpoch : UInt64} (hchecker : x.checker = .poll startEpoch)
    (hinhibits : env.inhibits config x.iteration = true)
    (hrest : ∀ y : Execution S, y.checker = .loopLoad startEpoch → y.iteration = x.iteration →
      Transition.CanReach (step config options env) Returned y) :
    Transition.CanReach (step config options env) Returned x := by
  have hpoll : (shouldInhibit config (env.resourceMonitor x.iteration)
      (env.fullscreen x.iteration) (env.poll x.iteration)).inhibited = true := hinhibits
  by_cases hinterval : options.pollInterval > 0
  · apply canReach_of_move hchecker rfl
      (by simp only [Checker.step, hpoll, if_true, hinterval]; rfl)
    intro y hy hiteration
    apply canReach_of_move hy rfl rfl
    intro z hz hiteration'
    exact hrest z hz (hiteration'.trans hiteration)
  · apply canReach_of_move hchecker rfl
      (by simp only [Checker.step, hpoll, if_true, hinterval, if_false]; rfl)
    intro y hy hiteration
    exact hrest y hy hiteration

/-- The induction is on how far the iteration is from the one that exits. -/
theorem canReach_of_poll {n : ℕ} (hexit : env.FirstExit config n) (k : ℕ) :
    ∀ y : Execution S, y.checker = .poll env.loadStart.epoch → y.iteration + k = n →
      Transition.CanReach (step config options env) Returned y := by
  induction k with
  | zero =>
      intro y hy hn
      obtain rfl : y.iteration = n := hn
      rcases hexit.1 with hfree | ⟨hinhibits, hepoch⟩
      · have hpoll : (shouldInhibit config (env.resourceMonitor y.iteration)
            (env.fullscreen y.iteration) (env.poll y.iteration)).inhibited = false := hfree
        apply canReach_of_move hy rfl (by simp only [Checker.step, hpoll]; rfl)
        intro z hz _
        exact canReach_of_finalLoad hz
      · apply canReach_of_inhibited hy hinhibits
        intro z hz hiteration
        apply canReach_of_move hz rfl (if_pos (by rwa [hiteration]))
        intro w hw _
        exact .done ⟨_, hw⟩
  | succ k ih =>
      intro y hy hn
      have hstays := hexit.2 y.iteration (by omega)
      have hinhibits : env.inhibits config y.iteration = true := by
        by_contra hfree
        exact hstays (.inl (by simpa using hfree))
      have hepoch : (env.loopLoad y.iteration).epoch = env.loadStart.epoch := by
        by_contra hmoved
        exact hstays (.inr ⟨hinhibits, hmoved⟩)
      apply canReach_of_inhibited hy hinhibits
      intro z hz hiteration
      apply canReach_of_move hz rfl (if_neg (by rw [hiteration]; simpa using hepoch))
      intro w hw hnext
      apply ih w hw
      have hnext : w.iteration = z.iteration + 1 := hnext
      omega

end Execution

open Execution in
/-- **The outcome law.** Against any environment a checker returns exactly if some iteration of its
loop exits, and then the first such iteration determines what it returns and all it does. -/
theorem outcomeLaw (config : RuleConfigSource) (options : IdleCheckOptions) (env : Environment S) :
    ((∃ x, Reaches config options env x ∧ Returned x) ↔ ∃ i, env.Exits config i) ∧
      ∀ n, env.FirstExit config n → ∀ x res, Reaches config options env x →
        x.checker = .returned res → Outcome config env n res x := by
  refine ⟨⟨?_, ?_⟩, ?_⟩
  · intro hsome
    obtain ⟨x, hreaches, res, hreturned⟩ := hsome
    have hphase := hreaches.ledger.phase
    rw [hreturned] at hphase
    exact ⟨x.iteration, hphase.1⟩
  · intro hsome
    classical
    have hfirst : env.FirstExit config (Nat.find hsome) :=
      ⟨Nat.find_spec hsome, fun i hi => Nat.find_min hsome hi⟩
    have hstart : Transition.CanReach (step config options env) Returned start := by
      apply canReach_of_move rfl rfl rfl
      intro y hy hiteration
      exact canReach_of_poll hfirst _ y hy (by rw [hiteration]; exact Nat.zero_add _)
    obtain ⟨labels, x, hrun, hreturned⟩ := hstart
    exact ⟨x, ⟨labels, hrun⟩, hreturned⟩
  · intro n hfirst x res hreaches hreturned
    obtain ⟨hearlier, hphase, hpolls, hstores, hcommands⟩ := hreaches.ledger
    rw [hreturned] at hphase hpolls hstores hcommands
    obtain ⟨hexits, hresult⟩ := hphase
    have hn : x.iteration = n := by
      rcases Nat.lt_trichotomy x.iteration n with hlt | heq | hgt
      · exact absurd hexits (hfirst.2 _ hlt)
      · exact heq
      · exact absurd hfirst.1 (hearlier _ hgt)
    subst hn
    have hwrites := hreaches.writes
    exact ⟨hresult, hpolls, hcommands, hstores, fun access hmem => (hwrites access hmem).1,
      fun access hmem => (hwrites access hmem).2⟩

/-- One poll meets a fullscreen toplevel, the next ones do not. -/
def fullscreenOnce : Environment FakeResourceSource where
  loadStart := .new "dim"
  poll _ := .new "dim"
  resourceMonitor _ := .new {}
  fullscreen i := .new (if i = 0 then FullscreenState.empty.set ⟨7⟩ true else .empty)
  sleep _ := .new "dim"
  loopLoad _ := .new "dim"
  finalLoad := .new "dim"
  runOnTimeout := .new "dim"
  storeFired := .new "dim"

open Execution in
theorem fullscreenOnce_outcome :
    ∃ x, Outcome
      (FakeConfig.source { fullscreen := some true, onTimeoutCmd := some "loginctl lock-session" })
      fullscreenOnce 1 .firedOnTimeout x := by
  obtain ⟨x, hrun⟩ := Transition.exists_runs
    (step
      (FakeConfig.source { fullscreen := some true, onTimeoutCmd := some "loginctl lock-session" })
      .default fullscreenOnce)
    start (List.replicate 8 ()) (by decide +kernel)
  refine ⟨x, (outcomeLaw _ _ _).2 1 ⟨?_, ?_⟩ x _ ⟨_, hrun⟩
    (hrun.observe checker (by decide +kernel))⟩
  · exact .inl (by decide +kernel)
  · intro i hi
    obtain rfl : i = 0 := by omega
    unfold Environment.Exits
    decide +kernel

end Nothypridle
