import Nothypridle.IdleCycle
import Nothypridle.Wayland

/-!
# The running client

`run_wayland_client` once it dispatches, with all the threads that it spawns. One thread dispatches
the events of every rule and of every toplevel, one at a time; an `Idled` spawns a checker of its
rule; and all checkers poll the one resource monitor and the one map of toplevels. A poll holds the
monitor locked from beginning to end and is one step here. A poll that panics takes its thread with
it, and leaves behind poisoned what it had locked.
-/

namespace Nothypridle

namespace Client

structure Thread where
  checker : Checker
  panicked : Bool

def Thread.spawned : Thread := ⟨.loadStart, false⟩

/-- A registered rule, and the threads of its idle periods in the order in which they were
spawned. -/
structure Rule where
  runtime : RuleRuntime
  idle : Bool
  threads : List Thread

/-- `dispatched` is the rule whose `Resumed` is being dispatched, where one is. What is handed to
the command runner, and what the polls log, is noted with the rule it is for. -/
structure State (S : Type) where
  rules : List Rule
  dispatcher : Dispatcher
  dispatched : ℕ
  resourceMonitor : Mutex S
  fullscreen : Mutex FullscreenState
  calls : List (ℕ × String)
  warnings : List (ℕ × String)

/-- The accesses of `run_idle_check_loop`. -/
inductive Action where
  | loadStart
  | poll
  | sleep
  | loopLoad
  | finalLoad
  | runOnTimeout
  | storeFired
  deriving DecidableEq

def Action.step {S : Type} (resourceMonitor : Mutex S) (fullscreen : Mutex FullscreenState) :
    Action → CheckerStep S
  | .loadStart => .loadStart
  | .poll => .poll resourceMonitor fullscreen
  | .sleep => .sleep
  | .loopLoad => .loopLoad
  | .finalLoad => .finalLoad
  | .runOnTimeout => .runOnTimeout
  | .storeFired => .storeFired

/-- An event or a step for rule `j`, by its place in the registration, of its `k`-th thread. -/
inductive Label (S : Type) where
  | idled (j : ℕ)
  | resumed (j : ℕ)
  | loadFired (j : ℕ)
  | clearFired (j : ℕ)
  | runOnResume (j : ℕ)
  | checker (j k : ℕ) (action : Action)
  /-- What the panic leaves behind the lock of the monitor and in the rule, and whether the poll was
  reading the map. -/
  | pollPanics (j k : ℕ) (monitor : S) (warned : Mutex (Finset String)) (readsMap : Bool)
  | toplevel (id : ObjectId) (event : ToplevelHandleEvent)
  /-- The system answers differently from now on. -/
  | readings (monitor : S)

def Label.isPanic {S : Type} : Label S → Bool
  | .pollPanics _ _ _ _ _ => true
  | _ => false

variable {S : Type}

def State.setRule (s : State S) (j : ℕ) (rule : Rule) : State S :=
  { s with rules := s.rules.set j rule }

def init (monitor : S) (reg : Registration) : State S :=
  { rules := reg.rules.map fun runtime => { runtime, idle := false, threads := [] }
    dispatcher := .waiting
    dispatched := 0
    resourceMonitor := .new monitor
    fullscreen := .new .empty
    calls := []
    warnings := [] }

variable [ResourceSource S]

/-- The poll that rule `runtime` makes now. -/
def State.poll (config : RuleConfigSource) (s : State S) (runtime : RuleRuntime) : Poll S :=
  shouldInhibit config s.resourceMonitor s.fullscreen runtime

def step (config : RuleConfigSource) (s : State S) : Label S → Option (State S)
  | .idled j =>
      (s.rules[j]?).bind fun rule =>
        if s.dispatcher = .waiting ∧ rule.idle = false then
          some (s.setRule j { rule with idle := true, threads := rule.threads ++ [.spawned] })
        else none
  | .resumed j =>
      (s.rules[j]?).bind fun rule =>
        if s.dispatcher = .waiting ∧ rule.idle = true then
          some
            { s.setRule j { rule with idle := false, runtime := rule.runtime.bumpEpoch } with
              dispatcher := .loadFired
              dispatched := j }
        else none
  | .loadFired j =>
      (s.rules[j]?).bind fun rule =>
        if s.dispatcher = .loadFired ∧ s.dispatched = j then
          some { s with dispatcher := if rule.runtime.fired then .clearFired else .waiting }
        else none
  | .clearFired j =>
      (s.rules[j]?).bind fun rule =>
        if s.dispatcher = .clearFired ∧ s.dispatched = j then
          some
            { s.setRule j { rule with runtime := rule.runtime.setFired false } with
              dispatcher := .runOnResume }
        else none
  | .runOnResume j =>
      (s.rules[j]?).bind fun rule =>
        if s.dispatcher = .runOnResume ∧ s.dispatched = j then
          match config.onResume rule.runtime.id with
          | .ok (some cmd) =>
              some { s with calls := s.calls ++ [(j, cmd)], dispatcher := .waiting }
          | .ok none => some { s with dispatcher := .waiting }
          | .error _ => some { s with dispatcher := .waiting }
        else none
  | .checker j k action =>
      (s.rules[j]?).bind fun rule =>
        (rule.threads[k]?).bind fun thread =>
          if thread.panicked then none
          else
            let access := action.step s.resourceMonitor s.fullscreen
            (thread.checker.step config .default rule.runtime access).map
              fun (checker, runtime, commands) =>
                let threads := rule.threads.set k { thread with checker }
                let s' := { s.setRule j { rule with runtime, threads } with
                  calls := s.calls ++ commands.map (j, ·) }
                if action = .poll then
                  let poll := s.poll config rule.runtime
                  { s' with
                    resourceMonitor := poll.resourceMonitor
                    warnings := s.warnings ++ poll.warnings.map (j, ·) }
                else s'
  | .pollPanics j k monitor warned readsMap =>
      (s.rules[j]?).bind fun rule =>
        match rule.threads[k]?, s.resourceMonitor.lock with
        | some ⟨.poll startEpoch, false⟩, .ok _ =>
            let threads := rule.threads.set k ⟨.poll startEpoch, true⟩
            some
              { s.setRule j { rule with runtime := { rule.runtime with warned }, threads } with
                resourceMonitor := (s.resourceMonitor.release monitor).poison
                fullscreen := if readsMap then s.fullscreen.poison else s.fullscreen }
        | _, _ => none
  | .toplevel id event =>
      if s.dispatcher = .waiting then
        some { s with fullscreen := handleToplevelEvent s.fullscreen id event }
      else none
  | .readings monitor => some { s with resourceMonitor := s.resourceMonitor.release monitor }

/-- A run of the client on the rules that it has registered. -/
def RunsFrom (config : RuleConfigSource) (monitor : S) (ids : List String)
    (labels : List (Label S)) (s : State S) : Prop :=
  Transition.Runs (step config) (init monitor (registerRules config ids)) labels s

end Client

end Nothypridle
