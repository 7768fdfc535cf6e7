import Nothypridle.Monitor
import Nothypridle.Lib.Transition

/-!
# The threads of one rule

One rule is shared by the Wayland thread, which dispatches its `Idled` and `Resumed` events, and by
one checker thread for every `Idled`. A step is one atomic access to the rule, one poll, or one call
of the command runner; a run is any interleaving of such steps. The checkers stand in the order in
which they were spawned, so checker `k` belongs to the `k`-th idle period, and the `k`-th `resumed`
ends that period.
-/

namespace Nothypridle

/-- The interval is in nanoseconds. -/
structure IdleCheckOptions where
  pollInterval : Nat

def IdleCheckOptions.default : IdleCheckOptions := ⟨5 * 1000000000⟩

inductive IdleCheckOutcome where
  | abortedByUserResume
  | firedOnTimeout
  | noCommandToFire
  | parseError
  deriving DecidableEq

/-- Where a thread stands in `run_idle_check_loop`, with the local variable that is live there. -/
inductive Checker where
  | loadStart
  | poll (startEpoch : UInt64)
  | sleep (startEpoch : UInt64)
  | loopLoad (startEpoch : UInt64)
  | finalLoad (startEpoch : UInt64)
  | runOnTimeout
  | storeFired (res : IdleCheckOutcome)
  | returned (res : IdleCheckOutcome)
  deriving DecidableEq

/-- A poll carries what the two shared locks hold at that moment. -/
inductive CheckerStep (S : Type) where
  | loadStart
  | poll (resourceMonitor : Mutex S) (fullscreen : Mutex FullscreenState)
  | sleep
  | loopLoad
  | finalLoad
  | runOnTimeout
  | storeFired

variable {S : Type} [ResourceSource S]

/-- One step of `run_idle_check_loop`: where it leads, what it leaves of the rule, and the commands
it hands to the runner. -/
def Checker.step (config : RuleConfigSource) (options : IdleCheckOptions) (rule : RuleRuntime) :
    Checker → CheckerStep S → Option (Checker × RuleRuntime × List String)
  | .loadStart, .loadStart => some (.poll rule.epoch, rule, [])
  | .poll startEpoch, .poll resourceMonitor fullscreen =>
      let poll := shouldInhibit config resourceMonitor fullscreen rule
      if poll.inhibited then
        if options.pollInterval > 0 then some (.sleep startEpoch, poll.rule, [])
        else some (.loopLoad startEpoch, poll.rule, [])
      else some (.finalLoad startEpoch, poll.rule, [])
  | .sleep startEpoch, .sleep => some (.loopLoad startEpoch, rule, [])
  | .loopLoad startEpoch, .loopLoad =>
      if rule.epoch ≠ startEpoch then some (.returned .abortedByUserResume, rule, [])
      else some (.poll startEpoch, rule, [])
  | .finalLoad startEpoch, .finalLoad =>
      if rule.epoch ≠ startEpoch then some (.returned .abortedByUserResume, rule, [])
      else some (.runOnTimeout, rule, [])
  | .runOnTimeout, .runOnTimeout =>
      match config.onTimeout rule.id with
      | .ok (some cmd) => some (.storeFired .firedOnTimeout, rule, [cmd])
      | .ok none => some (.storeFired .noCommandToFire, rule, [])
      | .error _ => some (.storeFired .parseError, rule, [])
  | .storeFired res, .storeFired => some (.returned res, rule.setFired true, [])
  | _, _ => none

/-- The epoch a checker compares against, as long as it still can. -/
def Checker.startEpoch : Checker → Option UInt64
  | .poll startEpoch => some startEpoch
  | .sleep startEpoch => some startEpoch
  | .loopLoad startEpoch => some startEpoch
  | .finalLoad startEpoch => some startEpoch
  | _ => none

/-- Where the Wayland thread stands in the dispatch of a `Resumed`, or `waiting` for an event. -/
inductive Dispatcher where
  | waiting
  | loadFired
  | clearFired
  | runOnResume
  deriving DecidableEq

namespace IdleCycle

structure State where
  rule : RuleRuntime
  /-- The last event of this rule was `Idled`; the compositor alternates. -/
  idle : Bool
  dispatcher : Dispatcher
  checkers : List Checker
  commands : List String

inductive Label (S : Type) where
  | idled
  | resumed
  | loadFired
  | clearFired
  | runOnResume
  | checker (k : Nat) (step : CheckerStep S)

namespace Label

variable {S : Type}

def isIdled : Label S → Bool
  | .idled => true
  | _ => false

def isResumed : Label S → Bool
  | .resumed => true
  | _ => false

def isRunOnResume : Label S → Bool
  | .runOnResume => true
  | _ => false

def isRunOnTimeout : Label S → Bool
  | .checker _ .runOnTimeout => true
  | _ => false

def isChecker : Label S → Bool
  | .checker _ _ => true
  | _ => false

def isDispatch (label : Label S) : Bool := !label.isChecker

def isPollOf (k : Nat) : Label S → Bool
  | .checker j (.poll _ _) => j = k
  | _ => false

def storingChecker : Label S → Option Nat
  | .checker k .storeFired => some k
  | _ => none

end Label

def init (id : String) : State :=
  { rule := .new id, idle := false, dispatcher := .waiting, checkers := [], commands := [] }

def step (config : RuleConfigSource) (options : IdleCheckOptions) (s : State) :
    Label S → Option State
  | .idled =>
      if s.dispatcher = .waiting ∧ s.idle = false then
        some { s with idle := true, checkers := s.checkers ++ [.loadStart] }
      else none
  | .resumed =>
      if s.dispatcher = .waiting ∧ s.idle = true then
        some { s with idle := false, rule := s.rule.bumpEpoch, dispatcher := .loadFired }
      else none
  | .loadFired =>
      if s.dispatcher = .loadFired then
        some { s with dispatcher := if s.rule.fired then .clearFired else .waiting }
      else none
  | .clearFired =>
      if s.dispatcher = .clearFired then
        some { s with rule := s.rule.setFired false, dispatcher := .runOnResume }
      else none
  | .runOnResume =>
      if s.dispatcher = .runOnResume then
        match config.onResume s.rule.id with
        | .ok (some cmd) =>
            some { s with commands := s.commands ++ [cmd], dispatcher := .waiting }
        | .ok none => some { s with dispatcher := .waiting }
        | .error _ => some { s with dispatcher := .waiting }
      else none
  | .checker k a =>
      (s.checkers[k]?).bind fun checker =>
        (checker.step config options s.rule a).map fun (checker', rule, commands) =>
          { s with
            rule
            checkers := s.checkers.set k checker'
            commands := s.commands ++ commands }

def RunsFrom (config : RuleConfigSource) (options : IdleCheckOptions) (id : String)
    (labels : List (Label S)) (s : State) : Prop :=
  Transition.Runs (step config options) (init id) labels s

/-- What a step hands to the command runner, where it is one of those in question. -/
def handed (config : RuleConfigSource) (options : IdleCheckOptions) (own : Label S → Bool)
    (s : State) (label : Label S) : List String :=
  if own label then
    (step config options s label).elim [] fun s' => s'.commands.drop s.commands.length
  else []

end IdleCycle

end Nothypridle
