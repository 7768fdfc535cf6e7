import Nothypridle.Lib.Transition
import Nothypridle.Wayland

/-!
# What the rules share

All rules poll one resource monitor and one map of toplevels, and a poll holds the monitor locked
from beginning to end. So polls follow one another, and a step is a whole poll, a poll that panics,
a toplevel event, or a change outside of the daemon. A panic unwinds through the guards that the
poll holds and poisons their locks for good.
-/

namespace Nothypridle

namespace Daemon

structure State (S : Type) where
  resourceMonitor : Mutex S
  fullscreen : Mutex FullscreenState
  rules : List RuleRuntime

inductive Label (S : Type) where
  | poll (k : ℕ)
  /-- What the panic leaves behind the lock of the monitor, in the rule, and whether the poll was
  reading the map. -/
  | pollPanics (k : ℕ) (monitor : S) (warned : Mutex (Finset String)) (readsMap : Bool)
  | toplevel (id : ObjectId) (event : ToplevelHandleEvent)
  | readings (monitor : S)
  | counters (k : ℕ) (epoch : UInt64) (fired : Bool)

def Label.isPanic {S : Type} : Label S → Bool
  | .pollPanics _ _ _ _ => true
  | _ => false

variable {S : Type} [ResourceSource S]

def init (monitor : S) (ids : List String) : State S :=
  { resourceMonitor := .new monitor, fullscreen := .new .empty, rules := ids.map .new }

def step (config : RuleConfigSource) (s : State S) : Label S → Option (State S)
  | .poll k =>
      (s.rules[k]?).map fun rule =>
        let poll := shouldInhibit config s.resourceMonitor s.fullscreen rule
        { s with resourceMonitor := poll.resourceMonitor, rules := s.rules.set k poll.rule }
  | .pollPanics k monitor warned readsMap =>
      match s.rules[k]?, s.resourceMonitor.lock with
      | some rule, .ok _ =>
          some
            { resourceMonitor := (s.resourceMonitor.release monitor).poison
              fullscreen := if readsMap then s.fullscreen.poison else s.fullscreen
              rules := s.rules.set k { rule with warned } }
      -- A poll that finds the monitor poisoned returns at once.
      | _, _ => none
  | .toplevel id event => some { s with fullscreen := handleToplevelEvent s.fullscreen id event }
  | .readings monitor => some { s with resourceMonitor := s.resourceMonitor.release monitor }
  | .counters k epoch fired =>
      (s.rules[k]?).map fun rule =>
        { s with rules := s.rules.set k { rule with epoch, fired } }

end Daemon

end Nothypridle
