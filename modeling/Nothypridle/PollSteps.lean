import Nothypridle.Daemon

/-!
# A poll, check by check

A poll is not one step of its thread. It locks the monitor and makes one check after the other, and
meanwhile the other threads go on with everything that does not take the lock: toplevels change, and
rules are bumped, fired and restored. Here the checks are single steps. What the system answers is
looked up while the lock is held, and stands for the whole poll.
-/

namespace Nothypridle

/-- What a poll of rule `k` has come back with. -/
structure Answer where
  k : ℕ
  inhibited : Bool
  warnings : List String

namespace PollSteps

/-- A poll under way: its rule, the monitor behind its guard, the checks that are made, and what has
been logged. -/
structure Polling (S : Type) where
  k : ℕ
  monitor : S
  made : ℕ
  warnings : List String

structure State (S : Type) where
  resourceMonitor : Mutex S
  fullscreen : Mutex FullscreenState
  rules : List RuleRuntime
  polling : Option (Polling S)
  answers : List Answer

inductive Label (S : Type) where
  | lock (k : ℕ)
  | check
  /-- As in `Daemon.Label`, for the poll under way. -/
  | panics (monitor : S) (warned : Mutex (Finset String)) (readsMap : Bool)
  | toplevel (id : ObjectId) (event : ToplevelHandleEvent)
  | readings (monitor : S)
  | counters (j : ℕ) (epoch : UInt64) (fired : Bool)

variable {S : Type} [ResourceSource S]

def init (monitor : S) (ids : List String) : State S :=
  { resourceMonitor := .new monitor
    fullscreen := .new .empty
    rules := ids.map .new
    polling := none
    answers := [] }

def step (config : RuleConfigSource) (s : State S) : Label S → Option (State S)
  | .lock k =>
      if s.polling.isSome then none
      else
        (s.rules[k]?).map fun rule =>
          match s.resourceMonitor.lock with
          | .error err =>
              let id := rule.id
              let warnings :=
                [s!"Monitor: ResourceMonitor lock poisoned for rule '{id}': {err}"]
              { s with answers := s.answers ++ [{ k, inhibited := false, warnings }] }
          | .ok monitor =>
              let monitor := ResourceSource.update monitor
              { s with polling := some { k, monitor, made := 0, warnings := [] } }
  | .check =>
      s.polling.bind fun poll =>
        (s.rules[poll.k]?).bind fun rule =>
          let checks := checks config s.fullscreen rule.id
          (checks[poll.made]?).map fun check =>
            let result := check.run ⟨poll.monitor, rule, poll.warnings⟩
            let rules := s.rules.set poll.k result.2.rule
            if result.1 || poll.made + 1 = checks.length then
              let answer :=
                { k := poll.k, inhibited := result.1, warnings := result.2.warnings }
              { s with
                resourceMonitor := s.resourceMonitor.release result.2.monitor
                rules
                polling := none
                answers := s.answers ++ [answer] }
            else
              let poll :=
                { poll with
                  monitor := result.2.monitor
                  made := poll.made + 1
                  warnings := result.2.warnings }
              { s with rules, polling := some poll }
  | .panics monitor warned readsMap =>
      s.polling.bind fun poll =>
        (s.rules[poll.k]?).map fun rule =>
          { s with
            resourceMonitor := (s.resourceMonitor.release monitor).poison
            fullscreen := if readsMap then s.fullscreen.poison else s.fullscreen
            rules := s.rules.set poll.k { rule with warned }
            polling := none }
  | .toplevel id event => some { s with fullscreen := handleToplevelEvent s.fullscreen id event }
  | .readings monitor =>
      if s.polling.isSome then none
      else some { s with resourceMonitor := s.resourceMonitor.release monitor }
  | .counters j epoch fired =>
      (s.rules[j]?).map fun rule =>
        { s with rules := s.rules.set j { rule with epoch, fired } }

/-! ### The polls in one step -/

/-- What a step of the daemon answers, where it is a poll. -/
def answerOf (config : RuleConfigSource) (s : Daemon.State S) : Daemon.Label S → Option Answer
  | .poll k =>
      (s.rules[k]?).map fun rule =>
        let poll := shouldInhibit config s.resourceMonitor s.fullscreen rule
        { k, inhibited := poll.inhibited, warnings := poll.warnings }
  | _ => none

/-- The daemon, with a record of the answers. -/
def atomicStep (config : RuleConfigSource) (s : Daemon.State S × List Answer)
    (label : Daemon.Label S) : Option (Daemon.State S × List Answer) :=
  (Daemon.step config s.1 label).map fun next =>
    (next, s.2 ++ (answerOf config s.1 label).toList)

end PollSteps

end Nothypridle
