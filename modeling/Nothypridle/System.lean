import Nothypridle.App
import Nothypridle.Client
import Nothypridle.Helpers

/-!
# The whole daemon

`app::run` from its start, with everything that it sets going. It reads the hooks and loads the
rules, and gives up where these do not load. From then on the listener, the client with the threads
of its rules, and the threads of the command runner that both share run side by side, until the
listener returns.
-/

namespace Nothypridle

/-- `config.aam`, where there is one: the values by their keys, if the AAM library can read it. -/
abbrev GlobalConfig := Option (Except String (String → Option String))

def loadHooks : GlobalConfig → GlobalHooks × List String
  | some (.ok model) =>
      ({ beforeSleep := model "before_sleep_cmd"
         afterSleep := model "after_sleep_cmd"
         lock := model "lock_cmd"
         unlock := model "unlock_cmd" }, [])
  | some (.error _) =>
      ({}, ["Main: Failed to parse 'config.aam'. Global sleep/lock hooks are inactive."])
  | none => ({}, ["Main: 'config.aam' not found. Global hooks will be skipped."])

namespace System

/-- What the daemon finds when it starts. -/
structure Environment (S : Type) where
  globalConfig : GlobalConfig
  rulesDir : String
  loadDirWithSchema : Except String Unit
  config : RuleConfigSource
  /-- The ids that the loader lists, in its order. -/
  ids : List String
  monitor : S

def Environment.hooks {S : Type} (env : Environment S) : GlobalHooks :=
  (loadHooks env.globalConfig).1

/-- The client is there once it has registered the rules, and stays when it no longer dispatches:
its threads go on. -/
structure State (S : Type) where
  app : App.State
  client : Option (Client.State S)
  shell : ShellRunner.State

inductive Label (S : Type) where
  | app (label : App.Label)
  | client (label : Client.Label S)
  /-- The thread of the `i`-th call starts its process, or fails to. -/
  | start (i : ℕ)
  | startFails (i : ℕ)

def Label.appLabel {S : Type} : Label S → Option App.Label
  | .app label => some label
  | _ => none

def Label.clientLabel {S : Type} : Label S → Option (Client.Label S)
  | .client label => some label
  | _ => none

variable {S : Type}

def boot (env : Environment S) : Except String (State S) :=
  match env.loadDirWithSchema with
  | .error err => .error s!"Failed to load rules directory '{env.rulesDir}': {err}"
  | .ok () => .ok { app := App.start, client := none, shell := ShellRunner.init }

/-- The calls that are in the second list of commands and not yet in the first. -/
def newCalls (before after : List String) : List ShellRunner.Label :=
  (after.drop before.length).map .run

/-- An event is dispatched by the thread of the client, every other step is one of its threads. -/
def isDispatch : Client.Label S → Bool
  | .checker _ _ _ => false
  | .pollPanics _ _ _ _ _ => false
  | .readings _ => false
  | _ => true

def clientCommands (client : Client.State S) : List String := client.calls.map Prod.snd

variable [ResourceSource S]

def step (env : Environment S) (s : State S) : Label S → Option (State S)
  | .app label =>
      -- A dispatch is over before the next one, and before one fails.
      if s.client.any fun client => client.dispatcher ≠ .waiting && label matches .wayland _ then
        none
      else
        (App.step env.hooks s.app label).bind fun app =>
          (Transition.exec ShellRunner.step s.shell (newCalls s.app.commands app.commands)).map
            fun shell =>
              let registers := s.client.isNone && app.wayland = .dispatching
              { app
                client :=
                  if registers then
                    some (Client.init env.monitor (registerRules env.config env.ids))
                  else s.client
                shell }
  | .client label =>
      if s.app.result.isSome || (isDispatch label && s.app.wayland ≠ .dispatching) then none
      else
        s.client.bind fun client =>
          (Client.step env.config client label).bind fun client' =>
            (Transition.exec ShellRunner.step s.shell
              (newCalls (clientCommands client) (clientCommands client'))).map
                fun shell => { s with client := some client', shell }
  | .start i =>
      if s.app.result.isSome then none
      else (ShellRunner.step s.shell (.start i)).map fun shell => { s with shell }
  | .startFails i =>
      if s.app.result.isSome then none
      else (ShellRunner.step s.shell (.startFails i)).map fun shell => { s with shell }

/-- A run of the daemon. There is none where the rules do not load. -/
def RunsFrom (env : Environment S) (labels : List (Label S)) (s : State S) : Prop :=
  ∃ booted, boot env = .ok booted ∧ Transition.Runs (step env) booted labels s

end System

end Nothypridle
