import Nothypridle.Proof.ClientMoves
import Nothypridle.Proof.DeadComponent
import Nothypridle.Proof.IdlePeriod
import Nothypridle.Proof.RuleView
import Nothypridle.Proof.ShellOrder
import Nothypridle.System

/-!
# What the daemon runs, and why

The whole daemon is the composition of its parts: of any run, the steps of the listener, of the
client and of the command runner are runs of these. So every process that it starts runs the text of
a configured command, no call starts two, and there are no more processes than events that call for
one: the messages that name a configured hook, and the `Idled` and `Resumed` of the rules.
-/

namespace Nothypridle

open Entries (sum_map_set)

/-! ### The calls of the client -/

namespace Client

section

variable {S : Type}

def Rule.callsLeft (rule : Rule) : ℕ :=
  (rule.threads.map fun thread => IdleCycle.callsLeft thread.checker).sum

def threadCallsLeft (rules : List Rule) : ℕ := (rules.map Rule.callsLeft).sum

theorem threadCallsLeft_set {rules : List Rule} {j : ℕ} {rule : Rule}
    (hget : rules[j]? = some rule) (rule' : Rule) :
    threadCallsLeft (rules.set j rule') + rule.callsLeft =
      threadCallsLeft rules + rule'.callsLeft :=
  sum_map_set Rule.callsLeft hget rule'

def dispatchCallsLeft : Dispatcher → ℕ
  | .waiting => 0
  | _ => 1

/-- The calls that the threads and the dispatch under way may still make. -/
def callsLeft (s : State S) : ℕ := threadCallsLeft s.rules + dispatchCallsLeft s.dispatcher

end

variable {S : Type} [ResourceSource S] {config : RuleConfigSource}

omit [ResourceSource S] in
theorem length_commands_le {rule rule' : RuleRuntime} {checker checker' : Checker}
    {a : CheckerStep S} {commands : List String}
    (hmove : Checker.Move config rule checker a checker' rule' commands) :
    commands.length + IdleCycle.callsLeft checker' ≤ IdleCycle.callsLeft checker := by
  cases hmove <;> simp [IdleCycle.callsLeft]

/-- An `Idled` or a `Resumed` allows for one call more, and every call uses one up. -/
theorem callsLeft_step {s s' : State S} {label : Label S} (hmove : Move config s label s') :
    s'.calls.length + callsLeft s' ≤
      s.calls.length + callsLeft s + [label].countP Label.isIdled +
        [label].countP Label.isResumed := by
  cases hmove with
  | @idled j rule hget hwaiting =>
      have hsum := threadCallsLeft_set hget
        { rule with idle := true, threads := rule.threads ++ [.spawned] }
      have hrule : Rule.callsLeft { rule with
          idle := true, threads := rule.threads ++ [.spawned] } = rule.callsLeft + 1 := by
        simp [Rule.callsLeft, Thread.spawned, IdleCycle.callsLeft]
      simp [callsLeft, State.setRule, Label.isIdled, Label.isResumed]
      omega
  | @resumed j rule hget hwaiting =>
      have hsum := threadCallsLeft_set hget
        { rule with idle := false, runtime := rule.runtime.bumpEpoch }
      have hrule : Rule.callsLeft { rule with
          idle := false, runtime := rule.runtime.bumpEpoch } = rule.callsLeft := rfl
      simp [callsLeft, State.setRule, Label.isIdled, Label.isResumed, hwaiting, dispatchCallsLeft]
      omega
  | @loadFired j rule hget hloading =>
      cases rule.runtime.fired <;>
        simp [callsLeft, Label.isIdled, Label.isResumed, hloading, dispatchCallsLeft]
  | @clearFired j rule hget hclearing =>
      have hsum := threadCallsLeft_set hget { rule with runtime := rule.runtime.setFired false }
      have hrule : Rule.callsLeft { rule with runtime := rule.runtime.setFired false } =
          rule.callsLeft := rfl
      simp [callsLeft, State.setRule, Label.isIdled, Label.isResumed, hclearing, dispatchCallsLeft]
      omega
  | @runOnResume j rule hget hrunning =>
      have hone := length_commandOf_le (config.onResume rule.runtime.id)
      simp [callsLeft, Label.isIdled, Label.isResumed, hrunning, dispatchCallsLeft]
      omega
  | @checker j k action rule thread checker runtime commands hget hthread halive hstep =>
      have hspent := length_commands_le (Checker.move_of_step hstep)
      have hrule := sum_map_set (fun thread => IdleCycle.callsLeft thread.checker) hthread
        { thread with checker }
      have hsum := threadCallsLeft_set hget
        { rule with runtime, threads := rule.threads.set k { thread with checker } }
      simp only [Rule.callsLeft] at hrule hsum
      simp [callsLeft, Label.isIdled, Label.isResumed]
      omega
  | @pollPanics j k monitor warned readsMap rule startEpoch source hget hthread =>
      have hrule := sum_map_set (fun thread => IdleCycle.callsLeft thread.checker) hthread
        ⟨.poll startEpoch, true⟩
      have hsum := threadCallsLeft_set hget
        { rule with
          runtime := { rule.runtime with warned }
          threads := rule.threads.set k ⟨.poll startEpoch, true⟩ }
      simp only [Rule.callsLeft] at hrule hsum
      simp [callsLeft, State.setRule, Label.isIdled, Label.isResumed]
      omega
  | toplevel => simp [callsLeft, Label.isIdled, Label.isResumed]
  | readings => simp [callsLeft, Label.isIdled, Label.isResumed]

theorem RunsFrom.calls_le {monitor : S} {ids : List String} {labels : List (Label S)} {s : State S}
    (hrun : RunsFrom config monitor ids labels s) :
    s.calls.length ≤ labels.countP Label.isIdled + labels.countP Label.isResumed := by
  have hpreserved : ∀ (history : List (Label S)) (s : State S) label s',
      s.calls.length + callsLeft s ≤
        history.countP Label.isIdled + history.countP Label.isResumed →
      step config s label = some s' →
      s'.calls.length + callsLeft s' ≤
        (history ++ [label]).countP Label.isIdled +
          (history ++ [label]).countP Label.isResumed := by
    intro history s label s' hbound hstep
    have hspent := callsLeft_step (move_of_step hstep)
    rw [List.countP_append, List.countP_append]
    omega
  have hinit : callsLeft (init monitor (registerRules config ids)) = 0 := by
    simp [callsLeft, dispatchCallsLeft, init, threadCallsLeft, Rule.callsLeft, Function.comp_def]
  have hbound := Transition.Runs.history_invariant hpreserved [] hrun (by rw [hinit]; rfl)
  simp only [List.nil_append] at hbound
  omega

/-- The command is one that the rule has in the configuration. -/
def RuleCommand (config : RuleConfigSource) (id cmd : String) : Prop :=
  config.onTimeout id = .ok (some cmd) ∨ config.onResume id = .ok (some cmd)

/-- Every call is of a command of the rule that it is for. -/
structure CallsConfigured (config : RuleConfigSource) (ids : List String) (s : State S) : Prop where
  rules : s.rules.map (fun rule => rule.runtime.id) = registeredIds config ids
  calls : ∀ call ∈ s.calls, ∃ id, (registeredIds config ids)[call.1]? = some id ∧
    RuleCommand config id call.2

omit [ResourceSource S] in
theorem CallsConfigured.append {ids : List String} {s s' : State S} {j : ℕ} {rule : Rule}
    {commands : List String} (hconfigured : CallsConfigured config ids s)
    (hids : s'.rules.map (fun rule => rule.runtime.id) = s.rules.map fun rule => rule.runtime.id)
    (hget : s.rules[j]? = some rule) (hcalls : s'.calls = s.calls ++ commands.map (j, ·))
    (hcommands : ∀ cmd ∈ commands, RuleCommand config rule.runtime.id cmd) :
    CallsConfigured config ids s' := by
  refine ⟨hids.trans hconfigured.rules, ?_⟩
  have hid : (registeredIds config ids)[j]? = some rule.runtime.id := by
    rw [← hconfigured.rules, List.getElem?_map, hget, Option.map_some]
  intro call hmem
  rw [hcalls] at hmem
  cases List.mem_append.mp hmem with
  | inl hold => exact hconfigured.calls call hold
  | inr hnew =>
      obtain ⟨cmd, hcmd, rfl⟩ := List.mem_map.mp hnew
      exact ⟨rule.runtime.id, hid, hcommands cmd hcmd⟩

omit [ResourceSource S] in
theorem onTimeout_of_mem_commands {rule rule' : RuleRuntime} {checker checker' : Checker}
    {a : CheckerStep S} {commands : List String} {cmd : String}
    (hmove : Checker.Move config rule checker a checker' rule' commands) (hcmd : cmd ∈ commands) :
    config.onTimeout rule.id = .ok (some cmd) := by
  cases hmove with
  | fire htimeout => exact List.mem_singleton.mp hcmd ▸ htimeout
  | _ => cases hcmd

theorem CallsConfigured.step {ids : List String} {s s' : State S} {label : Label S}
    (hconfigured : CallsConfigured config ids s) (hmove : Move config s label s') :
    CallsConfigured config ids s' := by
  have hids := hmove.ids_eq
  have hsame : s'.calls = s.calls → CallsConfigured config ids s' :=
    fun hcalls => ⟨hids.trans hconfigured.rules, hcalls ▸ hconfigured.calls⟩
  cases hmove with
  | idled => exact hsame rfl
  | resumed => exact hsame rfl
  | loadFired => exact hsame rfl
  | clearFired => exact hsame rfl
  | @runOnResume j rule hget =>
      apply hconfigured.append hids hget rfl
      intro cmd hcmd
      cases hrestore : config.onResume rule.runtime.id with
      | error err =>
          rw [hrestore] at hcmd
          cases hcmd
      | ok restore =>
          rw [hrestore] at hcmd
          cases restore with
          | none => cases hcmd
          | some restore =>
              obtain rfl := List.mem_singleton.mp hcmd
              exact .inr hrestore
  | @checker j k action rule thread checker runtime commands hget hthread halive hstep =>
      apply hconfigured.append hids hget (accessed_calls ..)
      exact fun cmd hcmd => .inl (onTimeout_of_mem_commands (Checker.move_of_step hstep) hcmd)
  | pollPanics => exact hsame rfl
  | toplevel => exact hsame rfl
  | readings => exact hsame rfl

theorem RunsFrom.callsConfigured {monitor : S} {ids : List String} {labels : List (Label S)}
    {s : State S} (hrun : RunsFrom config monitor ids labels s) :
    CallsConfigured config ids s := by
  have hinit : CallsConfigured config ids (init monitor (registerRules config ids)) := by
    constructor
    · rw [init_rules, List.map_map]
      exact List.map_id'' (fun _ => rfl) _
    · intro call hmem
      cases hmem
  exact Transition.Runs.invariant
    (fun _ _ _ hconfigured hstep => hconfigured.step (move_of_step hstep)) hrun hinit

end Client

/-! ### The calls of the listener -/

namespace App

variable {hooks : GlobalHooks}

/-- The message makes the listener call the runner. -/
def Label.isHook (hooks : GlobalHooks) : Label → Bool
  | .message item => !(receive hooks item).isEmpty
  | _ => false

def HookCommand (hooks : GlobalHooks) (cmd : String) : Prop :=
  hooks.beforeSleep = some cmd ∨ hooks.afterSleep = some cmd ∨ hooks.lock = some cmd ∨
    hooks.unlock = some cmd

theorem hookCommand_of_mem_handleHookEvent {event : DbusHookEvent} {cmd : String}
    (hmem : cmd ∈ handleHookEvent hooks event) : HookCommand hooks cmd := by
  cases event <;> simp_all [handleHookEvent, HookCommand]

theorem length_handleHookEvent_le (hooks : GlobalHooks) (event : DbusHookEvent) :
    (handleHookEvent hooks event).length ≤ 1 := by
  cases event <;> exact Option.length_toList_le

/-- What the listener makes of an item of the stream is what it makes of an event, or nothing. -/
theorem receive_cases (hooks : GlobalHooks) (item : Except String Message) :
    receive hooks item = [] ∨ ∃ event, receive hooks item = handleHookEvent hooks event := by
  cases item with
  | error err => exact .inl rfl
  | ok msg =>
      simp only [receive]
      split
      next event _ => exact .inr ⟨event, rfl⟩
      next => exact .inl rfl

/-- The commands of the listener. -/
structure CommandsConfigured (hooks : GlobalHooks) (labels : List Label) (s : State) : Prop where
  commands : ∀ cmd ∈ s.commands, HookCommand hooks cmd
  length_le : s.commands.length ≤ labels.countP (Label.isHook hooks)

theorem commands_step {s s' : State} {label : Label} (hstep : step hooks s label = some s') :
    (s'.commands = s.commands) ∨
      ∃ item, label = .message item ∧ s'.commands = s.commands ++ receive hooks item := by
  cases label with
  | wayland outcome =>
      simp only [step, Option.ite_none_left_eq_some, Option.map_eq_some_iff] at hstep
      obtain ⟨_, client, _, rfl⟩ := hstep
      exact .inl rfl
  | setUp outcome =>
      simp only [step, Option.map_eq_some_iff] at hstep
      obtain ⟨dbus, _, rfl⟩ := hstep
      exact .inl rfl
  | message item =>
      simp only [step] at hstep
      split at hstep
      · cases hstep
        exact .inr ⟨item, rfl, rfl⟩
      · cases hstep
  | streamEnd =>
      simp only [step] at hstep
      split at hstep
      · cases hstep
        exact .inl rfl
      · cases hstep

theorem CommandsConfigured.step {labels : List Label} {s s' : State} {label : Label}
    (hconfigured : CommandsConfigured hooks labels s) (hstep : App.step hooks s label = some s') :
    CommandsConfigured hooks (labels ++ [label]) s' := by
  obtain ⟨hcommands, hlength⟩ := hconfigured
  rcases commands_step hstep with hsame | ⟨item, rfl, hnew⟩
  · refine ⟨hsame ▸ hcommands, ?_⟩
    rw [hsame, List.countP_append]
    omega
  · rcases receive_cases hooks item with hnone | ⟨event, hevent⟩
    · rw [hnone, List.append_nil] at hnew
      refine ⟨hnew ▸ hcommands, ?_⟩
      rw [hnew, List.countP_append]
      omega
    · constructor
      · intro cmd hmem
        rw [hnew] at hmem
        cases List.mem_append.mp hmem with
        | inl hold => exact hcommands cmd hold
        | inr hreceived => exact hookCommand_of_mem_handleHookEvent (hevent ▸ hreceived)
      · have hone := length_handleHookEvent_le hooks event
        rw [hnew, List.length_append, List.countP_append]
        cases hreceived : receive hooks item with
        | nil => simpa using Nat.le_add_right_of_le hlength
        | cons cmd rest =>
            rw [← hevent, hreceived] at hone
            simp only [List.countP_singleton, Label.isHook, hreceived]
            simp only [List.isEmpty_cons, Bool.not_false, if_true]
            omega

theorem commandsConfigured {labels : List Label} {s : State}
    (hrun : Transition.Runs (step hooks) start labels s) : CommandsConfigured hooks labels s := by
  have hinit : CommandsConfigured hooks [] start := by
    refine ⟨?_, Nat.le_refl _⟩
    intro cmd hmem
    cases hmem
  exact hrun.history_invariant (fun _ _ _ _ hconfigured hstep => hconfigured.step hstep) [] hinit

end App

/-! ### The composition -/

namespace System

variable {S : Type} [ResourceSource S] {env : Environment S}

inductive Move (env : Environment S) (s : State S) : Label S → State S → Prop where
  | app {label app shell client} (hstep : App.step env.hooks s.app label = some app)
      (hshell : Transition.Runs ShellRunner.step s.shell
        (newCalls s.app.commands app.commands) shell)
      (hclient : client = s.client ∨ s.client = none ∧
        client = some (Client.init env.monitor (registerRules env.config env.ids))) :
      Move env s (.app label) { app, client, shell }
  | client {label client client' shell} (hclient : s.client = some client)
      (hstep : Client.step env.config client label = some client')
      (hshell : Transition.Runs ShellRunner.step s.shell
        (newCalls (clientCommands client) (clientCommands client')) shell) :
      Move env s (.client label) { s with client := some client', shell }
  | start {i shell} (hshell : ShellRunner.step s.shell (.start i) = some shell) :
      Move env s (.start i) { s with shell }
  | startFails {i shell} (hshell : ShellRunner.step s.shell (.startFails i) = some shell) :
      Move env s (.startFails i) { s with shell }

theorem move_of_step {s s' : State S} {label : Label S} (hstep : step env s label = some s') :
    Move env s label s' := by
  cases label with
  | app label =>
      simp only [step, Option.ite_none_left_eq_some, Option.bind_eq_some_iff,
        Option.map_eq_some_iff] at hstep
      obtain ⟨_, app, happ, shell, hshell, rfl⟩ := hstep
      refine .app happ hshell ?_
      split
      next hregisters =>
        simp only [Bool.and_eq_true, Option.isNone_iff_eq_none] at hregisters
        exact .inr ⟨hregisters.1, rfl⟩
      next => exact .inl rfl
  | client label =>
      simp only [step, Option.ite_none_left_eq_some, Option.bind_eq_some_iff,
        Option.map_eq_some_iff] at hstep
      obtain ⟨_, client, hclient, client', hclient', shell, hshell, rfl⟩ := hstep
      exact .client hclient hclient' hshell
  | start i =>
      simp only [step, Option.ite_none_left_eq_some, Option.map_eq_some_iff] at hstep
      obtain ⟨_, shell, hshell, rfl⟩ := hstep
      exact .start hshell
  | startFails i =>
      simp only [step, Option.ite_none_left_eq_some, Option.map_eq_some_iff] at hstep
      obtain ⟨_, shell, hshell, rfl⟩ := hstep
      exact .startFails hshell

def appLabels (labels : List (Label S)) : List App.Label := labels.filterMap Label.appLabel

def clientLabels (labels : List (Label S)) : List (Client.Label S) :=
  labels.filterMap Label.clientLabel

def clientCalls (client : Option (Client.State S)) : List String := client.elim [] clientCommands

/-- The parts of a run of the daemon are runs of its parts, and the command runner has been handed
what the other two have called. -/
structure Assembled (env : Environment S) (labels : List (Label S)) (s : State S) : Prop where
  app : Transition.Runs (App.step env.hooks) App.start (appLabels labels) s.app
  client : match s.client with
    | none => clientLabels labels = []
    | some client =>
        Client.RunsFrom env.config env.monitor env.ids (clientLabels labels) client
  shell : ∃ shellLabels, Transition.Runs ShellRunner.step ShellRunner.init shellLabels s.shell ∧
    (recorded shellLabels).Perm (s.app.commands ++ clientCalls s.client)

theorem recorded_newCalls {before after : List String} (hgrow : before <+: after)
    (labels : List ShellRunner.Label) {others : List String}
    (hperm : (recorded labels).Perm (before ++ others)) :
    (recorded (labels ++ newCalls before after)).Perm (after ++ others) := by
  have hnew : recorded (newCalls before after) = after.drop before.length := by
    rw [recorded, newCalls, List.filterMap_map]
    exact List.filterMap_some
  have hafter : before ++ after.drop before.length = after :=
    List.prefix_iff_eq_append.mp hgrow
  calc recorded (labels ++ newCalls before after)
      = recorded labels ++ after.drop before.length := by
        rw [recorded, List.filterMap_append]
        exact congrArg (recorded labels ++ ·) hnew
    List.Perm _ ((before ++ others) ++ after.drop before.length) := hperm.append_right _
    List.Perm _ ((before ++ after.drop before.length) ++ others) := by
        rw [List.append_assoc, List.append_assoc]
        exact List.perm_append_comm.append_left before
    _ = after ++ others := by rw [hafter]

omit [ResourceSource S] in
theorem appLabels_concat (labels : List (Label S)) (label : Label S) :
    appLabels (labels ++ [label]) = appLabels labels ++ label.appLabel.toList := by
  rw [appLabels, List.filterMap_append]
  cases hlabel : label.appLabel <;> simp [appLabels, hlabel]

omit [ResourceSource S] in
theorem clientLabels_concat (labels : List (Label S)) (label : Label S) :
    clientLabels (labels ++ [label]) = clientLabels labels ++ label.clientLabel.toList := by
  rw [clientLabels, List.filterMap_append]
  cases hlabel : label.clientLabel <;> simp [clientLabels, hlabel]

/-- A step of a thread of the command runner. -/
theorem Assembled.of_shell {labels : List (Label S)} {s : State S} {label : Label S}
    {shellLabel : ShellRunner.Label} {shell : ShellRunner.State}
    (hassembled : Assembled env labels s) (happ : label.appLabel = none)
    (hclient : label.clientLabel = none) (hcmd : shellLabel.cmd = none)
    (hstep : ShellRunner.step s.shell shellLabel = some shell) :
    Assembled env (labels ++ [label]) { s with shell } := by
  obtain ⟨hruns, hclientRuns, shellLabels, hshell, hperm⟩ := hassembled
  have hrecorded : recorded (shellLabels ++ [shellLabel]) = recorded shellLabels := by
    simp [recorded, hcmd]
  refine ⟨?_, ?_, shellLabels ++ [shellLabel],
    Transition.runs_concat_iff.mpr ⟨s.shell, hshell, hstep⟩, hrecorded ▸ hperm⟩
  · rwa [appLabels_concat, happ, Option.toList_none, List.append_nil]
  · rwa [clientLabels_concat, hclient, Option.toList_none, List.append_nil]

theorem Assembled.step {labels : List (Label S)} {s s' : State S} {label : Label S}
    (hassembled : Assembled env labels s) (hmove : Move env s label s') :
    Assembled env (labels ++ [label]) s' := by
  obtain ⟨happ, hclient, shellLabels, hshell, hperm⟩ := id hassembled
  cases hmove with
  | @app label app shell client hstep hcalls hnow =>
      have hgrown : s.app.commands <+: app.commands := by
        rcases App.commands_step hstep with hsame | ⟨item, _, hnew⟩
        · exact hsame ▸ List.prefix_refl _
        · exact hnew ▸ List.prefix_append _ _
      have hsame : clientCalls client = clientCalls s.client := by
        rcases hnow with rfl | ⟨hnone, rfl⟩
        · rfl
        · rw [hnone]
          rfl
      have hclient' : clientLabels (labels ++ [.app label]) = clientLabels labels := by
        rw [clientLabels_concat]
        exact List.append_nil _
      refine ⟨?_, ?_, shellLabels ++ newCalls s.app.commands app.commands, hshell.append hcalls, ?_⟩
      · rw [appLabels_concat]
        exact Transition.runs_concat_iff.mpr ⟨s.app, happ, hstep⟩
      · rcases hnow with rfl | ⟨hnone, rfl⟩
        · rwa [hclient']
        · -- The client that registers now has taken no step yet.
          simp only [hnone] at hclient
          simp only [hclient', hclient]
          exact Transition.runs_nil_iff.mpr rfl
      · rw [hsame]
        exact recorded_newCalls hgrown shellLabels hperm
  | @client label client client' shell hsome hstep hcalls =>
      have hgrown : clientCommands client <+: clientCommands client' :=
        (Client.move_of_step hstep).calls_grow.map Prod.snd
      have hsame : clientCalls s.client = clientCommands client := by
        rw [hsome]
        rfl
      simp only [hsome] at hclient
      refine ⟨?_, ?_, shellLabels ++ newCalls (clientCommands client) (clientCommands client'),
        hshell.append hcalls, ?_⟩
      · rw [appLabels_concat]
        exact (List.append_nil (appLabels labels)).symm ▸ happ
      · rw [clientLabels_concat]
        exact Transition.runs_concat_iff.mpr ⟨client, hclient, hstep⟩
      · rw [hsame] at hperm
        have hadded := recorded_newCalls hgrown shellLabels (hperm.trans List.perm_append_comm)
        exact hadded.trans List.perm_append_comm
  | start hshell => exact hassembled.of_shell rfl rfl rfl hshell
  | startFails hshell => exact hassembled.of_shell rfl rfl rfl hshell

theorem RunsFrom.assembled {labels : List (Label S)} {s : State S}
    (hrun : RunsFrom env labels s) : Assembled env labels s := by
  obtain ⟨booted, hboot, hsteps⟩ := hrun
  have hinit : Assembled env [] booted := by
    unfold boot at hboot
    split at hboot
    · cases hboot
    · cases hboot
      exact ⟨Transition.runs_nil_iff.mpr rfl, rfl, [], Transition.runs_nil_iff.mpr rfl, .nil⟩
  exact hsteps.history_invariant
    (fun _ _ _ _ hassembled hstep => hassembled.step (move_of_step hstep)) [] hinit

/-! ### The accounts -/

/-- The command is that of a hook in `config.aam`, or of a rule that is registered. -/
def Configured (env : Environment S) (cmd : String) : Prop :=
  App.HookCommand env.hooks cmd ∨
    ∃ id ∈ Client.registeredIds env.config env.ids, Client.RuleCommand env.config id cmd

structure Accounted (env : Environment S) (labels : List (Label S)) (s : State S) : Prop where
  configured : ∀ process ∈ s.shell.processes,
    ∃ cmd, Configured env cmd ∧ shellText cmd = some process.2
  once : (s.shell.processes.map Prod.fst).Nodup
  bounded : s.shell.processes.length ≤ (appLabels labels).countP (App.Label.isHook env.hooks) +
    (clientLabels labels).countP Client.Label.isIdled +
    (clientLabels labels).countP Client.Label.isResumed

theorem Assembled.calls {labels : List (Label S)} {s : State S}
    (hassembled : Assembled env labels s) :
    (∀ cmd ∈ clientCalls s.client,
        ∃ id ∈ Client.registeredIds env.config env.ids, Client.RuleCommand env.config id cmd) ∧
      (clientCalls s.client).length ≤ (clientLabels labels).countP Client.Label.isIdled +
        (clientLabels labels).countP Client.Label.isResumed := by
  have hclient := hassembled.client
  cases hsome : s.client with
  | none => exact ⟨fun cmd hmem => (List.not_mem_nil hmem).elim, Nat.zero_le _⟩
  | some client =>
      simp only [hsome] at hclient
      constructor
      · intro cmd hmem
        obtain ⟨call, hcall, rfl⟩ := List.mem_map.mp hmem
        obtain ⟨id, hid, hcommand⟩ := hclient.callsConfigured.calls call hcall
        exact ⟨id, List.mem_of_getElem? hid, hcommand⟩
      · have hbound := hclient.calls_le
        rwa [← List.length_map Prod.snd] at hbound

/-- **Nothing runs unaccounted for.** Whatever order the listener, the dispatches, the checkers and
the shell threads go in, every process that the daemon has started runs the text of a configured
command, no call has started two, and there are at most as many as hook messages, `Idled` and
`Resumed` together. -/
theorem accounted {labels : List (Label S)} {s : State S} (hrun : RunsFrom env labels s) :
    Accounted env labels s := by
  have hassembled := hrun.assembled
  obtain ⟨shellLabels, hshell, hperm⟩ := hassembled.shell
  obtain ⟨hcommands, hlength⟩ := App.commandsConfigured hassembled.app
  obtain ⟨hcalls, hbound⟩ := hassembled.calls
  have hbooks := ShellRunner.books hshell
  have hthread : ∀ process ∈ s.shell.processes, process.1 < s.shell.threads.length := by
    intro process hmem
    exact (List.getElem?_eq_some_iff.mp ((hbooks.process process.1 process.2).mp hmem)).1
  refine ⟨?_, hbooks.once, ?_⟩
  · intro process hmem
    have hstarted := (hbooks.process process.1 process.2).mp hmem
    have htext := congrArg (fun texts => texts[process.1]?) hbooks.texts
    simp only [List.getElem?_map, hstarted, Option.map_some, ShellRunner.threadText] at htext
    obtain ⟨cmd, hcmd, hshellText⟩ := Option.map_eq_some_iff.mp htext.symm
    refine ⟨cmd, ?_, hshellText⟩
    cases List.mem_append.mp (hperm.mem_iff.mp (List.mem_of_getElem? hcmd)) with
    | inl hhook => exact .inl (hcommands cmd hhook)
    | inr hrule => exact .inr (hcalls cmd hrule)
  · -- The processes are of different calls.
    have hsubset : (s.shell.processes.map Prod.fst).length ≤ s.shell.threads.length := by
      have hrange : s.shell.processes.map Prod.fst ⊆ List.range s.shell.threads.length := by
        intro i hmem
        obtain ⟨process, hprocess, rfl⟩ := List.mem_map.mp hmem
        exact List.mem_range.mpr (hthread process hprocess)
      simpa using (hbooks.once.subperm hrange).length_le
    have hcount := hperm.length_eq
    rw [← hbooks.length_eq, List.length_append] at hcount
    rw [List.length_map] at hsubset
    omega

/-- A daemon with a lock hook and a rule. -/
def dimEnvironment : Environment FakeResourceSource where
  globalConfig := some (.ok fun key => [("lock_cmd", "hyprlock")].lookup key)
  rulesDir := "rules"
  loadDirWithSchema := .ok ()
  config := dimConfig
  ids := ["dim"]
  monitor := {}

def dimBooted : State FakeResourceSource :=
  { app := App.start, client := none, shell := ShellRunner.init }

/-- The listener and the client get through their set-up. -/
def comesUp : List (Label S) :=
  [.app (.setUp (.ok ())), .app (.wayland (.ok ())), .app (.setUp (.ok ())),
    .app (.wayland (.ok ())), .app (.wayland (.ok ())), .app (.wayland (.ok ())),
    .app (.setUp (.ok ()))]

theorem dim_accounted :
    ∃ s labels, RunsFrom dimEnvironment labels s ∧
      s.shell.processes = [(1, "hyprlock"), (0, "brightnessctl -s set 20%")] ∧
      Accounted dimEnvironment labels s := by
  obtain ⟨s, hrun⟩ := Transition.exists_runs (step dimEnvironment) dimBooted
    (comesUp ++ [.client (.idled 0), .client (.checker 0 0 .loadStart),
      .client (.checker 0 0 .poll), .client (.checker 0 0 .finalLoad),
      .client (.checker 0 0 .runOnTimeout), .app (.message (.ok App.lockSignal)), .start 1,
      .start 0]) (by decide +kernel)
  have hprocesses := hrun.observe (fun s => s.shell.processes)
    (by decide +kernel : _ = some [(1, "hyprlock"), (0, "brightnessctl -s set 20%")])
  have hbooted : RunsFrom dimEnvironment _ s := ⟨_, rfl, hrun⟩
  exact ⟨s, _, hbooted, hprocesses, accounted hbooted⟩

end System

end Nothypridle
