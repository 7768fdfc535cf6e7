import Nothypridle.Lib.Simulation
import Nothypridle.Proof.ClientMoves
import Nothypridle.Proof.Registration

/-!
# A rule among the others

Seen from one rule, the whole client is that rule alone: the one-rule machine follows every step of
the client, with the steps for the rule as its own and nothing for all other steps. What the polls
log is not part of the view, and with it the set of keys that have been reported.
-/

namespace Nothypridle

open Entries (getElem?_set_of_some map_set_eq)

variable {S : Type} [ResourceSource S] {config : RuleConfigSource}

/-! ### Rules that differ in what they have reported -/

theorem RuleRuntime.SameCounters.symm {rule other : RuleRuntime} (hsame : rule.SameCounters other) :
    other.SameCounters rule :=
  ⟨hsame.id.symm, hsame.epoch.symm, hsame.fired.symm⟩

/-- The answer of a poll does not depend on what has been reported. -/
theorem shouldInhibit_inhibited_eq (config : RuleConfigSource) {rule other : RuleRuntime}
    (hid : other.id = rule.id) (resourceMonitor : Mutex S) (fullscreen : Mutex FullscreenState) :
    (shouldInhibit config resourceMonitor fullscreen other).inhibited =
      (shouldInhibit config resourceMonitor fullscreen rule).inhibited := by
  cases hlock : resourceMonitor.lock with
  | error err =>
      rw [shouldInhibit_of_poisoned hlock config fullscreen other,
        shouldInhibit_of_poisoned hlock config fullscreen rule]
  | ok source =>
      rw [Bool.eq_iff_iff, shouldInhibit_iff_of_lock hlock, shouldInhibit_iff_of_lock hlock, hid]

/-- Where a poll leaves its checker. -/
def Checker.afterPoll (options : IdleCheckOptions) (startEpoch : UInt64) (inhibited : Bool) :
    Checker :=
  if inhibited then if options.pollInterval > 0 then .sleep startEpoch else .loopLoad startEpoch
  else .finalLoad startEpoch

theorem Checker.step_poll (config : RuleConfigSource) (options : IdleCheckOptions)
    (rule : RuleRuntime) (startEpoch : UInt64) (resourceMonitor : Mutex S)
    (fullscreen : Mutex FullscreenState) :
    (Checker.poll startEpoch).step config options rule (.poll resourceMonitor fullscreen) =
      some (afterPoll options startEpoch
          (shouldInhibit config resourceMonitor fullscreen rule).inhibited,
        (shouldInhibit config resourceMonitor fullscreen rule).rule, []) := by
  simp only [Checker.step, afterPoll]
  split
  · split <;> rfl
  · rfl

section

variable {config' : RuleConfigSource} {options : IdleCheckOptions}
  {rule rule' other : RuleRuntime} {checker checker' : Checker} {a : CheckerStep S}
  {commands : List String}

/-- Between its polls, a checker sees the counters and its command and nothing else. -/
theorem Checker.step_congr (hsame : rule.SameCounters other)
    (htimeout : config'.onTimeout other.id = config.onTimeout rule.id)
    (hnot : ∀ resourceMonitor fullscreen, a ≠ .poll resourceMonitor fullscreen)
    (hstep : checker.step config options rule a = some (checker', rule', commands)) :
    ∃ other', checker.step config' options other a = some (checker', other', commands) ∧
      rule'.SameCounters other' := by
  have hepoch := hsame.epoch
  cases Checker.move_of_step hstep with
  | loadStart => exact ⟨other, by rw [Checker.step, hepoch], hsame⟩
  | pollSleep => exact absurd rfl (hnot _ _)
  | pollAgain => exact absurd rfl (hnot _ _)
  | pollFree => exact absurd rfl (hnot _ _)
  | sleep => exact ⟨other, rfl, hsame⟩
  | loopAbort hstale => exact ⟨other, if_pos (hepoch ▸ hstale), hsame⟩
  | loopAgain => exact ⟨other, if_neg (not_not.mpr hepoch), hsame⟩
  | finalAbort hstale => exact ⟨other, if_pos (hepoch ▸ hstale), hsame⟩
  | finalPass => exact ⟨other, if_neg (not_not.mpr hepoch), hsame⟩
  | fire hcmd => exact ⟨other, by simp only [Checker.step, htimeout, hcmd], hsame⟩
  | noCommand hcmd => exact ⟨other, by simp only [Checker.step, htimeout, hcmd], hsame⟩
  | parseError hcmd => exact ⟨other, by simp only [Checker.step, htimeout, hcmd], hsame⟩
  | storeFired => exact ⟨other.setFired true, rfl, hsame.id, hsame.epoch, rfl⟩

/-- A checker makes the same step whatever its rule has reported. -/
theorem Checker.step_sameCounters (hsame : rule.SameCounters other)
    (hstep : checker.step config options rule a = some (checker', rule', commands)) :
    ∃ other', checker.step config options other a = some (checker', other', commands) ∧
      rule'.SameCounters other' := by
  have htimeout : config.onTimeout other.id = config.onTimeout rule.id := by rw [hsame.id]
  cases a with
  | poll resourceMonitor fullscreen =>
      cases checker with
      | poll startEpoch =>
          have hpoll := shouldInhibit_sameCounters config resourceMonitor fullscreen rule
          have hother := shouldInhibit_sameCounters config resourceMonitor fullscreen other
          rw [step_poll] at hstep
          cases hstep
          rw [step_poll, shouldInhibit_inhibited_eq config hsame.id resourceMonitor fullscreen]
          exact ⟨_, rfl, (hpoll.symm.trans hsame).trans hother⟩
      | _ => cases hstep
  | _ => exact step_congr hsame htimeout (fun _ _ heq => by cases heq) hstep

end

namespace IdleCycle

/-- What `handle_rule_resumed` hands to the runner, it hands over in one step. -/
theorem step_runOnResume {options : IdleCheckOptions} {s : State}
    (hrunning : s.dispatcher = .runOnResume) :
    step config options s (.runOnResume : Label S) =
      some { s with
        commands := s.commands ++ commandOf (config.onResume s.rule.id)
        dispatcher := .waiting } := by
  rw [step, if_pos hrunning]
  rcases hrestore : config.onResume s.rule.id with err | _ | cmd <;> simp [commandOf]

end IdleCycle

namespace Client

/-! ### The view -/

/-- What the steps of the client are for rule `j`. -/
def labelOf (j : ℕ) (s : State S) : Label S → Option (IdleCycle.Label S)
  | .idled i => if i = j then some .idled else none
  | .resumed i => if i = j then some .resumed else none
  | .loadFired i => if i = j then some .loadFired else none
  | .clearFired i => if i = j then some .clearFired else none
  | .runOnResume i => if i = j then some .runOnResume else none
  | .checker i k action =>
      if i = j then some (.checker k (action.step s.resourceMonitor s.fullscreen)) else none
  | .pollPanics _ _ _ _ _ => none
  | .toplevel _ _ => none
  | .readings _ => none

def ofRule (j : ℕ) (calls : List (ℕ × String)) : List String :=
  (calls.filter fun call => call.1 = j).map Prod.snd

theorem ofRule_append (i j : ℕ) (calls : List (ℕ × String)) (commands : List String) :
    ofRule j (calls ++ commands.map (i, ·)) =
      ofRule j calls ++ if i = j then commands else [] := by
  rw [ofRule, ofRule, List.filter_append, List.map_append, List.filter_map]
  by_cases heq : i = j
  · simp [heq, Function.comp_def]
  · simp [heq, Function.comp_def]

/-- Rule `j` as the one-rule machine sees it, but for the keys it has reported and for which of its
threads have panicked. -/
structure ShowsAs (j : ℕ) (s : State S) (rule : Rule) (t : IdleCycle.State) : Prop where
  runtime : rule.runtime.SameCounters t.rule
  idle : t.idle = rule.idle
  checkers : t.checkers = rule.threads.map Thread.checker
  dispatcher : t.dispatcher = if s.dispatched = j then s.dispatcher else .waiting
  commands : t.commands = ofRule j s.calls

def View (j : ℕ) (s : State S) (t : IdleCycle.State) : Prop :=
  ∃ rule, s.rules[j]? = some rule ∧ ShowsAs j s rule t

omit [ResourceSource S] in
theorem ShowsAs.dispatcher_waiting {j : ℕ} {s : State S} {rule : Rule} {t : IdleCycle.State}
    (hview : ShowsAs j s rule t) (hwaiting : s.dispatcher = .waiting) :
    t.dispatcher = .waiting := by
  rw [hview.dispatcher]
  split
  · exact hwaiting
  · rfl

omit [ResourceSource S] in
theorem ShowsAs.dispatcher_eq {j : ℕ} {s : State S} {rule : Rule} {t : IdleCycle.State}
    (hview : ShowsAs j s rule t) (hdispatched : s.dispatched = j) :
    t.dispatcher = s.dispatcher := by
  rw [hview.dispatcher, if_pos hdispatched]

omit [ResourceSource S] in
/-- An unchanged rule. -/
theorem View.unchanged {j : ℕ} {s s' : State S} {t : IdleCycle.State} (hview : View j s t)
    (hrule : s'.rules[j]? = s.rules[j]?) (hcalls : ofRule j s'.calls = ofRule j s.calls)
    (hdispatcher : (if s'.dispatched = j then s'.dispatcher else .waiting) =
      if s.dispatched = j then s.dispatcher else .waiting) : View j s' t := by
  obtain ⟨rule, hget, hshows⟩ := hview
  refine ⟨rule, hrule.trans hget, ?_⟩
  exact ⟨hshows.runtime, hshows.idle, hshows.checkers, by rw [hdispatcher, hshows.dispatcher],
    by rw [hcalls, hshows.commands]⟩

omit [ResourceSource S] in
theorem View.shows {j : ℕ} {s : State S} {rule : Rule} {t : IdleCycle.State} (hview : View j s t)
    (hget : s.rules[j]? = some rule) : ShowsAs j s rule t := by
  obtain ⟨other, hother, hshows⟩ := hview
  rwa [Option.some.inj (hget.symm.trans hother)]

/-! ### The simulation -/

section

variable {j k : ℕ} {s : State S} {t : IdleCycle.State} {rule : Rule}

/-- The one-rule machine follows with the step `label`, from what it sees as `t` to what it sees of
`s'`. -/
def Follows (config : RuleConfigSource) (j : ℕ) (t : IdleCycle.State) (label : IdleCycle.Label S)
    (s' : State S) : Prop :=
  ∃ t', IdleCycle.step config .default t label = some t' ∧ View j s' t'

theorem follows_idled (hshows : ShowsAs j s rule t) (hget : s.rules[j]? = some rule)
    (hwaiting : s.dispatcher = .waiting) (hactive : rule.idle = false) :
    Follows config j t .idled
      (s.setRule j { rule with idle := true, threads := rule.threads ++ [.spawned] }) := by
  refine ⟨{ t with idle := true, checkers := t.checkers ++ [.loadStart] }, ?_, ?_⟩
  · rw [IdleCycle.step, if_pos ⟨hshows.dispatcher_waiting hwaiting, hshows.idle.trans hactive⟩]
  · refine ⟨_, getElem?_set_of_some hget _, ?_⟩
    exact ⟨hshows.runtime, rfl, by simp [hshows.checkers, Thread.spawned], hshows.dispatcher,
      hshows.commands⟩

theorem follows_resumed (hshows : ShowsAs j s rule t) (hget : s.rules[j]? = some rule)
    (hwaiting : s.dispatcher = .waiting) (hidle : rule.idle = true) :
    Follows config j t .resumed
      { s.setRule j { rule with idle := false, runtime := rule.runtime.bumpEpoch } with
        dispatcher := .loadFired
        dispatched := j } := by
  refine ⟨{ t with idle := false, rule := t.rule.bumpEpoch, dispatcher := .loadFired }, ?_, ?_⟩
  · rw [IdleCycle.step, if_pos ⟨hshows.dispatcher_waiting hwaiting, hshows.idle.trans hidle⟩]
  · refine ⟨_, getElem?_set_of_some hget _, ?_⟩
    obtain ⟨hid, hepoch, hfired⟩ := hshows.runtime
    refine ⟨⟨hid, ?_, hfired⟩, rfl, hshows.checkers, (if_pos rfl).symm, hshows.commands⟩
    simp [hepoch]

theorem follows_loadFired (hshows : ShowsAs j s rule t) (hget : s.rules[j]? = some rule)
    (hloading : s.dispatcher = .loadFired) (hdispatched : s.dispatched = j) :
    Follows config j t .loadFired
      { s with dispatcher := if rule.runtime.fired then .clearFired else .waiting } := by
  refine ⟨{ t with dispatcher := if t.rule.fired then .clearFired else .waiting }, ?_, ?_⟩
  · rw [IdleCycle.step, if_pos ((hshows.dispatcher_eq hdispatched).trans hloading)]
  · refine ⟨rule, hget, hshows.runtime, hshows.idle, hshows.checkers, ?_, hshows.commands⟩
    simp only [hshows.runtime.fired]
    exact (if_pos hdispatched).symm

theorem follows_clearFired (hshows : ShowsAs j s rule t) (hget : s.rules[j]? = some rule)
    (hclearing : s.dispatcher = .clearFired) (hdispatched : s.dispatched = j) :
    Follows config j t .clearFired
      { s.setRule j { rule with runtime := rule.runtime.setFired false } with
        dispatcher := .runOnResume } := by
  refine ⟨{ t with rule := t.rule.setFired false, dispatcher := .runOnResume }, ?_, ?_⟩
  · rw [IdleCycle.step, if_pos ((hshows.dispatcher_eq hdispatched).trans hclearing)]
  · refine ⟨_, getElem?_set_of_some hget _, ?_⟩
    exact ⟨⟨hshows.runtime.id, hshows.runtime.epoch, rfl⟩, hshows.idle, hshows.checkers,
      (if_pos hdispatched).symm, hshows.commands⟩

theorem follows_runOnResume (hshows : ShowsAs j s rule t) (hget : s.rules[j]? = some rule)
    (hrunning : s.dispatcher = .runOnResume) (hdispatched : s.dispatched = j) :
    Follows config j t .runOnResume
      { s with
        calls := s.calls ++ (commandOf (config.onResume rule.runtime.id)).map (j, ·)
        dispatcher := .waiting } := by
  refine ⟨{ t with
    commands := t.commands ++ commandOf (config.onResume rule.runtime.id)
    dispatcher := .waiting }, ?_, ?_⟩
  · rw [IdleCycle.step_runOnResume ((hshows.dispatcher_eq hdispatched).trans hrunning),
      hshows.runtime.id]
  · refine ⟨rule, hget, hshows.runtime, hshows.idle, hshows.checkers, (if_pos hdispatched).symm, ?_⟩
    rw [ofRule_append, if_pos rfl, hshows.commands]

theorem follows_checker {thread : Thread} {action : Action} {checker : Checker}
    {runtime : RuleRuntime} {commands : List String} (hshows : ShowsAs j s rule t)
    (hget : s.rules[j]? = some rule) (hthread : rule.threads[k]? = some thread)
    (hstep : thread.checker.step config .default rule.runtime
      (action.step s.resourceMonitor s.fullscreen) = some (checker, runtime, commands)) :
    Follows config j t (.checker k (action.step s.resourceMonitor s.fullscreen))
      (s.accessed config j k rule thread action checker runtime commands) := by
  obtain ⟨other, hother, hsame⟩ := Checker.step_sameCounters hshows.runtime hstep
  have hat : t.checkers[k]? = some thread.checker := by
    rw [hshows.checkers, List.getElem?_map, hthread, Option.map_some]
  refine ⟨{ t with
    rule := other
    checkers := t.checkers.set k checker
    commands := t.commands ++ commands }, ?_, ?_⟩
  · simp [IdleCycle.step, hat, hother]
  · refine ⟨{ rule with runtime, threads := rule.threads.set k { thread with checker } }, ?_, ?_⟩
    · rw [accessed_rules]
      exact getElem?_set_of_some hget _
    · refine ⟨hsame, hshows.idle, ?_, ?_, ?_⟩
      · rw [List.map_set, hshows.checkers]
      · rw [accessed_dispatched, accessed_dispatcher, hshows.dispatcher]
      · rw [accessed_calls, ofRule_append, if_pos rfl, hshows.commands]

omit [ResourceSource S] in
/-- A poll that panics leaves no trace but in what has been reported. -/
theorem view_pollPanics {startEpoch : UInt64} {monitor : S} {warned : Mutex (Finset String)}
    {fullscreen : Mutex FullscreenState} (hshows : ShowsAs j s rule t)
    (hget : s.rules[j]? = some rule)
    (hthread : rule.threads[k]? = some ⟨.poll startEpoch, false⟩) :
    View j
      { s.setRule j
          { rule with
            runtime := { rule.runtime with warned }
            threads := rule.threads.set k ⟨.poll startEpoch, true⟩ } with
        resourceMonitor := (s.resourceMonitor.release monitor).poison
        fullscreen } t := by
  refine ⟨_, getElem?_set_of_some hget _, ?_⟩
  have hcheckers : (rule.threads.set k ⟨.poll startEpoch, true⟩).map Thread.checker =
      rule.threads.map Thread.checker := map_set_eq Thread.checker hthread rfl
  exact ⟨⟨hshows.runtime.id, hshows.runtime.epoch, hshows.runtime.fired⟩, hshows.idle,
    hshows.checkers.trans hcheckers.symm, hshows.dispatcher, hshows.commands⟩

end

/-- **The client simulates every rule alone.** -/
theorem viewSimulation (config : RuleConfigSource) (j : ℕ) :
    Transition.Simulation (step (S := S) config) (fun _ _ => True)
      (IdleCycle.step config .default) (labelOf j) (View j) := by
  intro s t label s' hview _ hstep
  -- A step for the rule itself is followed by one step, any other step by none.
  have hown : ∀ {own : IdleCycle.Label S}, Follows config j t own s' →
      ∃ t', Transition.Runs (IdleCycle.step config .default) t [own] t' ∧ View j s' t' := by
    intro own hfollows
    obtain ⟨t', hstep', hview'⟩ := hfollows
    exact ⟨t', Transition.runs_singleton_iff.mpr hstep', hview'⟩
  have hstays : View j s' t → ∃ t', Transition.Runs (IdleCycle.step (S := S) config .default) t []
      t' ∧ View j s' t' := fun hview' => ⟨t, Transition.runs_nil_iff.mpr rfl, hview'⟩
  have hother : ∀ {i : ℕ} {rule : Rule}, i ≠ j → (s.rules.set i rule)[j]? = s.rules[j]? :=
    fun hne => List.getElem?_set_ne hne
  cases move_of_step hstep with
  | @idled i rule hget hwaiting hactive =>
      by_cases hij : i = j
      · subst hij
        rw [labelOf, if_pos rfl]
        exact hown (follows_idled (hview.shows hget) hget hwaiting hactive)
      · rw [labelOf, if_neg hij]
        exact hstays (hview.unchanged (hother hij) rfl rfl)
  | @resumed i rule hget hwaiting hidle =>
      by_cases hij : i = j
      · subst hij
        rw [labelOf, if_pos rfl]
        exact hown (follows_resumed (hview.shows hget) hget hwaiting hidle)
      · rw [labelOf, if_neg hij]
        exact hstays (hview.unchanged (hother hij) rfl (by simp [hij, hwaiting]))
  | @loadFired i rule hget hloading hdispatched =>
      by_cases hij : i = j
      · subst hij
        rw [labelOf, if_pos rfl]
        exact hown (follows_loadFired (hview.shows hget) hget hloading hdispatched)
      · rw [labelOf, if_neg hij]
        exact hstays (hview.unchanged rfl rfl (by simp [hdispatched, hij]))
  | @clearFired i rule hget hclearing hdispatched =>
      by_cases hij : i = j
      · subst hij
        rw [labelOf, if_pos rfl]
        exact hown (follows_clearFired (hview.shows hget) hget hclearing hdispatched)
      · rw [labelOf, if_neg hij]
        exact hstays (hview.unchanged (hother hij) rfl
          (by simp [State.setRule, hdispatched, hij]))
  | @runOnResume i rule hget hrunning hdispatched =>
      by_cases hij : i = j
      · subst hij
        rw [labelOf, if_pos rfl]
        exact hown (follows_runOnResume (hview.shows hget) hget hrunning hdispatched)
      · rw [labelOf, if_neg hij]
        exact hstays (hview.unchanged rfl (by simp [ofRule_append, hij])
          (by simp [hdispatched, hij]))
  | @checker i k action rule thread checker runtime commands hget hthread halive hchecker =>
      by_cases hij : i = j
      · subst hij
        rw [labelOf, if_pos rfl]
        exact hown (follows_checker (hview.shows hget) hget hthread hchecker)
      · rw [labelOf, if_neg hij]
        exact hstays (hview.unchanged (by rw [accessed_rules, hother hij])
          (by simp [ofRule_append, hij]) (by simp))
  | @pollPanics i k monitor warned readsMap rule startEpoch source hget hthread hlock =>
      by_cases hij : i = j
      · subst hij
        exact hstays (view_pollPanics (hview.shows hget) hget hthread)
      · exact hstays (hview.unchanged (hother hij) rfl rfl)
  | toplevel => exact hstays (hview.unchanged rfl rfl rfl)
  | readings => exact hstays (hview.unchanged rfl rfl rfl)

/-! ### Runs from the registration -/

/-- The ids in the order of their notifications. -/
def registeredIds (config : RuleConfigSource) (ids : List String) : List String :=
  ids.filter fun id => (config.timeout id).isOk

omit [ResourceSource S] in
theorem init_rules (config : RuleConfigSource) (monitor : S) (ids : List String) :
    (init monitor (registerRules config ids)).rules =
      (registeredIds config ids).map fun id => ⟨.new id, false, []⟩ := by
  rw [init, (registered config ids).rules, registeredIds, ← map_fst_timedRules, List.map_map,
    List.map_map]
  rfl

/-- What rule `j` does in a run of the client. -/
def ownLabels (config : RuleConfigSource) (monitor : S) (ids : List String) (j : ℕ)
    (labels : List (Label S)) : List (IdleCycle.Label S) :=
  Transition.translate (step config) (labelOf j) (init monitor (registerRules config ids)) labels

omit [ResourceSource S] in
theorem view_init {monitor : S} {ids : List String} {j : ℕ} {id : String}
    (hid : (registeredIds config ids)[j]? = some id) :
    View j (init monitor (registerRules config ids)) (IdleCycle.init id) := by
  refine ⟨⟨.new id, false, []⟩, ?_, ⟨.refl _, rfl, rfl, ?_, rfl⟩⟩
  · rw [init_rules, List.getElem?_map, hid, Option.map_some]
  · exact (ite_self _).symm

/-- **Every rule behaves as if it were alone.** In any run of the client, with any number of rules
and whatever the other rules, the toplevels and the system do, what the client does for a rule is a
run of the one-rule machine. -/
theorem rule_runs_alone {monitor : S} {ids : List String} {labels : List (Label S)} {s : State S}
    (hrun : RunsFrom config monitor ids labels s) {j : ℕ} {id : String}
    (hid : (registeredIds config ids)[j]? = some id) :
    ∃ t, IdleCycle.RunsFrom config .default id (ownLabels config monitor ids j labels) t ∧
      View j s t :=
  (viewSimulation config j).runs_of_unguarded hrun (view_init hid)

theorem dim_runs_alone :
    ∃ (s : State FakeResourceSource) (t : IdleCycle.State),
      RunsFrom dimConfig {} ["dim", "lock"] [.idled 0, .checker 0 0 .loadStart, .idled 1,
        .checker 0 0 .poll, .checker 1 0 .loadStart, .checker 0 0 .finalLoad,
        .checker 0 0 .runOnTimeout, .checker 0 0 .storeFired, .resumed 1, .loadFired 1, .resumed 0,
        .loadFired 0, .clearFired 0, .runOnResume 0] s ∧
      t.commands = ["brightnessctl -s set 20%", "brightnessctl -r"] ∧ View 0 s t := by
  obtain ⟨s, hrun⟩ := Transition.exists_runs (step dimConfig)
    (init ({} : FakeResourceSource) (registerRules dimConfig ["dim", "lock"]))
    [.idled 0, .checker 0 0 .loadStart, .idled 1, .checker 0 0 .poll, .checker 1 0 .loadStart,
      .checker 0 0 .finalLoad, .checker 0 0 .runOnTimeout, .checker 0 0 .storeFired, .resumed 1,
      .loadFired 1, .resumed 0, .loadFired 0, .clearFired 0, .runOnResume 0] (by decide +kernel)
  have hcalls := hrun.observe (fun s => ofRule 0 s.calls)
    (by decide +kernel : _ = some ["brightnessctl -s set 20%", "brightnessctl -r"])
  have hregistered : (registeredIds dimConfig ["dim", "lock"])[0]? = some "dim" := by decide
  obtain ⟨t, _, hview⟩ := rule_runs_alone hrun hregistered
  obtain ⟨rule, _, hshows⟩ := id hview
  exact ⟨s, t, hrun, hshows.commands.trans hcalls, hview⟩

end Client

end Nothypridle
