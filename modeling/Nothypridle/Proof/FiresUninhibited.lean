import Nothypridle.Proof.FullscreenTracking
import Nothypridle.Proof.PoisonedMonitor
import Nothypridle.Proof.RuleView

/-!
# What precedes `on_timeout`

A thread that has got past its polls has last polled when nothing inhibited its rule, and what that
poll found is determined by the history: the map of toplevels by their events, and the lock of the
monitor by the polls that have panicked. So `on_timeout` is never called over a standing inhibitor,
unless a panic has disabled them all.
-/

namespace Nothypridle

variable {S : Type} [ResourceSource S] {config : RuleConfigSource}

/-- What the last poll of the checker has answered, where that shows. -/
def Checker.lastAnswer : Checker → Option Bool
  | .sleep _ => some true
  | .loopLoad _ => some true
  | .finalLoad _ => some false
  | .runOnTimeout => some false
  | .storeFired _ => some false
  | _ => none

theorem Checker.lastAnswer_of_step {options : IdleCheckOptions} {rule rule' : RuleRuntime}
    {checker checker' : Checker} {a : CheckerStep S} {commands : List String} {answer : Bool}
    (hstep : checker.step config options rule a = some (checker', rule', commands))
    (hanswer : checker'.lastAnswer = some answer) :
    (checker.lastAnswer = some answer ∧ ∀ monitor states, a ≠ .poll monitor states) ∨
      ∃ monitor states, a = .poll monitor states ∧
        (shouldInhibit config monitor states rule).inhibited = answer := by
  cases checker <;> cases a <;> simp only [Checker.step, reduceCtorEq] at hstep
  case loadStart.loadStart =>
    cases hstep
    cases hanswer
  case poll.poll startEpoch monitor states =>
    refine .inr ⟨monitor, states, rfl, ?_⟩
    split at hstep
    next hinhibited =>
      split at hstep <;> cases hstep <;> exact hinhibited.trans (Option.some.inj hanswer)
    next hfree =>
      cases hstep
      exact (Bool.eq_false_iff.mpr hfree).trans (Option.some.inj hanswer)
  case sleep.sleep startEpoch =>
    cases hstep
    exact .inl ⟨hanswer, by simp⟩
  case loopLoad.loopLoad startEpoch =>
    split at hstep <;> cases hstep <;> cases hanswer
  case finalLoad.finalLoad startEpoch =>
    split at hstep <;> cases hstep
    · cases hanswer
    · exact .inl ⟨hanswer, by simp⟩
  case runOnTimeout.runOnTimeout =>
    split at hstep <;> cases hstep <;> exact .inl ⟨hanswer, by simp⟩
  case storeFired.storeFired res =>
    cases hstep
    cases hanswer

namespace Client

/-! ### The last poll -/

/-- The last poll of the `k`-th thread of rule `j`, and what it answered. -/
def LastPoll (config : RuleConfigSource) (monitor : S) (ids : List String) (j k : ℕ)
    (answer : Bool) (labels : List (Label S)) : Prop :=
  ∃ earlier later middle rule, labels = earlier ++ .checker j k .poll :: later ∧
    .checker j k .poll ∉ later ∧ RunsFrom config monitor ids earlier middle ∧
    middle.rules[j]? = some rule ∧ (middle.poll config rule.runtime).inhibited = answer

theorem LastPoll.concat {monitor : S} {ids : List String} {j k : ℕ} {answer : Bool}
    {labels : List (Label S)} (hlast : LastPoll config monitor ids j k answer labels)
    {label : Label S} (hnot : label ≠ .checker j k .poll) :
    LastPoll config monitor ids j k answer (labels ++ [label]) := by
  obtain ⟨earlier, later, middle, rule, rfl, hlater, hrun, hget, hanswer⟩ := hlast
  exact ⟨earlier, later ++ [label], middle, rule, by simp, by simp [hlater, Ne.symm hnot], hrun,
    hget, hanswer⟩

/-- Every thread has gone on as its last poll answered. -/
structure GoesByPolls (config : RuleConfigSource) (monitor : S) (ids : List String)
    (labels : List (Label S)) (s : State S) : Prop where
  run : RunsFrom config monitor ids labels s
  polled : ∀ {j k : ℕ} {rule : Rule} {thread : Thread} {answer : Bool},
    s.rules[j]? = some rule → rule.threads[k]? = some thread →
    thread.checker.lastAnswer = some answer → LastPoll config monitor ids j k answer labels

theorem GoesByPolls.step {monitor : S} {ids : List String} {labels : List (Label S)}
    {s s' : State S} {label : Label S} (hgoes : GoesByPolls config monitor ids labels s)
    (hstep : Client.step config s label = some s') :
    GoesByPolls config monitor ids (labels ++ [label]) s' := by
  refine ⟨Transition.runs_concat_iff.mpr ⟨s, hgoes.run, hstep⟩, ?_⟩
  intro j k rule' thread' answer hget' hthread' hanswer
  rcases (move_of_step hstep).backward hget' hthread' with
    ⟨rule, thread, hget, hthread, hsame, hlabel⟩ | ⟨_, rfl⟩ |
    ⟨action, rule, thread, runtime, commands, rfl, hget, hthread, hchecker⟩
  · exact (hgoes.polled hget hthread (hsame ▸ hanswer)).concat (hlabel .poll)
  · cases hanswer
  · rcases Checker.lastAnswer_of_step hchecker hanswer with ⟨hbefore, hnot⟩ | ⟨_, _, hpoll, hfound⟩
    · apply (hgoes.polled hget hthread hbefore).concat
      intro heq
      obtain ⟨_, _, rfl⟩ := Label.checker.inj heq
      exact hnot _ _ rfl
    · cases action <;> cases hpoll
      exact ⟨labels, [], s, rule, by simp, by simp, hgoes.run, hget, hfound⟩

theorem RunsFrom.goesByPolls {monitor : S} {ids : List String} {labels : List (Label S)}
    {s : State S} (hrun : RunsFrom config monitor ids labels s) :
    GoesByPolls config monitor ids labels s := by
  have hinit : GoesByPolls config monitor ids [] (init monitor (registerRules config ids)) := by
    refine ⟨Transition.runs_nil_iff.mpr rfl, ?_⟩
    intro j k rule thread answer hget hthread _
    rw [init_rules, List.getElem?_map] at hget
    obtain ⟨id, _, rfl⟩ := Option.map_eq_some_iff.mp hget
    cases hthread
  have hpreserved : ∀ (history : List (Label S)) (s : State S) label s',
      GoesByPolls config monitor ids history s → Client.step config s label = some s' →
      GoesByPolls config monitor ids (history ++ [label]) s' :=
    fun _ _ _ _ hgoes hstep => hgoes.step hstep
  exact Transition.Runs.history_invariant hpreserved [] hrun hinit

/-! ### What the history shows of the shared state -/

def toplevelEvents (labels : List (Label S)) : List ToplevelEvent :=
  labels.filterMap fun label =>
    match label with
    | .toplevel id event => some (id, event)
    | _ => none

structure Shared (config : RuleConfigSource) (ids : List String) (labels : List (Label S))
    (s : State S) : Prop where
  ids : s.rules.map (fun rule => rule.runtime.id) = registeredIds config ids
  poisoned : s.resourceMonitor.poisoned = labels.any Label.isPanic
  fullscreen : labels.any Label.isPanic = false →
    s.fullscreen = trackToplevels (toplevelEvents labels)

theorem Shared.step {ids : List String} {labels : List (Label S)} {s s' : State S}
    {label : Label S} (hshared : Shared config ids labels s) (hmove : Move config s label s') :
    Shared config ids (labels ++ [label]) s' := by
  obtain ⟨hids, hpoisoned, hfullscreen⟩ := hshared
  have hids' := hmove.ids_eq.trans hids
  -- The steps that are neither toplevel events nor panics.
  have hrest : ∀ {t : State S}, label.isPanic = false → toplevelEvents [label] = [] →
      t.rules.map (fun rule => rule.runtime.id) = registeredIds config ids →
      t.resourceMonitor.poisoned = s.resourceMonitor.poisoned → t.fullscreen = s.fullscreen →
      Shared config ids (labels ++ [label]) t := by
    intro t hpanic hevents hrules hmonitor hmap
    refine ⟨hrules, by simp [hmonitor, hpoisoned, hpanic], ?_⟩
    intro hnone
    have hevents' : toplevelEvents (labels ++ [label]) = toplevelEvents labels := by
      rw [toplevelEvents, List.filterMap_append]
      exact (congrArg _ hevents).trans (List.append_nil _)
    rw [hmap, hevents', hfullscreen (by simpa [hpanic] using hnone)]
  cases hmove with
  | idled => exact hrest rfl rfl hids' rfl rfl
  | resumed => exact hrest rfl rfl hids' rfl rfl
  | loadFired => exact hrest rfl rfl hids' rfl rfl
  | clearFired => exact hrest rfl rfl hids' rfl rfl
  | runOnResume => exact hrest rfl rfl hids' rfl rfl
  | @checker j k action rule thread checker runtime commands hget hthread halive hstep =>
      apply hrest rfl rfl hids'
      · rw [accessed_resourceMonitor]
        split
        · exact shouldInhibit_poisoned config s.resourceMonitor s.fullscreen rule.runtime
        · rfl
      · rw [accessed_fullscreen]
  | pollPanics =>
      refine ⟨hids', by simp [Mutex.poison, Label.isPanic], ?_⟩
      intro hnone
      simp [Label.isPanic] at hnone
  | @toplevel id event =>
      refine ⟨hids', by simpa [Label.isPanic] using hpoisoned, ?_⟩
      intro hnone
      have hbefore : labels.any Label.isPanic = false := by simpa [Label.isPanic] using hnone
      simp only [hfullscreen hbefore, toplevelEvents, List.filterMap_append]
      exact (trackToplevels_concat _ id event).symm
  | readings => exact hrest rfl rfl hids' rfl rfl

theorem RunsFrom.shared {monitor : S} {ids : List String} {labels : List (Label S)} {s : State S}
    (hrun : RunsFrom config monitor ids labels s) : Shared config ids labels s := by
  have hinit : Shared config ids [] (init monitor (registerRules config ids)) := by
    refine ⟨?_, rfl, fun _ => rfl⟩
    rw [init_rules, List.map_map]
    exact List.map_id'' (fun _ => rfl) _
  have hpreserved : ∀ (history : List (Label S)) (s : State S) label s',
      Shared config ids history s → Client.step config s label = some s' →
      Shared config ids (history ++ [label]) s' :=
    fun _ _ _ _ hshared hstep => hshared.step (move_of_step hstep)
  exact Transition.Runs.history_invariant hpreserved [] hrun hinit

/-! ### The law -/

/-- Nothing inhibits the rule: no check holds of what the system answers, and no toplevel is
fullscreen by its latest update. -/
structure Uninhibited (config : RuleConfigSource) (id : String) (snapshot : S)
    (events : List ToplevelEvent) : Prop where
  checks : ∀ check ≠ Check.fullscreen, ∀ states,
    ¬check.Holds config id snapshot (afterProcessCheck config id snapshot) states
  fullscreen : config.fullscreen id = .ok true → ∀ toplevel bytes,
    latestUpdate toplevel events = some (.state bytes) → ¬HasFullscreenWord bytes

/-- Only the last check looks at the toplevels. -/
theorem holds_states_iff {id : String} {snapshot players : S}
    {states states' : FullscreenState} {check : Check} (hne : check ≠ .fullscreen) :
    check.Holds config id snapshot players states ↔
      check.Holds config id snapshot players states' := by
  cases check with
  | fullscreen => exact absurd rfl hne
  | _ => rfl

theorem Shared.uninhibited {ids : List String} {labels : List (Label S)} {s : State S}
    (hshared : Shared config ids labels s) (hnone : labels.any Label.isPanic = false)
    {runtime : RuleRuntime} (hfree : (s.poll config runtime).inhibited = false) :
    Uninhibited config runtime.id (ResourceSource.update s.resourceMonitor.data)
      (toplevelEvents labels) := by
  have hlock : s.resourceMonitor.lock = .ok s.resourceMonitor.data :=
    Mutex.lock_of_healthy (hshared.poisoned.trans hnone)
  have htracked := tracked (toplevelEvents labels)
  have hvisible : visible s.fullscreen = (trackToplevels (toplevelEvents labels)).data := by
    rw [hshared.fullscreen hnone, visible, if_neg (by simp [htracked.healthy])]
  have hnoCheck : ∀ check : Check, ¬check.Holds config runtime.id
      (ResourceSource.update s.resourceMonitor.data)
      (afterProcessCheck config runtime.id (ResourceSource.update s.resourceMonitor.data))
      (trackToplevels (toplevelEvents labels)).data := by
    intro check hholds
    have hinhibits := (shouldInhibit_iff_of_lock hlock config s.fullscreen runtime).mpr
      ⟨check, hvisible ▸ hholds⟩
    exact absurd hinhibits (by simpa [State.poll] using hfree)
  constructor
  · intro check hne states hholds
    exact hnoCheck check ((holds_states_iff hne).mp hholds)
  · intro henabled toplevel bytes hlatest hword
    apply hnoCheck .fullscreen
    refine ⟨henabled, toplevel, ?_⟩
    rw [htracked.lookup, hlatest]
    exact congrArg some (isFullscreen_iff.mpr hword)

/-- **`on_timeout` is called only after nothing inhibited.** Wherever in a run of the client a
thread hands a command to the runner, or would if the rule had one, it has last polled at a moment
when nothing inhibited its rule, by what the system answered then and by all that the toplevels had
reported until then; or some poll had panicked before. -/
theorem fires_uninhibited {monitor : S} {ids : List String} {before : List (Label S)}
    {s s' : State S} (hrun : RunsFrom config monitor ids before s) {j k : ℕ} {action : Action}
    (hstep : step config s (.checker j k action) = some s')
    (hcall : s'.calls ≠ s.calls ∨ action = .runOnTimeout) {id : String}
    (hid : (registeredIds config ids)[j]? = some id) :
    ∃ earlier later middle, before = earlier ++ .checker j k .poll :: later ∧
      .checker j k .poll ∉ later ∧ RunsFrom config monitor ids earlier middle ∧
      ((∃ label ∈ earlier, label.isPanic = true) ∨
        Uninhibited config id (ResourceSource.update middle.resourceMonitor.data)
          (toplevelEvents earlier)) := by
  have haction : action = .runOnTimeout := by
    refine hcall.elim (fun hne => ?_) (·)
    obtain ⟨_, _, hcalls⟩ := calls_of_step hstep
    rw [hcalls] at hne
    cases action with
    | runOnTimeout => rfl
    | _ => exact absurd (List.append_nil _) hne
  subst haction
  have hpolled : LastPoll config monitor ids j k false before := by
    cases move_of_step hstep with
    | @checker _ _ _ rule thread checker runtime commands hget hthread halive hchecker =>
        apply hrun.goesByPolls.polled hget hthread
        revert hchecker
        cases thread.checker <;> intro hchecker
        case runOnTimeout => rfl
        all_goals cases hchecker
  obtain ⟨earlier, later, middle, rule, hsplit, hlast, hpoll, hget, hfree⟩ := hpolled
  refine ⟨earlier, later, middle, hsplit, hlast, hpoll, ?_⟩
  have hshared := hpoll.shared
  have hruleId : rule.runtime.id = id := by
    have hat := congrArg (fun ids => ids[j]?) hshared.ids
    simp only [List.getElem?_map, hget, hid, Option.map_some] at hat
    exact Option.some.inj hat
  cases hpanics : earlier.any Label.isPanic with
  | true => exact .inl (List.any_eq_true.mp hpanics)
  | false => exact .inr (hruleId ▸ hshared.uninhibited hpanics hfree)

/-- A rule that a fullscreen toplevel inhibits. -/
def filmConfig : RuleConfigSource :=
  FakeConfig.source { fullscreen := some true, onTimeoutCmd := some "brightnessctl -s set 20%" }

theorem film_fires_uninhibited :
    ∃ (s s' : State FakeResourceSource) (earlier later : List (Label FakeResourceSource))
      (middle : State FakeResourceSource),
      s.calls = [] ∧ s'.calls = [(0, "brightnessctl -s set 20%")] ∧
      [.toplevel ⟨7⟩ (.state [3, 0, 0, 0]), .idled 0, .checker 0 0 .loadStart, .checker 0 0 .poll,
        .toplevel ⟨7⟩ .closed, .checker 0 0 .sleep, .checker 0 0 .loopLoad, .checker 0 0 .poll,
        .checker 0 0 .finalLoad] = earlier ++ .checker 0 0 .poll :: later ∧
      .checker 0 0 .poll ∉ later ∧ RunsFrom filmConfig {} ["dim"] earlier middle ∧
      ((∃ label ∈ earlier, label.isPanic = true) ∨
        Uninhibited filmConfig "dim" (ResourceSource.update middle.resourceMonitor.data)
          (toplevelEvents earlier)) := by
  obtain ⟨s', hrun⟩ := Transition.exists_runs (step filmConfig)
    (init ({} : FakeResourceSource) (registerRules filmConfig ["dim"]))
    ([.toplevel ⟨7⟩ (.state [3, 0, 0, 0]), .idled 0, .checker 0 0 .loadStart, .checker 0 0 .poll,
      .toplevel ⟨7⟩ .closed, .checker 0 0 .sleep, .checker 0 0 .loopLoad, .checker 0 0 .poll,
      .checker 0 0 .finalLoad] ++ [.checker 0 0 .runOnTimeout]) (by decide +kernel)
  have hafter := hrun.observe State.calls
    (by decide +kernel : _ = some [(0, "brightnessctl -s set 20%")])
  obtain ⟨s, hbefore, hstep⟩ := Transition.runs_concat_iff.mp hrun
  have hnone := hbefore.observe State.calls (by decide +kernel : _ = some [])
  have hregistered : (registeredIds filmConfig ["dim"])[0]? = some "dim" := by decide
  obtain ⟨earlier, later, middle, hfires⟩ := fires_uninhibited hbefore hstep
    (.inl (by rw [hafter, hnone]; simp)) hregistered
  exact ⟨s, s', earlier, later, middle, hnone, hafter, hfires⟩

end Client

end Nothypridle
