import Nothypridle.Daemon
import Nothypridle.Fakes
import Nothypridle.Proof.Inhibit

/-!
# After a panic

The monitor is poisoned from the first panic on, and a poll that finds it poisoned returns before
its first check. So one panic takes every inhibitor of every rule away, including the one that looks
at the toplevels only.
-/

namespace Nothypridle

variable {S : Type} [ResourceSource S]

theorem shouldInhibit_poisoned (config : RuleConfigSource) (resourceMonitor : Mutex S)
    (fullscreen : Mutex FullscreenState) (rule : RuleRuntime) :
    (shouldInhibit config resourceMonitor fullscreen rule).resourceMonitor.poisoned =
      resourceMonitor.poisoned := by
  unfold shouldInhibit
  split <;> rfl

/-- With a fullscreen toplevel in the map, a rule that looks at it is inhibited exactly if its poll
gets to the checks. -/
theorem shouldInhibit_iff_healthy {config : RuleConfigSource} {resourceMonitor : Mutex S}
    {fullscreen : Mutex FullscreenState} {rule : RuleRuntime}
    (hrule : config.fullscreen rule.id = .ok true) (hhealthy : fullscreen.poisoned = false)
    (hany : fullscreen.data.anyFullscreen = true) :
    (shouldInhibit config resourceMonitor fullscreen rule).inhibited = true ↔
      resourceMonitor.poisoned = false := by
  cases hpoisoned : resourceMonitor.poisoned with
  | true => simp [shouldInhibit_of_poisoned (Mutex.lock_of_poisoned hpoisoned)]
  | false =>
      have hvisible : visible fullscreen = fullscreen.data := by simp [visible, hhealthy]
      rw [shouldInhibit_iff_of_lock (Mutex.lock_of_healthy hpoisoned)]
      exact iff_of_true
        ⟨.fullscreen, hrule, FullscreenState.anyFullscreen_iff.mp (hvisible ▸ hany)⟩ rfl

namespace Daemon

theorem step_poisoned {config : RuleConfigSource} {s s' : State S} {label : Label S}
    (hstep : step config s label = some s') :
    s'.resourceMonitor.poisoned = (s.resourceMonitor.poisoned || label.isPanic) := by
  cases label with
  | poll k =>
      simp only [step, Option.map_eq_some_iff] at hstep
      obtain ⟨rule, hrule, rfl⟩ := hstep
      simp [shouldInhibit_poisoned, Label.isPanic]
  | pollPanics k monitor warned readsMap =>
      simp only [step] at hstep
      split at hstep
      · obtain rfl := Option.some.inj hstep
        simp [Mutex.poison, Label.isPanic]
      · cases hstep
  | toplevel id event =>
      obtain rfl := Option.some.inj hstep
      simp [Label.isPanic]
  | readings monitor =>
      obtain rfl := Option.some.inj hstep
      simp [Mutex.release, Label.isPanic]
  | counters k epoch fired =>
      simp only [step, Option.map_eq_some_iff] at hstep
      obtain ⟨rule, hrule, rfl⟩ := hstep
      simp [Label.isPanic]

theorem poisoned_eq_any {config : RuleConfigSource} {monitor : S} {ids : List String}
    {labels : List (Label S)} {s : State S}
    (hrun : Transition.Runs (step config) (init monitor ids) labels s) :
    s.resourceMonitor.poisoned = labels.any Label.isPanic := by
  have hpreserved : ∀ (history : List (Label S)) (s : State S) label s',
      s.resourceMonitor.poisoned = history.any Label.isPanic → step config s label = some s' →
      s'.resourceMonitor.poisoned = (history ++ [label]).any Label.isPanic := by
    intro history s label s' hinv hstep
    rw [step_poisoned hstep, hinv, List.any_append]
    simp
  exact hrun.history_invariant hpreserved [] rfl

/-- What the fullscreen setting of the rule promises of a poll made now. -/
def InhibitsOnFullscreen (config : RuleConfigSource) (s : State S) (rule : RuleRuntime) : Prop :=
  config.fullscreen rule.id = .ok true → s.fullscreen.poisoned = false →
    s.fullscreen.data.anyFullscreen = true →
    (shouldInhibit config s.resourceMonitor s.fullscreen rule).inhibited = true

/-- The poll of `dim` panics, and `lock` is no longer inhibited by the fullscreen toplevel. -/
theorem exists_uninhibited_after_panic :
    ∃ s, Transition.Runs (step (FakeConfig.source { fullscreen := some true }))
        (init ({} : FakeResourceSource) ["dim", "lock"])
        [.toplevel ⟨7⟩ (.state [3, 0, 0, 0]), .pollPanics 0 {} (.new ∅) false] s ∧
      ∃ rule ∈ s.rules, rule.id = "lock" ∧
        ¬InhibitsOnFullscreen (FakeConfig.source { fullscreen := some true }) s rule := by
  refine ⟨_, rfl, .new "lock", ?_, rfl, ?_⟩
  · simp [init]
  · intro hinhibits
    exact absurd (hinhibits rfl rfl (by decide +kernel)) (by decide +kernel)

/-- **After a panic** no poll is inhibited any more: in every run, a later poll that a fullscreen
toplevel should inhibit is inhibited exactly if no poll has panicked before. -/
theorem inhibited_iff_no_panic {config : RuleConfigSource} {monitor : S} {ids : List String}
    {labels : List (Label S)} {s : State S}
    (hrun : Transition.Runs (step config) (init monitor ids) labels s) {rule : RuleRuntime}
    (hrule : config.fullscreen rule.id = .ok true) (hhealthy : s.fullscreen.poisoned = false)
    (hany : s.fullscreen.data.anyFullscreen = true) :
    (shouldInhibit config s.resourceMonitor s.fullscreen rule).inhibited = true ↔
      ∀ label ∈ labels, label.isPanic = false := by
  rw [shouldInhibit_iff_healthy hrule hhealthy hany, poisoned_eq_any hrun]
  simp

theorem fullscreen_inhibits_lock :
    ∃ s : State FakeResourceSource,
      (shouldInhibit (FakeConfig.source { fullscreen := some true }) s.resourceMonitor s.fullscreen
        (.new "lock")).inhibited = true := by
  obtain ⟨s, hrun⟩ := Transition.exists_runs
    (step (FakeConfig.source { fullscreen := some true }))
    (init ({} : FakeResourceSource) ["dim", "lock"])
    [.toplevel ⟨7⟩ (.state [3, 0, 0, 0]), .poll 0] (by decide +kernel)
  have hhealthy := hrun.observe (fun s => s.fullscreen.poisoned)
    (by decide +kernel : _ = some false)
  have hany := hrun.observe (fun s => s.fullscreen.data.anyFullscreen)
    (by decide +kernel : _ = some true)
  exact ⟨s, (inhibited_iff_no_panic hrun rfl hhealthy hany).mpr (by decide)⟩

end Daemon

end Nothypridle
