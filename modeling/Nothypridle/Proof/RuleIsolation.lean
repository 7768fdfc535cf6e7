import Nothypridle.Proof.Consulted
import Nothypridle.Proof.RuleView
import Nothypridle.Resources

/-!
# Rules do not disturb one another

The rules share the monitor, the dispatcher and the map of toplevels. A poll overwrites every
reading of the monitor before it looks at one, so the readings that the polls of other rules have
left in the monitor are never seen. What is seen of such a poll is that it has refreshed the
processors: the CPU usage of the next poll is measured from there. The steps of the other rules can
therefore be deleted from a run, down to a refresh in the place of each of their polls: what is left
is a run, and it is the same for the rule, down to its flags, its threads and what it logs. A poll
that panics is the exception, since it poisons the monitor for all rules.
-/

namespace Nothypridle

open Entries (getElem?_set_of_some)

/-! ### What a poll leaves of the monitor -/

namespace ResourceMonitor

/-- The processors are refreshed, and nothing else has happened. -/
def refreshed (monitor : ResourceMonitor) : ResourceMonitor :=
  { monitor with sys := monitor.sys.refreshCpuAll }

/-- The monitors answer alike once they are updated. -/
structure SameSources (monitor other : ResourceMonitor) : Prop where
  gpuMonitor : other.gpuMonitor = monitor.gpuMonitor
  sys : other.sys = monitor.sys
  sysfs : other.sysfs = monitor.sysfs
  finder : other.finder = monitor.finder

theorem SameSources.refl (monitor : ResourceMonitor) : monitor.SameSources monitor :=
  ⟨rfl, rfl, rfl, rfl⟩

/-- `update` overwrites the readings of the last poll. -/
theorem SameSources.update_eq {monitor other : ResourceMonitor}
    (hsame : monitor.SameSources other) : other.update = monitor.update := by
  obtain ⟨hgpu, hsys, hsysfs, hfinder⟩ := hsame
  simp only [ResourceMonitor.update, hgpu, hsys, hsysfs, hfinder]

end ResourceMonitor

variable {config : RuleConfigSource}

namespace Client

theorem shouldInhibit_eq_of_sameSources {resourceMonitor other : Mutex ResourceMonitor}
    (hhealthy : resourceMonitor.poisoned = false) (hother : other.poisoned = false)
    (hsame : resourceMonitor.data.SameSources other.data) (fullscreen : Mutex FullscreenState)
    (rule : RuleRuntime) :
    shouldInhibit config other fullscreen rule =
      shouldInhibit config resourceMonitor fullscreen rule := by
  have hrelease : ∀ monitor, other.release monitor = resourceMonitor.release monitor := by
    intro monitor
    rw [Mutex.release, Mutex.release, hhealthy, hother]
  have hupdate : ResourceSource.update other.data =
      ResourceSource.update resourceMonitor.data := hsame.update_eq
  rw [shouldInhibit_eq (Mutex.lock_of_healthy hhealthy),
    shouldInhibit_eq (Mutex.lock_of_healthy hother), hupdate]
  simp only [hrelease]

/-! ### The steps of a rule -/

/-- The step for rule `j` as one for rule `j'`, or of the system that all rules share. Of the steps
of the other rules only the refresh of the processors remains, of each poll. -/
def Label.moved (j j' : ℕ) (s : State ResourceMonitor) :
    Label ResourceMonitor → Option (Label ResourceMonitor)
  | .idled i => if i = j then some (.idled j') else none
  | .resumed i => if i = j then some (.resumed j') else none
  | .loadFired i => if i = j then some (.loadFired j') else none
  | .clearFired i => if i = j then some (.clearFired j') else none
  | .runOnResume i => if i = j then some (.runOnResume j') else none
  | .checker i k action =>
      if i = j then some (.checker j' k action)
      else if action = .poll then some (.readings s.resourceMonitor.data.refreshed)
      else none
  | .pollPanics _ _ _ _ _ => none
  | .toplevel id event => some (.toplevel id event)
  | .readings monitor => some (.readings monitor)

/-- The states do not differ for the rule, which is rule `j` of the one and rule `j'` of the
other. A rule that has been dispatched is recorded in the one only, as long as it is another. -/
structure Alike (j j' : ℕ) (s t : State ResourceMonitor) : Prop where
  rule : t.rules[j']? = s.rules[j]?
  dispatcher : t.dispatcher = if s.dispatched = j then s.dispatcher else .waiting
  dispatched : t.dispatcher ≠ .waiting → t.dispatched = j'
  healthy : s.resourceMonitor.poisoned = false
  healthy' : t.resourceMonitor.poisoned = false
  sources : s.resourceMonitor.data.SameSources t.resourceMonitor.data
  fullscreen : t.fullscreen = s.fullscreen
  calls : ofRule j' t.calls = ofRule j s.calls
  warnings : ofRule j' t.warnings = ofRule j s.warnings

theorem Alike.dispatcher_waiting {j j' : ℕ} {s t : State ResourceMonitor} (halike : Alike j j' s t)
    (hwaiting : s.dispatcher = .waiting) : t.dispatcher = .waiting := by
  rw [halike.dispatcher]
  split
  · exact hwaiting
  · rfl

theorem Alike.dispatcher_eq {j j' : ℕ} {s t : State ResourceMonitor} (halike : Alike j j' s t)
    (hdispatched : s.dispatched = j) : t.dispatcher = s.dispatcher := by
  rw [halike.dispatcher, if_pos hdispatched]

theorem Alike.poll_eq {j j' : ℕ} {s t : State ResourceMonitor} (halike : Alike j j' s t)
    (config : RuleConfigSource) (runtime : RuleRuntime) :
    t.poll config runtime = s.poll config runtime := by
  rw [State.poll, State.poll, halike.fullscreen]
  exact shouldInhibit_eq_of_sameSources halike.healthy halike.healthy' halike.sources _ _

/-- A thread of the rule makes the same access. -/
theorem Alike.checkerStep_eq {j j' : ℕ} {s t : State ResourceMonitor} (halike : Alike j j' s t)
    (checker : Checker) (options : IdleCheckOptions) (runtime : RuleRuntime) (action : Action) :
    checker.step config options runtime (action.step t.resourceMonitor t.fullscreen) =
      checker.step config options runtime (action.step s.resourceMonitor s.fullscreen) := by
  cases action with
  | poll =>
      have hpoll := halike.poll_eq config runtime
      simp only [State.poll] at hpoll
      cases checker <;> simp only [Action.step, Checker.step, hpoll]
  | _ => rfl

/-! ### The simulation -/

section

variable {j j' : ℕ} {s s' t : State ResourceMonitor}

/-- A step for another rule. -/
theorem Alike.other (halike : Alike j j' s t) (hrule : s'.rules[j]? = s.rules[j]?)
    (hdispatcher : (if s'.dispatched = j then s'.dispatcher else .waiting) =
      if s.dispatched = j then s.dispatcher else .waiting)
    (hpoisoned : s'.resourceMonitor.poisoned = s.resourceMonitor.poisoned)
    (hsources : s'.resourceMonitor.data.SameSources t.resourceMonitor.data)
    (hfullscreen : s'.fullscreen = s.fullscreen) (hcalls : ofRule j s'.calls = ofRule j s.calls)
    (hwarnings : ofRule j s'.warnings = ofRule j s.warnings) : Alike j j' s' t where
  rule := halike.rule.trans hrule.symm
  dispatcher := halike.dispatcher.trans hdispatcher.symm
  dispatched := halike.dispatched
  healthy := hpoisoned.trans halike.healthy
  healthy' := halike.healthy'
  sources := hsources
  fullscreen := halike.fullscreen.trans hfullscreen.symm
  calls := halike.calls.trans hcalls.symm
  warnings := halike.warnings.trans hwarnings.symm

/-- The system answers both differently. -/
theorem Alike.readings (halike : Alike j j' s t) (monitor : ResourceMonitor) :
    Alike j j' { s with resourceMonitor := s.resourceMonitor.release monitor }
      { t with resourceMonitor := t.resourceMonitor.release monitor } :=
  { halike with
    sources := .refl monitor }

end

/-- A machine without cards, processes and players, whose processors are always busy to the same
degree. -/
def bareMonitor : ResourceMonitor where
  cpu := 0.0
  gpu := 0.0
  ram := 0
  vram := 0
  gpuMonitor := ⟨⟨[]⟩, ⟨none⟩, ⟨[]⟩⟩
  sys := ⟨unmeasuredCpus, 0, []⟩
  sysfs := ⟨fun _ => .error "No such file or directory (os error 2)", fun _ => false⟩
  finder := ⟨.ok [], id⟩

end Client

end Nothypridle
