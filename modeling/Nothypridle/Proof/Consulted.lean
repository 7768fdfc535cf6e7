import Nothypridle.Proof.Inhibit

/-!
# What a poll consults

The settings whose getters a poll calls: those of its checks, up to the first check that inhibits.
The chain is evaluated here along with the calls, on the same states as in the poll.
-/

namespace Nothypridle

variable {S : Type} [ResourceSource S]

namespace Check

def all : List Check := [cpu, gpu, ram, vram, keepAlive, music, fullscreen]

theorem mem_all (check : Check) : check ∈ all := by
  cases check <;> decide

def run (loader : RuleConfigSource) (toplevels : Mutex FullscreenState) (id : String) :
    Check → PollM S Bool
  | .cpu => exceedsMax "max_cpu_usage" (loader.maxCpuUsage id) ResourceSource.getCpu
  | .gpu => exceedsMax "max_gpu_usage" (loader.maxGpuUsage id) ResourceSource.getGpu
  | .ram => belowMin "min_ram_mb" (loader.minRamMb id)
      (fun monitor => ResourceSource.getRam monitor / (1024 * 1024))
  | .vram => belowMinVram (loader.minVramMb id)
  | .keepAlive => inhibitByKeepAlive loader
  | .music => inhibitByMusic loader
  | .fullscreen => inhibitByFullscreen loader toplevels

/-- The getters that the check calls, `monitor` being the one it finds. -/
def getters (loader : RuleConfigSource) (id : String) (monitor : S) : Check → List Setting
  | .cpu => [.maxCpuUsage]
  | .gpu => [.maxGpuUsage]
  | .ram => [.minRamMb]
  | .vram => if ResourceSource.getVram monitor = u64Max then [] else [.minVramMb]
  | .keepAlive => [.keepAliveProcesses]
  | .music =>
      match loader.musicPlaying id with
      | .ok true => [.musicPlaying, .musicProcessName]
      | _ => [.musicPlaying]
  | .fullscreen => [.fullscreen]

theorem checks_eq (loader : RuleConfigSource) (toplevels : Mutex FullscreenState) (id : String) :
    checks (S := S) loader toplevels id = all.map (run loader toplevels id) := rfl

theorem run_id {loader : RuleConfigSource} {toplevels : Mutex FullscreenState} {id : String}
    (check : Check) {st : PollState S} (hid : st.rule.id = id) :
    ((check.run loader toplevels id).run st).2.rule.id = id := by
  have hmem : check.run loader toplevels id ∈ checks (S := S) loader toplevels id :=
    List.mem_map_of_mem check.mem_all
  exact (checks_sameCounters loader toplevels id _ hmem st hid).id.trans hid

end Check

section

variable (loader : RuleConfigSource) (fullscreen : Mutex FullscreenState) (id : String)

/-- The getters that a chain of checks calls from the state `st` on. -/
def consultedFrom : List Check → PollState S → List Setting
  | [], _ => []
  | check :: checks, st =>
      let result := (check.run loader fullscreen id).run st
      check.getters loader id st.monitor ++
        if result.1 then [] else consultedFrom checks result.2

end

def consulted (loader : RuleConfigSource) (resourceMonitor : Mutex S)
    (fullscreen : Mutex FullscreenState) (rule : RuleRuntime) : List Setting :=
  match resourceMonitor.lock with
  | .error _ => []
  | .ok monitor =>
      consultedFrom loader fullscreen rule.id Check.all ⟨ResourceSource.update monitor, rule, []⟩

/-- A poll is the chain of all checks. -/
theorem shouldInhibit_eq {resourceMonitor : Mutex S} {monitor : S}
    (hlock : resourceMonitor.lock = .ok monitor) (loader : RuleConfigSource)
    (fullscreen : Mutex FullscreenState) (rule : RuleRuntime) :
    shouldInhibit loader resourceMonitor fullscreen rule =
      let result := (untilInhibited (Check.all.map (Check.run loader fullscreen rule.id))).run
        ⟨ResourceSource.update monitor, rule, []⟩
      { inhibited := result.1, resourceMonitor := resourceMonitor.release result.2.monitor,
        rule := result.2.rule, warnings := result.2.warnings } := by
  rw [shouldInhibit, hlock, Check.checks_eq]

/-- **Induction along a poll.** What every check establishes of the calls it makes and of the states
before and after it, and what is passed on from one check to the next, holds of a chain. -/
theorem consultedFrom_induction (loader : RuleConfigSource) (fullscreen : Mutex FullscreenState)
    {id : String} (rel : List Setting → PollState S → PollState S → Prop)
    (hdone : ∀ st, rel [] st st)
    (htrans : ∀ first second st middle st', rel first st middle → rel second middle st' →
      rel (first ++ second) st st')
    (hcheck : ∀ (check : Check) st, st.rule.id = id →
      rel (check.getters loader id st.monitor) st ((check.run loader fullscreen id).run st).2)
    (checks : List Check) (st : PollState S) (hid : st.rule.id = id) :
    rel (consultedFrom loader fullscreen id checks st) st
      ((untilInhibited (checks.map (Check.run loader fullscreen id))).run st).2 := by
  induction checks generalizing st with
  | nil => exact hdone st
  | cons check checks ih =>
      have hfirst := hcheck check st hid
      rw [List.map_cons, run_untilInhibited_cons, consultedFrom]
      by_cases hinhibits : ((check.run loader fullscreen id).run st).1 = true
      · simpa [hinhibits] using hfirst
      · simp only [hinhibits]
        exact htrans _ _ _ _ _ hfirst (ih _ (check.run_id hid))

/-! ### What is not consulted -/

namespace Check

variable {loader loader' : RuleConfigSource} {id : String}

theorem run_congr (check : Check) (fullscreen : Mutex FullscreenState) (st : PollState S)
    (hid : st.rule.id = id)
    (hsame : ∀ setting ∈ check.getters loader id st.monitor, setting.SameIn loader loader' id) :
    (check.run loader fullscreen id).run st = (check.run loader' fullscreen id).run st := by
  cases check with
  | cpu =>
      have hcpu : loader.maxCpuUsage id = loader'.maxCpuUsage id := by
        simpa [getters, Setting.SameIn] using hsame
      rw [run, run, hcpu]
  | gpu =>
      have hgpu : loader.maxGpuUsage id = loader'.maxGpuUsage id := by
        simpa [getters, Setting.SameIn] using hsame
      rw [run, run, hgpu]
  | ram =>
      have hram : loader.minRamMb id = loader'.minRamMb id := by
        simpa [getters, Setting.SameIn] using hsame
      rw [run, run, hram]
  | vram =>
      rw [run, run, run_belowMinVram, run_belowMinVram]
      by_cases hmax : ResourceSource.getVram st.monitor = u64Max
      · rw [if_pos hmax, if_pos hmax]
      · have hvram : loader.minVramMb id = loader'.minVramMb id := by
          simpa [getters, hmax, Setting.SameIn] using hsame
        rw [hvram]
  | keepAlive =>
      have hlist : loader.keepAliveProcesses id = loader'.keepAliveProcesses id := by
        simpa [getters, Setting.SameIn] using hsame
      rw [run, run, run_inhibitByKeepAlive, run_inhibitByKeepAlive, hid, hlist]
  | music =>
      rw [run, run, run_inhibitByMusic, run_inhibitByMusic, hid]
      rcases hplaying : loader.musicPlaying id with err | _ | _
      · have hplaying' : loader'.musicPlaying id = .error err := by
          simpa [getters, hplaying, Setting.SameIn, eq_comm] using hsame
        rw [hplaying']
      · have hplaying' : loader'.musicPlaying id = .ok false := by
          simpa [getters, hplaying, Setting.SameIn, eq_comm] using hsame
        rw [hplaying']
      · have hboth : loader'.musicPlaying id = .ok true ∧
            loader.musicProcessName id = loader'.musicProcessName id := by
          simpa [getters, hplaying, Setting.SameIn, eq_comm] using hsame
        rw [hboth.1, hboth.2]
  | fullscreen =>
      have hfull : loader.fullscreen id = loader'.fullscreen id := by
        simpa [getters, Setting.SameIn] using hsame
      rw [run, run, run_inhibitByFullscreen, run_inhibitByFullscreen, hid, hfull]

end Check

/-- Two chains agree where every check agrees on what it consults. -/
theorem untilInhibited_congr {loader loader' : RuleConfigSource}
    {fullscreen fullscreen' : Mutex FullscreenState} {id : String} {same : Setting → Prop}
    (hcheck : ∀ (check : Check) (st : PollState S), st.rule.id = id →
      (∀ setting ∈ check.getters loader id st.monitor, same setting) →
      (check.run loader fullscreen id).run st = (check.run loader' fullscreen' id).run st)
    (checks : List Check) (st : PollState S) (hid : st.rule.id = id)
    (hsame : ∀ setting ∈ consultedFrom loader fullscreen id checks st, same setting) :
    (untilInhibited (checks.map (Check.run loader fullscreen id))).run st =
      (untilInhibited (checks.map (Check.run loader' fullscreen' id))).run st := by
  induction checks generalizing st with
  | nil => rfl
  | cons check checks ih =>
      rw [consultedFrom] at hsame
      have hrun := hcheck check st hid
        fun setting hmem => hsame setting (List.mem_append_left _ hmem)
      rw [List.map_cons, List.map_cons, run_untilInhibited_cons, run_untilInhibited_cons, ← hrun]
      by_cases hinhibits : ((check.run loader fullscreen id).run st).1 = true
      · rw [if_pos hinhibits, if_pos hinhibits]
      · rw [if_neg hinhibits, if_neg hinhibits]
        apply ih _ (check.run_id hid)
        intro setting hmem
        exact hsame setting (List.mem_append_right _ (by simpa [hinhibits] using hmem))

/-- A poll reads of the configuration what it consults and no more. -/
theorem shouldInhibit_congr {loader loader' : RuleConfigSource} {resourceMonitor : Mutex S}
    {fullscreen : Mutex FullscreenState} {rule : RuleRuntime}
    (hsame : ∀ setting ∈ consulted loader resourceMonitor fullscreen rule,
      setting.SameIn loader loader' rule.id) :
    shouldInhibit loader resourceMonitor fullscreen rule =
      shouldInhibit loader' resourceMonitor fullscreen rule := by
  cases hlock : resourceMonitor.lock with
  | error err => rw [shouldInhibit, shouldInhibit, hlock]
  | ok monitor =>
      rw [consulted, hlock] at hsame
      rw [shouldInhibit_eq hlock, shouldInhibit_eq hlock,
        untilInhibited_congr (fun check st hid => check.run_congr fullscreen st hid) Check.all _ rfl
          hsame]

/-! ### The map of toplevels -/

/-- The setting does not make a poll look at the map of toplevels. -/
def Setting.LeavesMap (loader : RuleConfigSource) (id : String) (setting : Setting) : Prop :=
  setting = fullscreen → loader.fullscreen id ≠ .ok true

theorem Check.run_congr_fullscreen {loader : RuleConfigSource} {id : String} (check : Check)
    (fullscreen fullscreen' : Mutex FullscreenState) (st : PollState S) (hid : st.rule.id = id)
    (hleaves : ∀ setting ∈ check.getters loader id st.monitor, setting.LeavesMap loader id) :
    (check.run loader fullscreen id).run st = (check.run loader fullscreen' id).run st := by
  cases check with
  | fullscreen =>
      have hoff : loader.fullscreen id ≠ .ok true := hleaves .fullscreen List.mem_cons_self rfl
      rw [run, run, run_inhibitByFullscreen, run_inhibitByFullscreen, hid]
      cases hfull : loader.fullscreen id with
      | error err => rfl
      | ok enabled =>
          cases enabled with
          | false => rfl
          | true => exact absurd hfull hoff
  | _ => rfl

/-- The map of toplevels is read only where the setting of the rule asks for it. -/
theorem shouldInhibit_congr_fullscreen {loader : RuleConfigSource} {resourceMonitor : Mutex S}
    {fullscreen : Mutex FullscreenState} {rule : RuleRuntime}
    (hleaves : ∀ setting ∈ consulted loader resourceMonitor fullscreen rule,
      setting.LeavesMap loader rule.id) (fullscreen' : Mutex FullscreenState) :
    shouldInhibit loader resourceMonitor fullscreen rule =
      shouldInhibit loader resourceMonitor fullscreen' rule := by
  cases hlock : resourceMonitor.lock with
  | error err => rw [shouldInhibit, shouldInhibit, hlock]
  | ok monitor =>
      rw [consulted, hlock] at hleaves
      rw [shouldInhibit_eq hlock, shouldInhibit_eq hlock,
        untilInhibited_congr
          (fun check st hid => check.run_congr_fullscreen fullscreen fullscreen' st hid) Check.all _
          rfl hleaves]

end Nothypridle
