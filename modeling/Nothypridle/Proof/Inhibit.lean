import Nothypridle.Monitor
import Mathlib.Algebra.Group.Nat.Defs
import Mathlib.Tactic.Common

/-!
# The inhibitor decision

A poll inhibits exactly when one of the seven checks holds. Each check is described by the same
three facts (`CheckSpec`): what its answer means, what it does to the monitor, and that it leaves
the epoch and the fired flag of the rule alone. Only the process check changes the monitor, so the
players are asked on the monitor it leaves.
-/

namespace Nothypridle

variable {S : Type} [ResourceSource S]

inductive Check where
  | cpu | gpu | ram | vram | keepAlive | music | fullscreen
  deriving DecidableEq

/-- What each check looks for, `players` being the monitor on which the players are asked. -/
def Check.Holds (loader : RuleConfigSource) (id : String) (snapshot players : S)
    (states : FullscreenState) : Check → Prop
  | .cpu => ∃ max, loader.maxCpuUsage id = .ok max ∧ ResourceSource.getCpu snapshot > max
  | .gpu => ∃ max, loader.maxGpuUsage id = .ok max ∧ ResourceSource.getGpu snapshot > max
  | .ram => ∃ min, loader.minRamMb id = .ok min ∧
      (ResourceSource.getRam snapshot).toNat / 2 ^ 20 < min.toNat
  | .vram => ResourceSource.getVram snapshot ≠ u64Max ∧ ∃ min, loader.minVramMb id = .ok min ∧
      (ResourceSource.getVram snapshot).toNat < min.toNat
  | .keepAlive => ∃ targets, loader.keepAliveProcesses id = .ok targets ∧ targets ≠ [] ∧
      (ResourceSource.checkAnyProcessRunning snapshot targets).1 = true
  | .music => loader.musicPlaying id = .ok true ∧
      ((∃ name, loader.musicProcessName id = .ok (some name) ∧
          ResourceSource.isAudioPlaying players name = true) ∨
        (loader.musicProcessName id = .ok none ∧ ResourceSource.isAnyAudioPlaying players = true))
  | .fullscreen => loader.fullscreen id = .ok true ∧ ∃ toplevel,
      states.states.lookup toplevel = some true

/-- The monitor after the process check, which is made only for a non-empty list. -/
def afterProcessCheck (loader : RuleConfigSource) (id : String) (monitor : S) : S :=
  match loader.keepAliveProcesses id with
  | .ok [] => monitor
  | .ok targets => (ResourceSource.checkAnyProcessRunning monitor targets).2
  | .error _ => monitor

/-! ### The single checks -/

/-- What a check answers in state `st`, and what it leaves of the monitor and of the rule. -/
structure CheckResult (st : PollState S) (result : Bool × PollState S) (holds : Prop) (after : S) :
    Prop where
  value : result.1 = true ↔ holds
  monitor : result.2.monitor = after
  rule : st.rule.SameCounters result.2.rule

def CheckSpec (id : String) (check : PollM S Bool) (holds : S → Prop) (after : S → S) : Prop :=
  ∀ st : PollState S, st.rule.id = id →
    CheckResult st (check.run st) (holds st.monitor) (after st.monitor)

omit [ResourceSource S] in
theorem CheckResult.skipped (st : PollState S) :
    CheckResult st (false, st) False st.monitor :=
  ⟨by simp, rfl, .refl st.rule⟩

omit [ResourceSource S] in
theorem CheckResult.warned (st : PollState S) (key msg : String) :
    CheckResult st (false, ((warnOnce key msg).run st).2) False st.monitor :=
  ⟨by simp, rfl, st.rule.warnOnce_sameCounters key msg⟩

omit [ResourceSource S] in
theorem CheckResult.answered (st : PollState S) (answer : Bool) :
    CheckResult st (answer, st) (answer = true) st.monitor :=
  ⟨Iff.rfl, rfl, .refl st.rule⟩

omit [ResourceSource S] in
theorem CheckResult.congr {st : PollState S} {result : Bool × PollState S} {holds holds' : Prop}
    {after : S} (hresult : CheckResult st result holds after) (hiff : holds ↔ holds') :
    CheckResult st result holds' after :=
  ⟨hresult.value.trans hiff, hresult.monitor, hresult.rule⟩

section Specs

variable (loader : RuleConfigSource) (id : String)

omit [ResourceSource S] in
theorem exceedsMax_spec (key : String) (getter : Except String Float32) (current : S → Float32) :
    CheckSpec id (exceedsMax key getter current)
      (fun monitor => ∃ max, getter = .ok max ∧ current monitor > max)
      (fun monitor => monitor) := by
  intro st _
  cases getter with
  | ok max =>
      apply CheckResult.congr
        (CheckResult.answered st (some (decide (current st.monitor > max)) == some true))
      simp
  | error err =>
      apply CheckResult.congr (CheckResult.warned st key _)
      simp

omit [ResourceSource S] in
theorem belowMin_spec (key : String) (getter : Except String UInt32) (currentMb : S → UInt64) :
    CheckSpec id (belowMin key getter currentMb)
      (fun monitor => ∃ min, getter = .ok min ∧ (currentMb monitor).toNat < min.toNat)
      (fun monitor => monitor) := by
  intro st _
  cases getter with
  | ok min =>
      apply CheckResult.congr
        (CheckResult.answered st (some (decide (currentMb st.monitor < min.toUInt64)) == some true))
      simp [UInt64.lt_iff_toNat_lt]
  | error err =>
      apply CheckResult.congr (CheckResult.warned st key _)
      simp

theorem run_belowMinVram (getter : Except String UInt32) (st : PollState S) :
    (belowMinVram getter).run st =
      if ResourceSource.getVram st.monitor = u64Max then (false, st)
      else (belowMin "min_vram_mb" getter ResourceSource.getVram).run st := by
  change StateT.run (if _ then _ else _) st = _
  split <;> rfl

theorem belowMinVram_spec (getter : Except String UInt32) :
    CheckSpec id (belowMinVram (S := S) getter)
      (fun monitor => ResourceSource.getVram monitor ≠ u64Max ∧ ∃ min, getter = .ok min ∧
        (ResourceSource.getVram monitor).toNat < min.toNat)
      (fun monitor => monitor) := by
  intro st hid
  have hbelow := belowMin_spec (S := S) id "min_vram_mb" getter ResourceSource.getVram st hid
  rw [run_belowMinVram]
  by_cases hmax : ResourceSource.getVram st.monitor = u64Max
  · rw [if_pos hmax]
    exact (CheckResult.skipped st).congr (by simp [hmax])
  · rw [if_neg hmax]
    exact hbelow.congr (by simp [hmax])

theorem run_inhibitByKeepAlive (st : PollState S) :
    (inhibitByKeepAlive loader).run st =
      match loader.keepAliveProcesses st.rule.id with
      | .ok [] => (false, st)
      | .ok (target :: targets) =>
          let result := ResourceSource.checkAnyProcessRunning st.monitor (target :: targets)
          (result.1, { st with monitor := result.2 })
      | .error err =>
          let id := st.rule.id
          let msg :=
            s!"Monitor: rule '{id}' has unparseable 'keep_alive_processes'; skipping process check: {err}"
          (false, ((warnOnce "keep_alive_processes" msg).run st).2) := by
  rw [inhibitByKeepAlive, StateT.run_bind, StateT.run_get, pure_bind]
  dsimp only
  cases loader.keepAliveProcesses st.rule.id with
  | ok targets => cases targets <;> rfl
  | error err => rfl

theorem keepAlive_spec :
    CheckSpec id (inhibitByKeepAlive loader)
      (fun monitor : S => ∃ targets, loader.keepAliveProcesses id = .ok targets ∧ targets ≠ [] ∧
        (ResourceSource.checkAnyProcessRunning monitor targets).1 = true)
      (afterProcessCheck loader id) := by
  intro st hid
  rw [run_inhibitByKeepAlive, afterProcessCheck, hid]
  cases loader.keepAliveProcesses id with
  | error err => exact (CheckResult.warned st _ _).congr (by simp)
  | ok targets =>
      cases targets with
      | nil => exact (CheckResult.skipped st).congr (by simp)
      | cons target targets => exact ⟨by simp, rfl, .refl st.rule⟩

theorem run_inhibitByMusic (st : PollState S) :
    (inhibitByMusic loader).run st =
      match loader.musicPlaying st.rule.id, loader.musicProcessName st.rule.id with
      | .ok true, .ok (some name) => (ResourceSource.isAudioPlaying st.monitor name, st)
      | .ok true, .ok none => (ResourceSource.isAnyAudioPlaying st.monitor, st)
      | .ok true, .error err =>
          let id := st.rule.id
          let msg :=
            s!"Monitor: rule '{id}' has unparseable 'music_process_name'; skipping music check: {err}"
          (false, ((warnOnce "music_process_name" msg).run st).2)
      | _, _ => (false, st) := by
  rw [inhibitByMusic, StateT.run_bind, StateT.run_get, pure_bind]
  dsimp only
  rcases loader.musicPlaying st.rule.id with err | _ | _
  · rfl
  · rfl
  · rcases loader.musicProcessName st.rule.id with err | _ | name <;> rfl

theorem music_spec :
    CheckSpec id (inhibitByMusic loader)
      (fun monitor : S => loader.musicPlaying id = .ok true ∧
        ((∃ name, loader.musicProcessName id = .ok (some name) ∧
            ResourceSource.isAudioPlaying monitor name = true) ∨
          (loader.musicProcessName id = .ok none ∧
            ResourceSource.isAnyAudioPlaying monitor = true)))
      (fun monitor => monitor) := by
  intro st hid
  rw [run_inhibitByMusic, hid]
  cases loader.musicPlaying id with
  | error err => exact (CheckResult.skipped st).congr (by simp)
  | ok playing =>
      cases playing with
      | false => exact (CheckResult.skipped st).congr (by simp)
      | true =>
          cases loader.musicProcessName id with
          | error err => exact (CheckResult.warned st _ _).congr (by simp)
          | ok name =>
              cases name with
              | none => exact (CheckResult.answered st _).congr (by simp)
              | some name => exact (CheckResult.answered st _).congr (by simp)

omit [ResourceSource S] in
theorem run_inhibitByFullscreen (fullscreen : Mutex FullscreenState) (st : PollState S) :
    (inhibitByFullscreen loader fullscreen).run st =
      match loader.fullscreen st.rule.id, fullscreen.lock with
      | .ok true, .ok states => (states.anyFullscreen, st)
      | _, _ => (false, st) := by
  simp only [inhibitByFullscreen, StateT.run_bind, StateT.run_get, pure_bind]
  rcases loader.fullscreen st.rule.id with err | _ | _
  · rfl
  · rfl
  · cases fullscreen.lock <;> rfl

omit [ResourceSource S] in
theorem fullscreen_spec (fullscreen : Mutex FullscreenState) :
    CheckSpec id (inhibitByFullscreen loader fullscreen)
      (fun _ : S => loader.fullscreen id = .ok true ∧
        ∃ states, fullscreen.lock = .ok states ∧ states.anyFullscreen = true)
      (fun monitor => monitor) := by
  intro st hid
  rw [run_inhibitByFullscreen, hid]
  cases loader.fullscreen id with
  | error err => exact (CheckResult.skipped st).congr (by simp)
  | ok enabled =>
      cases enabled with
      | false => exact (CheckResult.skipped st).congr (by simp)
      | true =>
          cases fullscreen.lock with
          | error err => exact (CheckResult.skipped st).congr (by simp)
          | ok states => exact (CheckResult.answered st _).congr (by simp)

end Specs

/-! ### The chain of checks -/

omit [ResourceSource S] in
theorem run_untilInhibited_cons (check : PollM S Bool) (checks : List (PollM S Bool))
    (st : PollState S) :
    (untilInhibited (check :: checks)).run st =
      if (check.run st).1 = true then (true, (check.run st).2)
      else (untilInhibited checks).run (check.run st).2 := by
  change StateT.run (if (check.run st).1 = true then _ else _) (check.run st).2 = _
  split <;> rfl

def ChainSpec (id : String) (checks : List (PollM S Bool)) (holds : S → Prop) : Prop :=
  ∀ st : PollState S, st.rule.id = id →
    (((untilInhibited checks).run st).1 = true ↔ holds st.monitor)

omit [ResourceSource S] in
theorem ChainSpec.nil (id : String) : ChainSpec (S := S) id [] fun _ => False :=
  fun _ _ => ⟨fun hinhibits => absurd hinhibits Bool.false_ne_true, False.elim⟩

omit [ResourceSource S] in
/-- A chain inhibits when its first check does or the rest does on what the first check leaves. -/
theorem ChainSpec.cons {id : String} {check : PollM S Bool} {checks : List (PollM S Bool)}
    {holds rest : S → Prop} {after : S → S} (hcheck : CheckSpec id check holds after)
    (hchecks : ChainSpec id checks rest) :
    ChainSpec id (check :: checks) fun monitor => holds monitor ∨ rest (after monitor) := by
  intro st hid
  have hresult := hcheck st hid
  have hid' : (check.run st).2.rule.id = id := hresult.rule.id.trans hid
  change _ ↔ holds st.monitor ∨ rest (after st.monitor)
  rw [run_untilInhibited_cons, ← hresult.value, ← hresult.monitor, ← hchecks _ hid']
  by_cases hinhibits : (check.run st).1 = true <;> simp [hinhibits]

omit [ResourceSource S] in
theorem untilInhibited_sameCounters {id : String} {checks : List (PollM S Bool)}
    (hchecks : ∀ check ∈ checks, ∀ st : PollState S, st.rule.id = id →
      st.rule.SameCounters (check.run st).2.rule)
    (st : PollState S) (hid : st.rule.id = id) :
    st.rule.SameCounters ((untilInhibited checks).run st).2.rule := by
  induction checks generalizing st with
  | nil => exact .refl st.rule
  | cons check checks ih =>
      have hfirst := hchecks check List.mem_cons_self st hid
      have hrest := ih (fun c hc => hchecks c (List.mem_cons_of_mem _ hc)) (check.run st).2
        (hfirst.id.trans hid)
      rw [run_untilInhibited_cons]
      split
      · exact hfirst
      · exact hfirst.trans hrest

theorem checks_sameCounters (loader : RuleConfigSource) (fullscreen : Mutex FullscreenState)
    (id : String) : ∀ check ∈ checks (S := S) loader fullscreen id, ∀ st : PollState S,
      st.rule.id = id → st.rule.SameCounters (check.run st).2.rule := by
  intro check hmem st hid
  simp only [checks, List.mem_cons, List.not_mem_nil, or_false] at hmem
  rcases hmem with rfl | rfl | rfl | rfl | rfl | rfl | rfl
  · exact (exceedsMax_spec id _ _ _ st hid).rule
  · exact (exceedsMax_spec id _ _ _ st hid).rule
  · exact (belowMin_spec id _ _ _ st hid).rule
  · exact (belowMinVram_spec id _ st hid).rule
  · exact (keepAlive_spec loader id st hid).rule
  · exact (music_spec loader id st hid).rule
  · exact (fullscreen_spec loader id fullscreen st hid).rule

/-- A poll changes neither the identity, nor the epoch, nor the fired flag of its rule. -/
theorem shouldInhibit_sameCounters (loader : RuleConfigSource) (resourceMonitor : Mutex S)
    (fullscreen : Mutex FullscreenState) (rule : RuleRuntime) :
    rule.SameCounters (shouldInhibit loader resourceMonitor fullscreen rule).rule := by
  unfold shouldInhibit
  cases resourceMonitor.lock with
  | error err => exact .refl rule
  | ok monitor =>
      exact untilInhibited_sameCounters (checks_sameCounters loader fullscreen rule.id)
        ⟨ResourceSource.update monitor, rule, []⟩ rfl

/-! ### The decision -/

theorem checks_spec (loader : RuleConfigSource) (states : FullscreenState) (id : String) :
    ChainSpec (S := S) id (checks loader (.new states) id) fun monitor => ∃ check : Check,
      check.Holds loader id monitor (afterProcessCheck loader id monitor) states := by
  have hchain := ChainSpec.cons
    (exceedsMax_spec id "max_cpu_usage" (loader.maxCpuUsage id) (ResourceSource.getCpu (S := S)))
    (.cons (exceedsMax_spec id "max_gpu_usage" (loader.maxGpuUsage id) ResourceSource.getGpu)
    (.cons (belowMin_spec id "min_ram_mb" (loader.minRamMb id)
      (fun monitor => ResourceSource.getRam monitor / (1024 * 1024)))
    (.cons (belowMinVram_spec id (loader.minVramMb id))
    (.cons (keepAlive_spec loader id)
    (.cons (music_spec loader id)
    (.cons (fullscreen_spec loader id (.new states)) (.nil id)))))))
  intro st hid
  apply (hchain st hid).trans
  constructor
  · intro hchecks
    rcases hchecks with hholds | hholds | ⟨min, hmin, hlt⟩ | hholds | hholds | hholds |
      ⟨hfull, _, hlock, hany⟩ | hfalse
    · exact ⟨.cpu, hholds⟩
    · exact ⟨.gpu, hholds⟩
    · exact ⟨.ram, min, hmin, by simpa [UInt64.toNat_div] using hlt⟩
    · exact ⟨.vram, hholds⟩
    · exact ⟨.keepAlive, hholds⟩
    · exact ⟨.music, hholds⟩
    · obtain rfl := Except.ok.inj hlock
      exact ⟨.fullscreen, hfull, FullscreenState.anyFullscreen_iff.mp hany⟩
    · exact hfalse.elim
  · intro hsome
    obtain ⟨check, hholds⟩ := hsome
    cases check with
    | cpu => exact .inl hholds
    | gpu => exact .inr (.inl hholds)
    | ram =>
        obtain ⟨min, hmin, hlt⟩ := hholds
        exact .inr (.inr (.inl ⟨min, hmin, by simpa [UInt64.toNat_div] using hlt⟩))
    | vram => exact .inr (.inr (.inr (.inl hholds)))
    | keepAlive => exact .inr (.inr (.inr (.inr (.inl hholds))))
    | music => exact .inr (.inr (.inr (.inr (.inr (.inl hholds)))))
    | fullscreen =>
        have hany := FullscreenState.anyFullscreen_iff.mpr hholds.2
        exact .inr (.inr (.inr (.inr (.inr (.inr (.inl ⟨hholds.1, states, rfl, hany⟩))))))

theorem shouldInhibit_iff_exists_check (loader : RuleConfigSource) (source : S)
    (states : FullscreenState) (rule : RuleRuntime) :
    (shouldInhibit loader (.new source) (.new states) rule).inhibited = true ↔
      ∃ check : Check, check.Holds loader rule.id (ResourceSource.update source)
        (afterProcessCheck loader rule.id (ResourceSource.update source)) states :=
  checks_spec loader states rule.id ⟨ResourceSource.update source, rule, []⟩ rfl

/-- What a poll sees of the toplevels: nothing where the lock of the map is poisoned. -/
def visible (fullscreen : Mutex FullscreenState) : FullscreenState :=
  if fullscreen.poisoned then .empty else fullscreen.data

omit [ResourceSource S] in
theorem inhibitByFullscreen_visible (loader : RuleConfigSource)
    (fullscreen : Mutex FullscreenState) :
    inhibitByFullscreen (S := S) loader fullscreen =
      inhibitByFullscreen loader (.new (visible fullscreen)) := by
  funext st
  have hrun := run_inhibitByFullscreen loader fullscreen st
  have hvisible := run_inhibitByFullscreen loader (.new (visible fullscreen)) st
  apply hrun.trans
  apply Eq.trans _ hvisible.symm
  cases hpoisoned : fullscreen.poisoned with
  | false => simp [Mutex.lock, Mutex.new, visible, hpoisoned]
  | true =>
      simp only [Mutex.lock, Mutex.new, visible, hpoisoned, if_pos]
      rcases loader.fullscreen st.rule.id with err | _ | _ <;> rfl

theorem shouldInhibit_iff_of_lock {resourceMonitor : Mutex S} {source : S}
    (hlock : resourceMonitor.lock = .ok source) (loader : RuleConfigSource)
    (fullscreen : Mutex FullscreenState) (rule : RuleRuntime) :
    (shouldInhibit loader resourceMonitor fullscreen rule).inhibited = true ↔
      ∃ check : Check, check.Holds loader rule.id (ResourceSource.update source)
        (afterProcessCheck loader rule.id (ResourceSource.update source)) (visible fullscreen) := by
  rw [shouldInhibit, hlock, checks, inhibitByFullscreen_visible]
  exact checks_spec loader (visible fullscreen) rule.id ⟨ResourceSource.update source, rule, []⟩ rfl

/-- A poll that finds the resource monitor poisoned makes no check at all. -/
theorem shouldInhibit_of_poisoned {resourceMonitor : Mutex S} {err : String}
    (hlock : resourceMonitor.lock = .error err) (loader : RuleConfigSource)
    (fullscreen : Mutex FullscreenState) (rule : RuleRuntime) :
    (shouldInhibit loader resourceMonitor fullscreen rule).inhibited = false := by
  rw [shouldInhibit, hlock]

inductive Setting where
  | maxCpuUsage | maxGpuUsage | minRamMb | minVramMb | keepAliveProcesses | musicPlaying
  | musicProcessName | fullscreen
  deriving DecidableEq

namespace Setting

def check : Setting → Check
  | maxCpuUsage => .cpu
  | maxGpuUsage => .gpu
  | minRamMb => .ram
  | minVramMb => .vram
  | keepAliveProcesses => .keepAlive
  | musicPlaying => .music
  | musicProcessName => .music
  | fullscreen => .fullscreen

def Fails (loader : RuleConfigSource) (id : String) : Setting → Prop
  | maxCpuUsage => ∃ err, loader.maxCpuUsage id = .error err
  | maxGpuUsage => ∃ err, loader.maxGpuUsage id = .error err
  | minRamMb => ∃ err, loader.minRamMb id = .error err
  | minVramMb => ∃ err, loader.minVramMb id = .error err
  | keepAliveProcesses => ∃ err, loader.keepAliveProcesses id = .error err
  | musicPlaying => ∃ err, loader.musicPlaying id = .error err
  | musicProcessName => ∃ err, loader.musicProcessName id = .error err
  | fullscreen => ∃ err, loader.fullscreen id = .error err

def SameIn (loader loader' : RuleConfigSource) (id : String) : Setting → Prop
  | maxCpuUsage => loader.maxCpuUsage id = loader'.maxCpuUsage id
  | maxGpuUsage => loader.maxGpuUsage id = loader'.maxGpuUsage id
  | minRamMb => loader.minRamMb id = loader'.minRamMb id
  | minVramMb => loader.minVramMb id = loader'.minVramMb id
  | keepAliveProcesses => loader.keepAliveProcesses id = loader'.keepAliveProcesses id
  | musicPlaying => loader.musicPlaying id = loader'.musicPlaying id
  | musicProcessName => loader.musicProcessName id = loader'.musicProcessName id
  | fullscreen => loader.fullscreen id = loader'.fullscreen id

end Setting

variable {loader loader' : RuleConfigSource} {id : String} {snapshot players : S}
  {states : FullscreenState}

theorem Check.not_holds_of_fails {setting : Setting} (hfails : setting.Fails loader id) :
    ¬setting.check.Holds loader id snapshot players states := by
  cases setting <;> obtain ⟨err, herr⟩ := hfails <;> simp [Setting.check, Check.Holds, herr]

theorem Check.holds_congr {check : Check}
    (hsame : ∀ setting : Setting, setting.check = check → setting.SameIn loader loader' id) :
    check.Holds loader id snapshot players states ↔
      check.Holds loader' id snapshot players states := by
  cases check with
  | cpu =>
      have hcpu : loader.maxCpuUsage id = loader'.maxCpuUsage id := hsame .maxCpuUsage rfl
      simp only [Check.Holds, hcpu]
  | gpu =>
      have hgpu : loader.maxGpuUsage id = loader'.maxGpuUsage id := hsame .maxGpuUsage rfl
      simp only [Check.Holds, hgpu]
  | ram =>
      have hram : loader.minRamMb id = loader'.minRamMb id := hsame .minRamMb rfl
      simp only [Check.Holds, hram]
  | vram =>
      have hvram : loader.minVramMb id = loader'.minVramMb id := hsame .minVramMb rfl
      simp only [Check.Holds, hvram]
  | keepAlive =>
      have hlist : loader.keepAliveProcesses id = loader'.keepAliveProcesses id :=
        hsame .keepAliveProcesses rfl
      simp only [Check.Holds, hlist]
  | music =>
      have hplaying : loader.musicPlaying id = loader'.musicPlaying id := hsame .musicPlaying rfl
      have hname : loader.musicProcessName id = loader'.musicProcessName id :=
        hsame .musicProcessName rfl
      simp only [Check.Holds, hplaying, hname]
  | fullscreen =>
      have hfull : loader.fullscreen id = loader'.fullscreen id := hsame .fullscreen rfl
      simp only [Check.Holds, hfull]

/-- **The inhibitor decision.** With both locks healthy a poll inhibits exactly when some check
holds; and a configuration in which one more setting fails to parse decides by the remaining checks
of the original one, whatever the failing check would have said. -/
theorem shouldInhibit_decision (loader : RuleConfigSource) (source : S) (states : FullscreenState)
    (rule : RuleRuntime) :
    ((shouldInhibit loader (.new source) (.new states) rule).inhibited = true ↔
      ∃ check : Check, check.Holds loader rule.id (ResourceSource.update source)
        (afterProcessCheck loader rule.id (ResourceSource.update source)) states) ∧
    ∀ (loader' : RuleConfigSource) (setting : Setting), setting.Fails loader' rule.id →
      (∀ other ≠ setting, other.SameIn loader' loader rule.id) →
      ((shouldInhibit loader' (.new source) (.new states) rule).inhibited = true ↔
        ∃ check ≠ setting.check, check.Holds loader rule.id (ResourceSource.update source)
          (afterProcessCheck loader' rule.id (ResourceSource.update source)) states) := by
  refine ⟨shouldInhibit_iff_exists_check loader source states rule, ?_⟩
  intro loader' setting hfails hsame
  have hunchanged : ∀ check : Check, check ≠ setting.check → ∀ players : S,
      (check.Holds loader' rule.id (ResourceSource.update source) players states ↔
        check.Holds loader rule.id (ResourceSource.update source) players states) := by
    intro check hne players
    apply Check.holds_congr
    intro other hother
    apply hsame other
    intro heq
    subst heq
    exact hne hother.symm
  rw [shouldInhibit_iff_exists_check]
  constructor
  · intro hsome
    obtain ⟨check, hholds⟩ := hsome
    have hne : check ≠ setting.check := by
      intro heq
      subst heq
      exact Check.not_holds_of_fails hfails hholds
    exact ⟨check, hne, (hunchanged check hne _).mp hholds⟩
  · intro hsome
    obtain ⟨check, hne, hholds⟩ := hsome
    exact ⟨check, (hunchanged check hne _).mpr hholds⟩

end Nothypridle
