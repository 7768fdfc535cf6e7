import Mathlib.Data.Finset.Insert
import Mathlib.Data.List.AList

/-!
# Rules and their inhibitors

The per-rule state, the sources a poll consults, and one poll of the inhibitors. A poll holds the
resource monitor locked from its first check to its last, so a check is a computation on the locked
monitor, the rule and the warnings logged so far, and a poll is a list of checks that ends at the
first one that inhibits.
-/

namespace Nothypridle

structure Mutex (α : Type) where
  data : α
  poisoned : Bool

namespace Mutex

def new {α : Type} (data : α) : Mutex α := ⟨data, false⟩

def lock {α : Type} (mutex : Mutex α) : Except String α :=
  if mutex.poisoned then .error "poisoned lock: another task failed inside" else .ok mutex.data

def release {α : Type} (mutex : Mutex α) (data : α) : Mutex α := { mutex with data }

def poison {α : Type} (mutex : Mutex α) : Mutex α := { mutex with poisoned := true }

theorem lock_of_poisoned {α : Type} {mutex : Mutex α} (hpoisoned : mutex.poisoned = true) :
    mutex.lock = .error "poisoned lock: another task failed inside" := by
  rw [lock, if_pos hpoisoned]

theorem lock_of_healthy {α : Type} {mutex : Mutex α} (hhealthy : mutex.poisoned = false) :
    mutex.lock = .ok mutex.data := by
  rw [lock, if_neg (by simp [hhealthy])]

end Mutex

/-- `u64::MAX`, with which the monitors report that there is no reading. -/
def u64Max : UInt64 := 0xFFFFFFFFFFFFFFFF

class ResourceSource (S : Type) where
  update : S → S
  getCpu : S → Float32
  getGpu : S → Float32
  getRam : S → UInt64
  getVram : S → UInt64
  checkAnyProcessRunning : S → List String → Bool × S
  isAudioPlaying : S → String → Bool
  isAnyAudioPlaying : S → Bool

structure RuleConfigSource where
  maxCpuUsage : String → Except String Float32
  maxGpuUsage : String → Except String Float32
  minRamMb : String → Except String UInt32
  minVramMb : String → Except String UInt32
  keepAliveProcesses : String → Except String (List String)
  musicPlaying : String → Except String Bool
  musicProcessName : String → Except String (Option String)
  fullscreen : String → Except String Bool
  onTimeout : String → Except String (Option String)
  onResume : String → Except String (Option String)
  timeout : String → Except String UInt32

/-- The identity of a Wayland object, of which only equality is ever used. -/
structure ObjectId where
  id : Nat
  deriving DecidableEq

structure FullscreenState where
  states : AList fun _ : ObjectId => Bool

namespace FullscreenState

def empty : FullscreenState := ⟨∅⟩

def set (state : FullscreenState) (id : ObjectId) (isFullscreen : Bool) : FullscreenState :=
  ⟨state.states.insert id isFullscreen⟩

def remove (state : FullscreenState) (id : ObjectId) : FullscreenState :=
  ⟨state.states.erase id⟩

def anyFullscreen (state : FullscreenState) : Bool :=
  state.states.entries.any fun entry => entry.2

theorem anyFullscreen_iff {state : FullscreenState} :
    state.anyFullscreen = true ↔ ∃ id, state.states.lookup id = some true := by
  simp only [anyFullscreen, List.any_eq_true]
  constructor
  · intro hany
    obtain ⟨⟨id, value⟩, hmem, hvalue⟩ := hany
    change value = true at hvalue
    subst hvalue
    exact ⟨id, AList.mem_lookup_iff.mpr hmem⟩
  · intro hsome
    obtain ⟨id, hlookup⟩ := hsome
    exact ⟨⟨id, true⟩, AList.mem_lookup_iff.mp hlookup, rfl⟩

end FullscreenState

structure RuleRuntime where
  id : String
  epoch : UInt64
  fired : Bool
  warned : Mutex (Finset String)

namespace RuleRuntime

def new (id : String) : RuleRuntime :=
  { id, epoch := 0, fired := false, warned := .new ∅ }

def bumpEpoch (rule : RuleRuntime) : RuleRuntime := { rule with epoch := rule.epoch + 1 }

def setFired (rule : RuleRuntime) (value : Bool) : RuleRuntime := { rule with fired := value }

@[simp] theorem bumpEpoch_epoch (rule : RuleRuntime) : rule.bumpEpoch.epoch = rule.epoch + 1 := rfl

@[simp] theorem bumpEpoch_fired (rule : RuleRuntime) : rule.bumpEpoch.fired = rule.fired := rfl

@[simp] theorem setFired_epoch (rule : RuleRuntime) (value : Bool) :
    (rule.setFired value).epoch = rule.epoch := rfl

@[simp] theorem setFired_fired (rule : RuleRuntime) (value : Bool) :
    (rule.setFired value).fired = value := rfl

/-- Records `key` and answers what to log: `msg` the first time, nothing afterwards. Where the set
is poisoned nothing is recorded, and every call logs. -/
def warnOnce (rule : RuleRuntime) (key msg : String) : RuleRuntime × List String :=
  match rule.warned.lock with
  | .ok seen =>
      if key ∈ seen then (rule, [])
      else ({ rule with warned := rule.warned.release (insert key seen) }, [msg])
  | .error _ => (rule, [msg])

/-- The rules differ at most in the set of keys already reported. -/
structure SameCounters (rule rule' : RuleRuntime) : Prop where
  id : rule'.id = rule.id
  epoch : rule'.epoch = rule.epoch
  fired : rule'.fired = rule.fired

theorem SameCounters.refl (rule : RuleRuntime) : rule.SameCounters rule := ⟨rfl, rfl, rfl⟩

theorem SameCounters.trans {a b c : RuleRuntime} (hab : a.SameCounters b)
    (hbc : b.SameCounters c) : a.SameCounters c :=
  ⟨hbc.id.trans hab.id, hbc.epoch.trans hab.epoch, hbc.fired.trans hab.fired⟩

theorem warnOnce_sameCounters (rule : RuleRuntime) (key msg : String) :
    rule.SameCounters (rule.warnOnce key msg).1 := by
  unfold warnOnce
  split
  · split
    · exact .refl rule
    · exact ⟨rfl, rfl, rfl⟩
  · exact .refl rule

end RuleRuntime

/-! ### The checks -/

structure PollState (S : Type) where
  monitor : S
  rule : RuleRuntime
  warnings : List String

abbrev PollM (S : Type) := StateM (PollState S)

section Checks

variable {S : Type}

def warnOnce (key msg : String) : PollM S Unit :=
  modify fun st =>
    let (rule, lines) := st.rule.warnOnce key msg
    { st with rule, warnings := st.warnings ++ lines }

/-- `some true` inhibits, `some false` does not, and `none` is a value that does not parse. -/
def inhibitIfExceedsMax (key field : String) (getter : Except String Float32)
    (current : Float32) : PollM S (Option Bool) :=
  match getter with
  | .ok max => pure (some (decide (current > max)))
  | .error _ => do
      let id := (← get).rule.id
      warnOnce key s!"Monitor: rule '{id}' has invalid/missing '{field}'; skipping {field} check."
      pure none

def inhibitIfBelowMin (key field : String) (getter : Except String UInt32)
    (currentMb : UInt64) : PollM S (Option Bool) :=
  match getter with
  | .ok min => pure (some (decide (currentMb < min.toUInt64)))
  | .error _ => do
      let id := (← get).rule.id
      warnOnce key s!"Monitor: rule '{id}' has invalid/missing '{field}'; skipping {field} check."
      pure none

variable [ResourceSource S]

def inhibitByKeepAlive (loader : RuleConfigSource) : PollM S Bool := do
  let id := (← get).rule.id
  match loader.keepAliveProcesses id with
  | .ok targets =>
      if targets.isEmpty then pure false
      else
        let (running, monitor) := ResourceSource.checkAnyProcessRunning (← get).monitor targets
        modify fun st => { st with monitor }
        pure running
  | .error err =>
      warnOnce "keep_alive_processes"
        s!"Monitor: rule '{id}' has unparseable 'keep_alive_processes'; skipping process check: {err}"
      pure false

def inhibitByMusic (loader : RuleConfigSource) : PollM S Bool := do
  let id := (← get).rule.id
  match loader.musicPlaying id with
  | .ok true =>
      match loader.musicProcessName id with
      | .ok (some name) => pure (ResourceSource.isAudioPlaying (← get).monitor name)
      | .ok none => pure (ResourceSource.isAnyAudioPlaying (← get).monitor)
      | .error err =>
          warnOnce "music_process_name"
            s!"Monitor: rule '{id}' has unparseable 'music_process_name'; skipping music check: {err}"
          pure false
  -- An unparseable `music_playing` is treated as `false`, without a warning.
  | _ => pure false

def inhibitByFullscreen (loader : RuleConfigSource) (fullscreen : Mutex FullscreenState) :
    PollM S Bool := do
  match loader.fullscreen (← get).rule.id with
  | .ok true =>
      match fullscreen.lock with
      | .ok states => pure states.anyFullscreen
      | .error _ => pure false
  | _ => pure false

def exceedsMax (key : String) (getter : Except String Float32) (current : S → Float32) :
    PollM S Bool := do
  let outcome ← inhibitIfExceedsMax key key getter (current (← get).monitor)
  pure (outcome == some true)

def belowMin (key : String) (getter : Except String UInt32) (currentMb : S → UInt64) :
    PollM S Bool := do
  let outcome ← inhibitIfBelowMin key key getter (currentMb (← get).monitor)
  pure (outcome == some true)

/-- The getter is consulted only when there is a reading to compare with. -/
def belowMinVram (getter : Except String UInt32) : PollM S Bool := do
  if ResourceSource.getVram (← get).monitor = u64Max then pure false
  else belowMin "min_vram_mb" getter ResourceSource.getVram

def untilInhibited : List (PollM S Bool) → PollM S Bool
  | [] => pure false
  | check :: checks => do
      if ← check then pure true else untilInhibited checks

def checks (loader : RuleConfigSource) (fullscreen : Mutex FullscreenState) (id : String) :
    List (PollM S Bool) :=
  [exceedsMax "max_cpu_usage" (loader.maxCpuUsage id) ResourceSource.getCpu,
    exceedsMax "max_gpu_usage" (loader.maxGpuUsage id) ResourceSource.getGpu,
    belowMin "min_ram_mb" (loader.minRamMb id)
      (fun monitor => ResourceSource.getRam monitor / (1024 * 1024)),
    belowMinVram (loader.minVramMb id),
    inhibitByKeepAlive loader,
    inhibitByMusic loader,
    inhibitByFullscreen loader fullscreen]

structure Poll (S : Type) where
  inhibited : Bool
  resourceMonitor : Mutex S
  rule : RuleRuntime
  warnings : List String

def shouldInhibit (loader : RuleConfigSource) (resourceMonitor : Mutex S)
    (fullscreen : Mutex FullscreenState) (rule : RuleRuntime) : Poll S :=
  match resourceMonitor.lock with
  | .error err =>
      let id := rule.id
      { inhibited := false, resourceMonitor, rule,
        warnings := [s!"Monitor: ResourceMonitor lock poisoned for rule '{id}': {err}"] }
  | .ok monitor =>
      let result := (untilInhibited (checks loader fullscreen rule.id)).run
        ⟨ResourceSource.update monitor, rule, []⟩
      { inhibited := result.1, resourceMonitor := resourceMonitor.release result.2.monitor,
        rule := result.2.rule, warnings := result.2.warnings }

end Checks

end Nothypridle
