import Nothypridle.Config
import Nothypridle.IdleCycle
import Nothypridle.Resources

/-!
# The test doubles

The resource source and the configuration that the integration tests put in place of the system and
of the loader, and an AAM library that accepts every string and list, with which the development
runs its concrete examples.
-/

namespace Nothypridle

structure FakeResourceSource where
  cpu : Float32 := 0.0
  gpu : Float32 := 0.0
  ram : UInt64 := 0
  vram : UInt64 := 0
  processRunning : Bool := false
  audioPlayingName : Bool := false
  anyAudioPlaying : Bool := false

instance : ResourceSource FakeResourceSource where
  update source := source
  getCpu source := source.cpu
  getGpu source := source.gpu
  getRam source := source.ram
  getVram source := source.vram
  checkAnyProcessRunning source _ := (source.processRunning, source)
  isAudioPlaying source _ := source.audioPlayingName
  isAnyAudioPlaying source := source.anyAudioPlaying

structure FakeConfig where
  maxCpu : Option Float32 := none
  maxGpu : Option Float32 := none
  minRam : Option UInt32 := none
  minVram : Option UInt32 := none
  keepAlive : List String := []
  musicPlaying : Option Bool := none
  musicName : Option (Option String) := none
  fullscreen : Option Bool := none
  onTimeoutCmd : Option String := none
  onResumeCmd : Option String := none

def okOr {α : Type} : Option α → Except String α
  | some value => .ok value
  | none => .error ""

def FakeConfig.source (config : FakeConfig) : RuleConfigSource where
  maxCpuUsage _ := okOr config.maxCpu
  maxGpuUsage _ := okOr config.maxGpu
  minRamMb _ := okOr config.minRam
  minVramMb _ := okOr config.minVram
  keepAliveProcesses _ := .ok config.keepAlive
  musicPlaying _ := okOr config.musicPlaying
  musicProcessName _ := okOr config.musicName
  fullscreen _ := okOr config.fullscreen
  onTimeout _ := .ok config.onTimeoutCmd
  onResume _ := .ok config.onResumeCmd
  timeout _ := .ok 0

/-- A rule that dims the screen and restores it, and inhibits on nothing. -/
def dimConfig : RuleConfigSource :=
  FakeConfig.source { onTimeoutCmd := some "brightnessctl -s set 20%",
                      onResumeCmd := some "brightnessctl -r" }

def quietPoll : CheckerStep FakeResourceSource := .poll (.new {}) (.new .empty)

/-- Processors that have been refreshed just now. -/
def unmeasuredCpus : Cpus where
  globalUsage := 0.0
  refreshed := ⟨0, 0⟩
  current := ⟨0, 0⟩
  measure _ _ := none

/-! ### Rule files -/

def permissiveAam : AamTypes where
  accepts
    | .i32, value => (Text.parseI32 value).isSome
    | .f64, value => (Text.parseF64 value).isSome
    | .bool, value => (Text.parseBool value).isSome
    | .string, _ => true
    | .list _, _ => true
  accepts_i32 _ := rfl
  accepts_f64 _ := rfl
  accepts_bool _ := rfl

section

variable (rules : List (String × RuleFile))

def readRule {α : Type} (parse : String → Option α) (key id : String) : Except String α :=
  okOr ((rules.lookup id).bind fun content => (content key).bind parse)

theorem reads_readRule {α : Type} (parse : String → Option α) (key : String) :
    Reads rules parse key (readRule rules parse key) := by
  intro id content hrule value
  rw [readRule, hrule, Option.bind_some]
  cases (content key).bind parse <;> simp [okOr]

def loaderOf : ListenerLoader where
  rules
  source :=
    { timeout := readRule rules Text.parseU32 "timeout"
      maxCpuUsage := readRule rules Text.parseF32 "max_cpu_usage"
      maxGpuUsage := readRule rules Text.parseF32 "max_gpu_usage"
      minRamMb := readRule rules Text.parseU32 "min_ram_mb"
      minVramMb := readRule rules Text.parseU32 "min_vram_mb"
      musicPlaying := readRule rules Text.parseBool "music_playing"
      fullscreen := readRule rules Text.parseBool "fullscreen"
      keepAliveProcesses := fun _ => .ok []
      onTimeout := fun id => okOr ((rules.lookup id).map fun content => content "on_timeout")
      onResume := fun id => okOr ((rules.lookup id).map fun content => content "on_resume")
      musicProcessName := fun id =>
        okOr ((rules.lookup id).map fun content => content "music_process_name") }
  timeout := reads_readRule rules _ _
  maxCpuUsage := reads_readRule rules _ _
  maxGpuUsage := reads_readRule rules _ _
  minRamMb := reads_readRule rules _ _
  minVramMb := reads_readRule rules _ _
  musicPlaying := reads_readRule rules _ _
  fullscreen := reads_readRule rules _ _

end

/-- The `lock.aam` of the README, under an id and with a timeout. -/
def lockRule (id timeout : String) : RuleFile := fun key =>
  [("id", id), ("timeout", timeout), ("max_cpu_usage", "10.0"), ("max_gpu_usage", "10.0"),
    ("min_ram_mb", "1024"), ("min_vram_mb", "256"), ("music_playing", "true"),
    ("fullscreen", "true"), ("on_timeout", "loginctl lock-session"),
    ("on_resume", "pkill hyprlock")].lookup key

end Nothypridle
