import Nothypridle.Monitor
import Nothypridle.Lib.Text

/-!
# The resource monitor

What a poll can see of the system. The vendor monitors read a snapshot of the sysfs tree and of what
NVML answers; every vendor folds its cards into the highest busy percentage and the lowest free VRAM
in megabytes, and `GpuMonitor::get_metrics` puts the vendors together. `ResourceMonitor` adds the
answers of `sysinfo` and of MPRIS, and is the resource source of the daemon.
-/

namespace Nothypridle

structure Path where
  components : List String
  deriving DecidableEq

def Path.join (path : Path) (names : List String) : Path := ⟨path.components ++ names⟩

def Path.fileName (path : Path) : Option String :=
  path.components.getLast?.filter (· ≠ "..")

structure Sysfs where
  readToString : Path → Except String String
  pathExists : Path → Bool

def Sysfs.readParsed {α : Type} (sysfs : Sysfs) (parse : String → Option α) (path : Path) :
    Option α :=
  match sysfs.readToString path with
  | .ok text => parse (Text.trim text)
  | .error _ => none

def saturatingSub (a b : UInt64) : UInt64 := if b ≤ a then a - b else 0

/-! ### AMD -/

structure AmdGpuMonitor where
  gpuPaths : List Path

namespace AmdGpuMonitor

def visit (sysfs : Sysfs) (acc : UInt32 × UInt64) (cardPath : Path) : UInt32 × UInt64 :=
  let devicePath := cardPath.join ["device"]
  let busyPath := devicePath.join ["gpu_busy_percent"]
  let usedPath := devicePath.join ["mem_info_vram_used"]
  let totalPath := devicePath.join ["mem_info_vram_total"]
  let maxGpuBusy := match sysfs.readParsed Text.parseU32 busyPath with
    | some busy => max acc.1 busy
    | none => acc.1
  let vramUsed := sysfs.readParsed Text.parseU64 usedPath
  let vramTotal := sysfs.readParsed Text.parseU64 totalPath
  let minVramFree := match vramTotal, vramUsed with
    | some total, some used =>
        if total > 0 then
          let free := saturatingSub total used
          let freeMb := free / (1024 * 1024)
          min acc.2 freeMb
        else acc.2
    | _, _ => acc.2
  (maxGpuBusy, minVramFree)

def getMetrics (sysfs : Sysfs) (monitor : AmdGpuMonitor) : Option (UInt32 × UInt64) :=
  if monitor.gpuPaths.isEmpty then none
  else some (monitor.gpuPaths.foldl (visit sysfs) (0, u64Max))

end AmdGpuMonitor

/-! ### NVIDIA -/

structure MemoryInfo where
  total : UInt64
  free : UInt64

structure Device where
  utilizationRates : Except String UInt32
  memoryInfo : Except String MemoryInfo

structure Nvml where
  deviceCount : Except String UInt32
  deviceByIndex : UInt32 → Except String Device

structure NvidiaGpuMonitor where
  nvml : Option Nvml

namespace NvidiaGpuMonitor

def visit (nvml : Nvml) (acc : UInt32 × UInt64) (i : UInt32) : UInt32 × UInt64 :=
  match nvml.deviceByIndex i with
  | .ok device =>
      let maxGpuBusy := match device.utilizationRates with
        | .ok gpu => max acc.1 gpu
        | .error _ => acc.1
      let minVramFree := match device.memoryInfo with
        | .ok memoryInfo =>
            if memoryInfo.total > 0 then
              let vramFreeMb := memoryInfo.free / (1024 * 1024)
              min acc.2 vramFreeMb
            else acc.2
        | .error _ => acc.2
      (maxGpuBusy, minVramFree)
  | .error _ => acc

def indices (deviceCount : UInt32) : List UInt32 :=
  (List.range deviceCount.toNat).map UInt32.ofNat

def getMetrics (monitor : NvidiaGpuMonitor) : Option (UInt32 × UInt64) :=
  match monitor.nvml with
  | none => none
  | some nvml =>
      match nvml.deviceCount with
      | .error _ => none
      | .ok deviceCount =>
          if deviceCount = 0 then none
          else some ((indices deviceCount).foldl (visit nvml) (0, u64Max))

end NvidiaGpuMonitor

/-! ### Intel -/

def isGpuSuspended (sysfs : Sysfs) (cardPath : Path) : Bool :=
  match sysfs.readToString (cardPath.join ["device", "power", "runtime_status"]) with
  | .ok status => Text.trim status == "suspended"
  | .error _ => false

/-- The conversion of the quotient to `u32` saturates. -/
def readFreqRatio (sysfs : Sysfs) (curPath maxPath : Path) : Option UInt32 := do
  let curStr ← (sysfs.readToString curPath).toOption
  let maxStr ← (sysfs.readToString maxPath).toOption
  let cur ← Text.parseU32 (Text.trim curStr)
  let max ← Text.parseU32 (Text.trim maxStr)
  if max = 0 then none
  else some ((cur.toFloat32 / max.toFloat32) * 100.0).toUInt32

def readIntelBusyPct (sysfs : Sysfs) (cardPath : Path) : UInt32 :=
  match readFreqRatio sysfs (cardPath.join ["gt", "gt0", "rps_cur_freq_mhz"])
      (cardPath.join ["gt", "gt0", "rps_max_freq_mhz"]) with
  | some pct => pct
  | none =>
      match cardPath.fileName with
      | none => 0
      | some cardName =>
          let drmDir := (cardPath.join ["device", "drm"]).join [cardName]
          (readFreqRatio sysfs (drmDir.join ["gt_cur_freq_mhz"])
            (drmDir.join ["gt_max_freq_mhz"])).getD 0

def readIntelVramFreeMb (sysfs : Sysfs) (cardPath : Path) : Option UInt64 :=
  let tile0Path := cardPath.join ["device", "tile0"]
  let totalVramPath := tile0Path.join ["memory_all_bytes"]
  let freeVramPath := tile0Path.join ["memory_free_bytes"]
  if !sysfs.pathExists totalVramPath || !sysfs.pathExists freeVramPath then none
  else do
    let total ← sysfs.readParsed Text.parseU64 totalVramPath
    let free ← sysfs.readParsed Text.parseU64 freeVramPath
    if total = 0 then none
    else some (free / (1024 * 1024))

structure IntelGpuMonitor where
  gpuPaths : List Path

namespace IntelGpuMonitor

def visit (sysfs : Sysfs) (acc : UInt32 × UInt64) (cardPath : Path) : UInt32 × UInt64 :=
  if isGpuSuspended sysfs cardPath then acc
  else
    let maxGpuBusy := max acc.1 (readIntelBusyPct sysfs cardPath)
    let minVramFree := match readIntelVramFreeMb sysfs cardPath with
      | some freeMb => min acc.2 freeMb
      | none => acc.2
    (maxGpuBusy, minVramFree)

def getMetrics (sysfs : Sysfs) (monitor : IntelGpuMonitor) : Option (UInt32 × UInt64) :=
  if monitor.gpuPaths.isEmpty then none
  else some (monitor.gpuPaths.foldl (visit sysfs) (0, u64Max))

end IntelGpuMonitor

/-! ### All vendors -/

structure GpuMonitor where
  amdMonitor : AmdGpuMonitor
  nvidiaMonitor : NvidiaGpuMonitor
  intelMonitor : IntelGpuMonitor

/-- The state `(max_gpu_busy, vram_free)` after a vendor: NVIDIA sets `vram_free`, the others set it
where it is still unset. -/
def GpuMonitor.getMetrics (sysfs : Sysfs) (monitor : GpuMonitor) : Option (UInt32 × UInt64) :=
  let maxGpuBusy : UInt32 := 0
  let vramFree : Option UInt64 := none
  let (maxGpuBusy, vramFree) := match monitor.nvidiaMonitor.getMetrics with
    | some (busy, vram) => (max maxGpuBusy busy, some vram)
    | none => (maxGpuBusy, vramFree)
  let (maxGpuBusy, vramFree) := match monitor.amdMonitor.getMetrics sysfs with
    | some (busy, vram) =>
        (max maxGpuBusy busy, if vramFree.isNone then some vram else vramFree)
    | none => (maxGpuBusy, vramFree)
  let (maxGpuBusy, vramFree) := match monitor.intelMonitor.getMetrics sysfs with
    | some (busy, vram) =>
        (max maxGpuBusy busy, if vramFree.isNone then some vram else vramFree)
    | none => (maxGpuBusy, vramFree)
  some (maxGpuBusy, vramFree.getD u64Max)

/-! ### The monitor -/

/-- The time of the processors, as the kernel has counted it. -/
structure CpuTimes where
  busy : UInt64
  total : UInt64

/-- The usage is what `sysinfo` measures from the last refresh to the present one. A refresh that
comes too soon after the last one measures nothing, and changes nothing. -/
structure Cpus where
  globalUsage : Float32
  refreshed : CpuTimes
  current : CpuTimes
  measure : CpuTimes → CpuTimes → Option Float32

def Cpus.refreshAll (cpus : Cpus) : Cpus :=
  match cpus.measure cpus.refreshed cpus.current with
  | some usage => { cpus with globalUsage := usage, refreshed := cpus.current }
  | none => cpus

/-- The `System` of `sysinfo`, with what it finds when it is refreshed. The names of the processes
are decoded lossily. -/
structure Sysinfo where
  cpus : Cpus
  availableMemory : UInt64
  processNames : List String

def Sysinfo.refreshCpuAll (sys : Sysinfo) : Sysinfo := { sys with cpus := sys.cpus.refreshAll }

inductive PlaybackStatus where
  | playing
  | paused
  | stopped
  deriving DecidableEq

structure Player where
  isRunning : Bool
  identity : String
  getPlaybackStatus : Except String PlaybackStatus

def Player.isPlaying (player : Player) : Bool :=
  match player.getPlaybackStatus with
  | .ok status => status = .playing
  | .error _ => false

/-- The players on the bus, if the finder starts and lists them. `toLowercase` is the mapping of
Unicode. -/
structure PlayerFinder where
  iterPlayers : Except String (List (Except String Player))
  toLowercase : String → String

def isAnyAudioPlaying (finder : PlayerFinder) : Bool :=
  match finder.iterPlayers with
  | .error _ => false
  | .ok players => (players.filterMap Except.toOption).any fun player =>
      player.isRunning && player.isPlaying

def isAudioPlaying (finder : PlayerFinder) (name : String) : Bool :=
  match finder.iterPlayers with
  | .error _ => false
  | .ok players => (players.filterMap Except.toOption).any fun player =>
      player.isRunning && finder.toLowercase player.identity == finder.toLowercase name &&
        player.isPlaying

/-- The monitor, with what the system answers while a poll holds it. -/
structure ResourceMonitor where
  cpu : Float32
  gpu : Float32
  ram : UInt64
  vram : UInt64
  gpuMonitor : GpuMonitor
  sys : Sysinfo
  sysfs : Sysfs
  finder : PlayerFinder

namespace ResourceMonitor

def update (monitor : ResourceMonitor) : ResourceMonitor :=
  let sys := monitor.sys.refreshCpuAll
  let cpuUsage := sys.cpus.globalUsage
  let freeMem := sys.availableMemory
  let (gpuBusy, vramFreeMb) := (monitor.gpuMonitor.getMetrics monitor.sysfs).getD (0, u64Max)
  { monitor with
    cpu := cpuUsage
    ram := freeMem
    gpu := gpuBusy.toFloat32
    vram := vramFreeMb
    sys }

def checkAnyProcessRunning (monitor : ResourceMonitor) (blacklist : List String) : Bool :=
  if blacklist.isEmpty then false
  else monitor.sys.processNames.any fun processName => blacklist.any (Text.contains processName)

end ResourceMonitor

instance : ResourceSource ResourceMonitor where
  update := ResourceMonitor.update
  getCpu := ResourceMonitor.cpu
  getGpu := ResourceMonitor.gpu
  getRam := ResourceMonitor.ram
  getVram := ResourceMonitor.vram
  checkAnyProcessRunning monitor targets := (monitor.checkAnyProcessRunning targets, monitor)
  isAudioPlaying monitor := isAudioPlaying monitor.finder
  isAnyAudioPlaying monitor := isAnyAudioPlaying monitor.finder

end Nothypridle
