import Nothypridle.Fakes
import Nothypridle.Proof.CardSelection
import Nothypridle.Proof.SameAnswers
import Nothypridle.Proof.VendorFold

/-!
# Enumerations have no order

The kernel lists directory entries and processes in any order, NVML numbers its devices as it likes,
and players come and go on the bus. Nothing that the client does depends on these orders: on two
machines that answer with the same entries, devices, processes and players, it does the same.
-/

namespace Nothypridle

/-! ### Cards -/

theorem vendorMetrics_perm {cards cards' : List CardReading} (hperm : cards'.Perm cards) :
    vendorMetrics cards' = vendorMetrics cards := by
  rw [vendorMetrics, vendorMetrics, hperm.isEmpty_eq,
    hperm.foldl_eq' fun x _ y _ z => record_right_comm z x y]

def Nvml.devices (nvml : Nvml) (deviceCount : UInt32) : List (Except String Device) :=
  (NvidiaGpuMonitor.indices deviceCount).map nvml.deviceByIndex

/-- The same devices, numbered differently. -/
structure Nvml.Reordered (nvml other : Nvml) : Prop where
  deviceCount : other.deviceCount = nvml.deviceCount
  devices : ∀ deviceCount, nvml.deviceCount = .ok deviceCount →
    (other.devices deviceCount).Perm (nvml.devices deviceCount)

/-- The reading of a device by itself. -/
def deviceReading (device : Except String Device) : CardReading :=
  nvidiaReading ⟨.ok 1, fun _ => device⟩ 0

theorem map_nvidiaReading (nvml : Nvml) (deviceCount : UInt32) :
    (NvidiaGpuMonitor.indices deviceCount).map (nvidiaReading nvml) =
      (nvml.devices deviceCount).map deviceReading := by
  rw [Nvml.devices, List.map_map]
  rfl

theorem NvidiaGpuMonitor.getMetrics_reordered {monitor other : NvidiaGpuMonitor}
    (hreordered : Option.Rel Nvml.Reordered monitor.nvml other.nvml) :
    other.getMetrics = monitor.getMetrics := by
  rw [getMetrics_eq, getMetrics_eq, cards, cards]
  generalize monitor.nvml = nvml, other.nvml = nvml' at hreordered
  cases hreordered with
  | none => rfl
  | some hreordered =>
      rename_i nvml nvml'
      simp only [hreordered.deviceCount]
      cases hcount : nvml.deviceCount with
      | error err => rfl
      | ok deviceCount =>
          simp only [map_nvidiaReading]
          exact vendorMetrics_perm ((hreordered.devices deviceCount hcount).map deviceReading)

/-! ### Players and processes -/

def PlayerFinder.players (finder : PlayerFinder) : List Player :=
  match finder.iterPlayers with
  | .error _ => []
  | .ok players => players.filterMap Except.toOption

theorem any_eq_of_mem_iff {α : Type*} {l l' : List α} (hmem : ∀ a, a ∈ l' ↔ a ∈ l) (p : α → Bool) :
    l'.any p = l.any p := by
  rw [Bool.eq_iff_iff, List.any_eq_true, List.any_eq_true]
  simp only [hmem]

/-- The same players, listed in any order. -/
structure PlayerFinder.Reordered (finder other : PlayerFinder) : Prop where
  players : ∀ player, player ∈ other.players ↔ player ∈ finder.players
  toLowercase : other.toLowercase = finder.toLowercase

theorem isAnyAudioPlaying_reordered {finder other : PlayerFinder}
    (hreordered : finder.Reordered other) : isAnyAudioPlaying other = isAnyAudioPlaying finder := by
  have hany : ∀ finder : PlayerFinder, isAnyAudioPlaying finder =
      finder.players.any fun player => player.isRunning && player.isPlaying := by
    intro finder
    rw [isAnyAudioPlaying, PlayerFinder.players]
    cases finder.iterPlayers <;> rfl
  rw [hany, hany]
  exact any_eq_of_mem_iff hreordered.players _

theorem isAudioPlaying_reordered {finder other : PlayerFinder}
    (hreordered : finder.Reordered other) (name : String) :
    isAudioPlaying other name = isAudioPlaying finder name := by
  have hany : ∀ finder : PlayerFinder, isAudioPlaying finder name =
      finder.players.any fun player =>
        player.isRunning && finder.toLowercase player.identity == finder.toLowercase name &&
          player.isPlaying := by
    intro finder
    rw [isAudioPlaying, PlayerFinder.players]
    cases finder.iterPlayers <;> rfl
  rw [hany, hany, hreordered.toLowercase]
  exact any_eq_of_mem_iff hreordered.players _

structure Sysinfo.Reordered (sys other : Sysinfo) : Prop where
  cpus : other.cpus = sys.cpus
  availableMemory : other.availableMemory = sys.availableMemory
  processNames : ∀ name, name ∈ other.processNames ↔ name ∈ sys.processNames

theorem Sysinfo.Reordered.refreshCpuAll {sys other : Sysinfo} (hreordered : sys.Reordered other) :
    sys.refreshCpuAll.Reordered other.refreshCpuAll where
  cpus := congrArg Cpus.refreshAll hreordered.cpus
  availableMemory := hreordered.availableMemory
  processNames := hreordered.processNames

/-! ### The monitor -/

namespace ResourceMonitor

/-- The monitors read the same machine, in any order. -/
structure Reordered (monitor other : ResourceMonitor) : Prop where
  amd : other.gpuMonitor.amdMonitor.gpuPaths.Perm monitor.gpuMonitor.amdMonitor.gpuPaths
  intel : other.gpuMonitor.intelMonitor.gpuPaths.Perm monitor.gpuMonitor.intelMonitor.gpuPaths
  nvml : Option.Rel Nvml.Reordered monitor.gpuMonitor.nvidiaMonitor.nvml
    other.gpuMonitor.nvidiaMonitor.nvml
  sys : monitor.sys.Reordered other.sys
  sysfs : other.sysfs = monitor.sysfs
  finder : monitor.finder.Reordered other.finder

/-- They have also read the same. -/
structure ReadAlike (monitor other : ResourceMonitor) : Prop extends Reordered monitor other where
  cpu_eq : other.cpu = monitor.cpu
  gpu_eq : other.gpu = monitor.gpu
  ram_eq : other.ram = monitor.ram
  vram_eq : other.vram = monitor.vram

variable {monitor other : ResourceMonitor}

theorem Reordered.getMetrics_eq (hreordered : monitor.Reordered other) :
    other.gpuMonitor.getMetrics other.sysfs = monitor.gpuMonitor.getMetrics monitor.sysfs := by
  have hnvidia := NvidiaGpuMonitor.getMetrics_reordered hreordered.nvml
  have hamd : other.gpuMonitor.amdMonitor.getMetrics monitor.sysfs =
      monitor.gpuMonitor.amdMonitor.getMetrics monitor.sysfs := by
    rw [AmdGpuMonitor.getMetrics_eq, AmdGpuMonitor.getMetrics_eq]
    exact vendorMetrics_perm (hreordered.amd.map _)
  have hintel : other.gpuMonitor.intelMonitor.getMetrics monitor.sysfs =
      monitor.gpuMonitor.intelMonitor.getMetrics monitor.sysfs := by
    rw [IntelGpuMonitor.getMetrics_eq, IntelGpuMonitor.getMetrics_eq]
    exact vendorMetrics_perm (hreordered.intel.map _)
  rw [GpuMonitor.getMetrics, GpuMonitor.getMetrics, hreordered.sysfs, hnvidia, hamd, hintel]

theorem Reordered.update (hreordered : monitor.Reordered other) :
    monitor.update.ReadAlike other.update where
  toReordered := ⟨hreordered.amd, hreordered.intel, hreordered.nvml, hreordered.sys.refreshCpuAll,
    hreordered.sysfs, hreordered.finder⟩
  cpu_eq := congrArg Cpus.globalUsage hreordered.sys.refreshCpuAll.cpus
  gpu_eq := by simp only [ResourceMonitor.update, hreordered.getMetrics_eq]
  ram_eq := hreordered.sys.availableMemory
  vram_eq := by simp only [ResourceMonitor.update, hreordered.getMetrics_eq]

theorem Reordered.checkAnyProcessRunning_eq (hreordered : monitor.Reordered other)
    (blacklist : List String) :
    other.checkAnyProcessRunning blacklist = monitor.checkAnyProcessRunning blacklist := by
  rw [checkAnyProcessRunning, checkAnyProcessRunning,
    any_eq_of_mem_iff hreordered.sys.processNames]

theorem reordered_answersAlike : AnswersAlike Reordered ReadAlike where
  update _ _ hreordered := hreordered.update
  stale _ _ halike := halike.toReordered
  cpu _ _ halike := halike.cpu_eq
  gpu _ _ halike := halike.gpu_eq
  ram _ _ halike := halike.ram_eq
  vram _ _ halike := halike.vram_eq
  running _ _ targets halike := halike.checkAnyProcessRunning_eq targets
  refreshed _ _ _ halike := halike
  audio _ _ name halike := isAudioPlaying_reordered halike.finder name
  anyAudio _ _ halike := isAnyAudioPlaying_reordered halike.finder

end ResourceMonitor

/-! ### The machine -/

/-- The same machine, in any order. -/
structure Host.Reordered (host other : Host) : Prop where
  entries : ∀ entry, entry ∈ other.drm.entries ↔ entry ∈ host.drm.entries
  nvml : Option.Rel Nvml.Reordered host.nvml.toOption other.nvml.toOption
  sys : host.sys.Reordered other.sys
  sysfs : other.sysfs = host.sysfs
  finder : host.finder.Reordered other.finder

theorem vendorPaths_reordered {drm other : Drm}
    (hentries : ∀ entry, entry ∈ other.entries ↔ entry ∈ drm.entries)
    (matchesVendor : VendorPredicate) :
    vendorPaths matchesVendor other = vendorPaths matchesVendor drm := by
  have hcards : cards matchesVendor other = cards matchesVendor drm := by
    simp only [cards, hentries]
  have hconnected : connectedCards matchesVendor other = connectedCards matchesVendor drm := by
    simp only [connectedCards, hcards, Drm.HasConnectedDisplay, hentries]
  apply (sortedLT_vendorPaths matchesVendor other).eq_of_mem_iff
    (sortedLT_vendorPaths matchesVendor drm)
  intro path
  have hpaths := setOf_mem_vendorPaths matchesVendor other
  rw [hcards, hconnected, ← setOf_mem_vendorPaths matchesVendor drm] at hpaths
  exact Set.ext_iff.mp hpaths path

theorem Host.Reordered.new {host other : Host} (hreordered : host.Reordered other) :
    (ResourceMonitor.new host).Reordered (ResourceMonitor.new other) where
  amd := by
    simp only [ResourceMonitor.new, GpuMonitor.new, hreordered.finder.toLowercase]
    exact .of_eq (vendorPaths_reordered hreordered.entries _)
  intel := by
    simp only [ResourceMonitor.new, GpuMonitor.new, hreordered.finder.toLowercase]
    exact .of_eq (vendorPaths_reordered hreordered.entries _)
  nvml := hreordered.nvml
  sys := hreordered.sys.refreshCpuAll
  sysfs := hreordered.sysfs
  finder := hreordered.finder

namespace Client

/-- **The order of an enumeration does not matter.** On a machine that lists the same in another
order, now and whenever its answers change, every run of the client goes through the same rules,
calls and log lines. -/
theorem enumerations_unordered {config : RuleConfigSource} {host other : Host}
    (hreordered : host.Reordered other) {ids : List String}
    {labels labels' : List (Label ResourceMonitor)} {s : State ResourceMonitor}
    (hrun : RunsFrom config (.new host) ids labels s)
    (hlabels : List.Forall₂ (Label.Same ResourceMonitor.Reordered) labels labels') :
    ∃ t, RunsFrom config (.new other) ids labels' t ∧ t.rules = s.rules ∧ t.calls = s.calls ∧
      t.warnings = s.warnings := by
  obtain ⟨t, hrun', hsame⟩ :=
    hrun.same ResourceMonitor.reordered_answersAlike hreordered.new hlabels
  exact ⟨t, hrun', hsame.rules, hsame.calls, hsame.warnings⟩

end Client

/-! ### Two machines -/

def busyDevice : Except String Device := .ok ⟨.ok 3, .ok ⟨8589934592, 4294967296⟩⟩

def lostDevice : Except String Device := .error "a device was lost"

def mixedHost (processNames : List String) : Host where
  drm := mixedDrm
  nvml := .ok ⟨.ok 2, fun i => if i = 0 then busyDevice else lostDevice⟩
  sys := ⟨unmeasuredCpus, 0, processNames⟩
  sysfs := ⟨fun _ => .error "No such file or directory (os error 2)", fun _ => false⟩
  finder := ⟨.ok [], id⟩

/-- The entries and the devices of the machine the other way round. -/
def shuffledHost (processNames : List String) : Host :=
  { mixedHost processNames with
    drm :=
      { readDir := .ok (mixedEntries.reverse.map .ok)
        distinct := by
          intro entries heq
          cases heq
          decide +kernel }
    nvml := .ok ⟨.ok 2, fun i => if i = 0 then lostDevice else busyDevice⟩ }

theorem mixedHost_reordered {names names' : List String}
    (hnames : ∀ name, name ∈ names' ↔ name ∈ names) :
    (mixedHost names).Reordered (shuffledHost names') where
  entries := by
    intro entry
    have hentries : (shuffledHost names').drm.entries = (mixedHost names).drm.entries.reverse := rfl
    rw [hentries, List.mem_reverse]
  nvml := by
    refine .some ⟨rfl, ?_⟩
    intro deviceCount hcount
    obtain rfl := Except.ok.inj hcount
    exact .swap busyDevice lostDevice []
  sys := ⟨rfl, rfl, hnames⟩
  sysfs := rfl
  finder := ⟨fun _ => Iff.rfl, rfl⟩

namespace Client

/-- A rule that waits for `ffmpeg`. -/
def encodingConfig : RuleConfigSource :=
  FakeConfig.source { keepAlive := ["ffmpeg"], onTimeoutCmd := some "swaylock" }

/-- `ffmpeg` is found on either machine, and `lock` fires on both once it is gone. -/
theorem encoding_enumerations_unordered :
    ∃ (s t : State ResourceMonitor) (labels : List (Label ResourceMonitor)),
      s.calls = [(0, "swaylock")] ∧
      RunsFrom encodingConfig (.new (shuffledHost ["ffmpeg", "sh"])) ["lock"] labels t ∧
      t.rules = s.rules ∧ t.calls = s.calls ∧ t.warnings = s.warnings := by
  have hlists : ∀ name, name ∈ ["ffmpeg", "sh"] ↔ name ∈ ["sh", "ffmpeg"] := by simp [or_comm]
  have hlists' : ∀ name, name ∈ ["sh"] ↔ name ∈ ["sh"] := fun _ => Iff.rfl
  have hexec : (Transition.exec (step encodingConfig)
      (init (ResourceMonitor.new (mixedHost ["sh", "ffmpeg"]))
        (registerRules encodingConfig ["lock"]))
      [.idled 0, .checker 0 0 .loadStart, .checker 0 0 .poll, .checker 0 0 .sleep,
        .checker 0 0 .loopLoad, .readings (ResourceMonitor.new (mixedHost ["sh"])),
        .checker 0 0 .poll, .checker 0 0 .finalLoad, .checker 0 0 .runOnTimeout]).map State.calls =
          some [(0, "swaylock")] := by
    simp only [ResourceMonitor.new, GpuMonitor.new, AmdGpuMonitor.new, IntelGpuMonitor.new,
      findAmdGpuPaths, findIntelGpuPaths, findGpuPathsByVendor, List.mergeSort_eq_insertionSort]
    decide +kernel
  obtain ⟨s, hrun, hcalls⟩ := Option.map_eq_some_iff.mp hexec
  obtain ⟨t, hrun', hsame⟩ := enumerations_unordered (mixedHost_reordered hlists) hrun
    (.cons (.idled 0) <| .cons (.checker 0 0 .loadStart) <| .cons (.checker 0 0 .poll) <|
      .cons (.checker 0 0 .sleep) <| .cons (.checker 0 0 .loopLoad) <|
      .cons (.readings (mixedHost_reordered hlists').new) <| .cons (.checker 0 0 .poll) <|
      .cons (.checker 0 0 .finalLoad) <| .cons (.checker 0 0 .runOnTimeout) .nil)
  exact ⟨s, t, _, hcalls, hrun', hsame⟩

end Client

end Nothypridle
