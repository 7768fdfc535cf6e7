import Nothypridle.Lib.Extrema
import Nothypridle.Resources

/-!
# Aggregating the vendors

Each vendor loop is the same fold over what its cards report. Across vendors the busy percentages
are merged with `max`, but the free VRAM is that of the first vendor that is present, in the order
NVIDIA, AMD, Intel, even where this vendor reported none.
-/

namespace Nothypridle

/-- What one card contributes. Free VRAM in megabytes is far below the `u64::MAX` that stands for no
reading. -/
structure CardReading where
  busy : Option UInt32
  vramMb : Option UInt64
  vramMb_lt : ∀ mb, vramMb = some mb → ¬u64Max ≤ mb

def busyReadings (cards : List CardReading) : List UInt32 := cards.filterMap CardReading.busy

def vramReadings (cards : List CardReading) : List UInt64 := cards.filterMap CardReading.vramMb

def CardReading.record (acc : UInt32 × UInt64) (card : CardReading) : UInt32 × UInt64 :=
  (card.busy.elim acc.1 (max acc.1), card.vramMb.elim acc.2 (min acc.2))

def vendorMetrics (cards : List CardReading) : Option (UInt32 × UInt64) :=
  if cards.isEmpty then none else some (cards.foldl CardReading.record (0, u64Max))

theorem u64Max_top (n : UInt64) : n ≤ u64Max := by
  rw [UInt64.le_iff_toNat_le]
  have hlt := n.toNat_lt
  have hmax : u64Max.toNat = 2 ^ 64 - 1 := rfl
  omega

instance lawfulOrderMaxUInt32 : Std.LawfulOrderMax UInt32 := by
  have hmax : ∀ a b : UInt32, max a b = if a ≤ b then b else a := fun _ _ => rfl
  apply Std.LawfulOrderMax.of_max_le_iff
  · intro a b c
    rw [hmax]
    by_cases hle : a ≤ b
    · rw [if_pos hle]
      exact ⟨fun h => ⟨Std.le_trans hle h, h⟩, fun h => h.2⟩
    · rw [if_neg hle]
      have hge := Std.le_of_not_ge hle
      exact ⟨fun h => ⟨h, Std.le_trans hge h⟩, fun h => h.1⟩
  · intro a b
    rw [hmax]
    by_cases hle : a ≤ b <;> simp [hle]

theorem u32_zero_le (n : UInt32) : 0 ≤ n := by
  simp [UInt32.le_iff_toNat_le]

theorem zero_max (n : UInt32) : max 0 n = n :=
  Std.le_antisymm (Std.max_le_iff.mpr ⟨u32_zero_le n, Std.le_refl n⟩) Std.right_le_max

theorem max_zero (n : UInt32) : max n 0 = n :=
  Std.le_antisymm (Std.max_le_iff.mpr ⟨Std.le_refl n, u32_zero_le n⟩) Std.left_le_max

theorem not_u64Max_le_megabytes (n : UInt64) : ¬u64Max ≤ n / (1024 * 1024) := by
  rw [UInt64.le_iff_toNat_le, UInt64.toNat_div]
  have hlt := n.toNat_lt
  have hmax : u64Max.toNat = 2 ^ 64 - 1 := rfl
  have hmb : (1024 * 1024 : UInt64).toNat = 2 ^ 20 := rfl
  rw [hmax, hmb]
  omega

theorem not_u64Max_le_of_mem {cards : List CardReading} :
    ∀ mb ∈ vramReadings cards, ¬u64Max ≤ mb := by
  intro mb hmem
  obtain ⟨card, _, hcard⟩ := List.mem_filterMap.mp hmem
  exact card.vramMb_lt mb hcard

theorem foldl_record (cards : List CardReading) :
    cards.foldl CardReading.record (0, u64Max) =
      ((busyReadings cards).max?.getD 0, (vramReadings cards).min?.getD u64Max) := by
  calc
    cards.foldl CardReading.record (0, u64Max) =
        ((busyReadings cards).foldl max 0, (vramReadings cards).foldl min u64Max) := by
      rw [busyReadings, vramReadings, ← Extrema.foldl_elim, ← Extrema.foldl_elim]
      exact Extrema.foldl_prod (fun acc (card : CardReading) => card.busy.elim acc (max acc))
        (fun acc card => card.vramMb.elim acc (min acc)) cards 0 u64Max
    _ = ((busyReadings cards).max?.getD 0, (vramReadings cards).min?.getD u64Max) := by
      rw [Extrema.foldl_max_eq_getD fun n _ => u32_zero_le n,
        Extrema.foldl_min_eq_getD fun n _ => u64Max_top n]

/-! ### The vendors -/

def amdReading (sysfs : Sysfs) (cardPath : Path) : CardReading where
  busy := sysfs.readParsed Text.parseU32 (cardPath.join ["device", "gpu_busy_percent"])
  vramMb := (sysfs.readParsed Text.parseU64 (cardPath.join ["device", "mem_info_vram_total"])).bind
    fun total =>
      (sysfs.readParsed Text.parseU64 (cardPath.join ["device", "mem_info_vram_used"])).bind
        fun used => if total > 0 then some (saturatingSub total used / (1024 * 1024)) else none
  vramMb_lt := by
    intro mb hmb
    simp only [Option.bind_eq_some_iff, Option.ite_none_right_eq_some, Option.some.injEq] at hmb
    obtain ⟨_, _, _, _, _, rfl⟩ := hmb
    exact not_u64Max_le_megabytes _

def nvidiaReading (nvml : Nvml) (i : UInt32) : CardReading where
  busy := (nvml.deviceByIndex i).toOption.bind fun device => device.utilizationRates.toOption
  vramMb := (nvml.deviceByIndex i).toOption.bind fun device =>
    device.memoryInfo.toOption.bind fun memoryInfo =>
      if memoryInfo.total > 0 then some (memoryInfo.free / (1024 * 1024)) else none
  vramMb_lt := by
    intro mb hmb
    simp only [Option.bind_eq_some_iff, Option.ite_none_right_eq_some, Option.some.injEq] at hmb
    obtain ⟨_, _, _, _, _, rfl⟩ := hmb
    exact not_u64Max_le_megabytes _

def intelReading (sysfs : Sysfs) (cardPath : Path) : CardReading where
  busy := if isGpuSuspended sysfs cardPath then none else some (readIntelBusyPct sysfs cardPath)
  vramMb := if isGpuSuspended sysfs cardPath then none else readIntelVramFreeMb sysfs cardPath
  vramMb_lt := by
    intro mb hmb
    simp only [readIntelVramFreeMb, bind, Option.ite_none_left_eq_some, Option.bind_eq_some_iff,
      Option.some.injEq] at hmb
    obtain ⟨_, _, _, _, _, _, _, rfl⟩ := hmb
    exact not_u64Max_le_megabytes _

theorem AmdGpuMonitor.visit_eq (sysfs : Sysfs) (acc : UInt32 × UInt64) (cardPath : Path) :
    AmdGpuMonitor.visit sysfs acc cardPath = (amdReading sysfs cardPath).record acc := by
  simp only [AmdGpuMonitor.visit, CardReading.record, amdReading, Path.join, List.append_assoc,
    List.cons_append, List.nil_append]
  congr 1
  · cases sysfs.readParsed Text.parseU32 _ <;> rfl
  · cases sysfs.readParsed Text.parseU64 _ with
    | none => rfl
    | some total =>
        cases sysfs.readParsed Text.parseU64 _ with
        | none => rfl
        | some used => by_cases htotal : total > 0 <;> simp [htotal]

theorem NvidiaGpuMonitor.visit_eq (nvml : Nvml) (acc : UInt32 × UInt64) (i : UInt32) :
    NvidiaGpuMonitor.visit nvml acc i = (nvidiaReading nvml i).record acc := by
  simp only [NvidiaGpuMonitor.visit, CardReading.record, nvidiaReading]
  cases nvml.deviceByIndex i with
  | error err => rfl
  | ok device =>
      simp only [Except.toOption, Option.bind_some]
      congr 1
      · cases device.utilizationRates <;> rfl
      · cases device.memoryInfo with
        | error err => rfl
        | ok memoryInfo => by_cases htotal : memoryInfo.total > 0 <;> simp [htotal]

theorem IntelGpuMonitor.visit_eq (sysfs : Sysfs) (acc : UInt32 × UInt64) (cardPath : Path) :
    IntelGpuMonitor.visit sysfs acc cardPath = (intelReading sysfs cardPath).record acc := by
  simp only [IntelGpuMonitor.visit, CardReading.record, intelReading]
  by_cases hsuspended : isGpuSuspended sysfs cardPath
  · simp [hsuspended]
  · simp only [hsuspended]
    cases readIntelVramFreeMb sysfs cardPath <;> rfl

/-- A loop whose steps record what is read is the fold over the readings. -/
theorem vendorMetrics_map {α : Type} {visit : UInt32 × UInt64 → α → UInt32 × UInt64}
    {reading : α → CardReading} (hvisit : ∀ acc a, visit acc a = (reading a).record acc)
    (l : List α) : vendorMetrics (l.map reading) =
      if l.isEmpty then none else some (l.foldl visit (0, u64Max)) := by
  have hrecord : visit = fun acc a => (reading a).record acc := by
    funext acc a
    exact hvisit acc a
  rw [vendorMetrics, List.isEmpty_map, List.foldl_map, hrecord]

theorem vendorMetrics_eq_none_iff {cards : List CardReading} :
    vendorMetrics cards = none ↔ cards = [] := by
  cases cards with
  | nil => simp [vendorMetrics]
  | cons card cards => simp [vendorMetrics]

theorem AmdGpuMonitor.getMetrics_eq (sysfs : Sysfs) (monitor : AmdGpuMonitor) :
    monitor.getMetrics sysfs = vendorMetrics (monitor.gpuPaths.map (amdReading sysfs)) :=
  (vendorMetrics_map (visit_eq sysfs) monitor.gpuPaths).symm

theorem IntelGpuMonitor.getMetrics_eq (sysfs : Sysfs) (monitor : IntelGpuMonitor) :
    monitor.getMetrics sysfs = vendorMetrics (monitor.gpuPaths.map (intelReading sysfs)) :=
  (vendorMetrics_map (visit_eq sysfs) monitor.gpuPaths).symm

def NvidiaGpuMonitor.cards (monitor : NvidiaGpuMonitor) : List CardReading :=
  match monitor.nvml with
  | none => []
  | some nvml =>
      match nvml.deviceCount with
      | .error _ => []
      | .ok deviceCount => (indices deviceCount).map (nvidiaReading nvml)

theorem NvidiaGpuMonitor.indices_eq_nil_iff {deviceCount : UInt32} :
    indices deviceCount = [] ↔ deviceCount = 0 := by
  rw [indices, List.map_eq_nil_iff, List.range_eq_nil, ← UInt32.toNat_inj]
  rfl

theorem NvidiaGpuMonitor.getMetrics_eq (monitor : NvidiaGpuMonitor) :
    monitor.getMetrics = vendorMetrics monitor.cards := by
  unfold getMetrics cards
  cases monitor.nvml with
  | none => rfl
  | some nvml =>
      simp only
      cases nvml.deviceCount with
      | error err => rfl
      | ok deviceCount =>
          simp only [vendorMetrics_map (visit_eq nvml), List.isEmpty_iff, indices_eq_nil_iff]

/-! ### The aggregate -/

def GpuMonitor.vendors (sysfs : Sysfs) (monitor : GpuMonitor) : List (List CardReading) :=
  [monitor.nvidiaMonitor.cards, monitor.amdMonitor.gpuPaths.map (amdReading sysfs),
    monitor.intelMonitor.gpuPaths.map (intelReading sysfs)]

def GpuMonitor.cards (sysfs : Sysfs) (monitor : GpuMonitor) : List CardReading :=
  (monitor.vendors sysfs).flatten

/-- The cards of the first vendor that has any. -/
def GpuMonitor.firstVendorCards (sysfs : Sysfs) (monitor : GpuMonitor) : List CardReading :=
  ((monitor.vendors sysfs).find? fun cards => !cards.isEmpty).getD []

/-- The metrics are the maximum of all busy readings and the minimum of all readings of free VRAM,
and the latter is `u64::MAX` exactly if no card gave one; so a poll on these cards passes over
`min_vram_mb` only if no card gave one. -/
def AggregatesAllVendors (sysfs : Sysfs) (monitor : GpuMonitor) : Prop :=
  (∃ busy vram, monitor.getMetrics sysfs = some (busy, vram) ∧
    busy = (busyReadings (monitor.cards sysfs)).max?.getD 0 ∧
    vram = (vramReadings (monitor.cards sysfs)).min?.getD u64Max ∧
    (vram = u64Max ↔ vramReadings (monitor.cards sysfs) = [])) ∧
  ∀ source : ResourceMonitor, source.gpuMonitor = monitor → source.sysfs = sysfs →
    ResourceSource.getVram (ResourceSource.update source) = u64Max →
    vramReadings (monitor.cards sysfs) = []

def crowdedAmd : Sysfs where
  readToString path :=
    if path = ⟨["sys", "class", "drm", "card1", "device", "mem_info_vram_total"]⟩ then
      .ok "8589934592\n"
    else if path = ⟨["sys", "class", "drm", "card1", "device", "mem_info_vram_used"]⟩ then
      .ok "8485076992\n"
    else .error "No such file or directory (os error 2)"
  pathExists _ := false

/-- That card next to an NVIDIA card with 8000 MiB free. -/
def mixedVendors : GpuMonitor where
  amdMonitor := ⟨[⟨["sys", "class", "drm", "card1"]⟩]⟩
  nvidiaMonitor := ⟨some {
    deviceCount := .ok 1
    deviceByIndex := fun _ => .ok ⟨.ok 3, .ok ⟨12884901888, 8388608000⟩⟩ }⟩
  intelMonitor := ⟨[]⟩

theorem not_aggregatesAllVendors : ¬AggregatesAllVendors crowdedAmd mixedVendors := by
  rintro ⟨⟨busy, vram, hmetrics, _, hvram, _⟩, _⟩
  have hcomputed : mixedVendors.getMetrics crowdedAmd = some (3, 8000) := by decide +kernel
  have hminimum : (vramReadings (mixedVendors.cards crowdedAmd)).min?.getD u64Max = 100 := by
    decide +kernel
  rw [hcomputed] at hmetrics
  obtain ⟨_, rfl⟩ := Prod.mk.inj (Option.some.inj hmetrics)
  rw [hminimum] at hvram
  exact absurd hvram (by decide)

theorem busyReadings_append_max (first second : List CardReading) :
    (busyReadings (first ++ second)).max?.getD 0 =
      max ((busyReadings first).max?.getD 0) ((busyReadings second).max?.getD 0) := by
  have hfold : ∀ cards : List CardReading,
      (busyReadings cards).max?.getD 0 = (busyReadings cards).foldl max 0 := fun cards =>
    (Extrema.foldl_max_eq_getD fun n _ => u32_zero_le n).symm
  rw [hfold, hfold, hfold, busyReadings, List.filterMap_append, List.foldl_append]
  exact Extrema.foldl_max_eq_max (u32_zero_le _)

theorem vendorMetrics_eq (cards : List CardReading) :
    vendorMetrics cards = if cards.isEmpty then none
      else some ((busyReadings cards).max?.getD 0, (vramReadings cards).min?.getD u64Max) := by
  rw [vendorMetrics, foldl_record]

/-- What the code computes: every vendor counts for the busy percentage, the first one alone for the
free VRAM. -/
theorem GpuMonitor.getMetrics_eq (sysfs : Sysfs) (monitor : GpuMonitor) :
    monitor.getMetrics sysfs = some ((busyReadings (monitor.cards sysfs)).max?.getD 0,
      (vramReadings (monitor.firstVendorCards sysfs)).min?.getD u64Max) := by
  rw [GpuMonitor.getMetrics, cards, firstVendorCards, vendors, NvidiaGpuMonitor.getMetrics_eq,
    AmdGpuMonitor.getMetrics_eq, IntelGpuMonitor.getMetrics_eq]
  generalize monitor.nvidiaMonitor.cards = nvidia
  generalize monitor.amdMonitor.gpuPaths.map (amdReading sysfs) = amd
  generalize monitor.intelMonitor.gpuPaths.map (intelReading sysfs) = intel
  have hnone : (busyReadings []).max?.getD 0 = 0 := rfl
  simp only [List.flatten_cons, List.flatten_nil, busyReadings_append_max, vendorMetrics_eq, hnone]
  rcases nvidia with _ | ⟨card, nvidia⟩ <;> rcases amd with _ | ⟨card', amd⟩ <;>
    rcases intel with _ | ⟨card'', intel⟩ <;>
    simp [hnone, zero_max, max_zero, vramReadings]
  exact Std.Associative.assoc _ _ _

theorem getVram_update (source : ResourceMonitor) :
    ResourceSource.getVram (ResourceSource.update source) =
      ((source.gpuMonitor.getMetrics source.sysfs).getD (0, u64Max)).2 := rfl

/-- **All vendors are aggregated** exactly if no card reports less free VRAM than every card of the
first vendor. -/
theorem aggregatesAllVendors_iff (sysfs : Sysfs) (monitor : GpuMonitor) :
    AggregatesAllVendors sysfs monitor ↔
      ∀ mb ∈ vramReadings (monitor.cards sysfs),
        ∃ least ∈ vramReadings (monitor.firstVendorCards sysfs), least ≤ mb := by
  have hsubset : vramReadings (monitor.firstVendorCards sysfs) ⊆
      vramReadings (monitor.cards sysfs) := by
    apply List.filterMap_subset
    intro card hcard
    unfold GpuMonitor.firstVendorCards at hcard
    cases hfirst : (monitor.vendors sysfs).find? fun cards => !cards.isEmpty with
    | none =>
        rw [hfirst] at hcard
        cases hcard
    | some cards =>
        rw [hfirst] at hcard
        exact List.mem_flatten.mpr ⟨cards, List.mem_of_find?_eq_some hfirst, hcard⟩
  rw [← Extrema.getD_min_eq_iff_of_subset not_u64Max_le_of_mem hsubset, AggregatesAllVendors,
    GpuMonitor.getMetrics_eq]
  have hsentinel := Extrema.getD_min_eq_default_iff (l := vramReadings (monitor.cards sysfs))
    not_u64Max_le_of_mem
  constructor
  · rintro ⟨⟨busy, vram, hmetrics, _, hvram, _⟩, _⟩
    obtain ⟨_, rfl⟩ := Prod.mk.inj (Option.some.inj hmetrics)
    exact hvram
  · intro hvram
    refine ⟨⟨_, _, rfl, rfl, hvram, ?_⟩, ?_⟩
    · rw [hvram]
      exact hsentinel
    · intro source hmonitor hsysfs hskipped
      rw [getVram_update, hmonitor, hsysfs, GpuMonitor.getMetrics_eq, Option.getD_some,
        hvram] at hskipped
      exact hsentinel.mp hskipped

end Nothypridle
