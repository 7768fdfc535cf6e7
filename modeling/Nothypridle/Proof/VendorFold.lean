import Nothypridle.Lib.Machine
import Nothypridle.Proof.GpuMetrics
import Mathlib.Algebra.Group.Nat.Defs

/-!
# The vendor loops

The AMD and the Intel loop are separate copies of one fold. What a card reads is told here from the
texts of its files, and in natural numbers, so a law that equates it with the machine integers of
the loop says that no step of it wraps.
-/

namespace Nothypridle

/-- The law of a loop over card paths whose cards read `busy` and `freeMb`. -/
structure FoldsCards (metrics : List Path → Option (UInt32 × UInt64))
    (busy freeMb : Path → Option ℕ) (passedOver : Path → Prop) : Prop where
  none_iff : ∀ paths, metrics paths = none ↔ paths = []
  value : ∀ paths b v, metrics paths = some (b, v) →
    b.toNat = (paths.filterMap busy).max?.getD 0 ∧
      v.toNat = (paths.filterMap freeMb).min?.getD u64Max.toNat ∧
      (v = u64Max ↔ paths.filterMap freeMb = [])
  perm : ∀ paths paths', paths.Perm paths' → metrics paths = metrics paths'
  passes : ∀ before card after, before ++ after ≠ [] → passedOver card →
    metrics (before ++ card :: after) = metrics (before ++ after)

/-! ### The readings of a card -/

theorem Path.join_join (path : Path) (names names' : List String) :
    (path.join names).join names' = path.join (names ++ names') := by
  rw [join, join, join, List.append_assoc]

def Unreadable (sysfs : Sysfs) (card : Path) : Prop :=
  ∀ names, ∃ err, sysfs.readToString (card.join names) = .error err

/-- The number that the text of a file is, but for the blanks around it. -/
def Sysfs.shows {α : Type} (sysfs : Sysfs) (parse : String → Option α) (path : Path) : Option α :=
  (sysfs.readToString path).toOption.bind fun text => parse (Text.trim text)

def amdBusy (sysfs : Sysfs) (card : Path) : Option ℕ :=
  (sysfs.shows Text.parseU32 (card.join ["device", "gpu_busy_percent"])).map UInt32.toNat

/-- A card that reports more used than total has nothing free. -/
def amdFreeMb (sysfs : Sysfs) (card : Path) : Option ℕ := do
  let total ← sysfs.shows Text.parseU64 (card.join ["device", "mem_info_vram_total"])
  let used ← sysfs.shows Text.parseU64 (card.join ["device", "mem_info_vram_used"])
  if total = 0 then none else some ((total.toNat - used.toNat) / 2 ^ 20)

def suspended (sysfs : Sysfs) (card : Path) : Bool :=
  (sysfs.readToString (card.join ["device", "power", "runtime_status"])).toOption.any fun text =>
    Text.trim text == "suspended"

/-- The current frequency in percent of the highest one. -/
def frequencyPct (sysfs : Sysfs) (curPath maxPath : Path) : Option ℕ := do
  let cur ← sysfs.shows Text.parseU32 curPath
  let max ← sysfs.shows Text.parseU32 maxPath
  if max = 0 then none else some ((cur.toFloat32 / max.toFloat32) * 100.0).toUInt32.toNat

/-- The frequencies are those of the first engine, else those that the card has under its own
name. -/
def intelBusy (sysfs : Sysfs) (card : Path) : Option ℕ :=
  if suspended sysfs card then none
  else
    let ofEngine := frequencyPct sysfs (card.join ["gt", "gt0", "rps_cur_freq_mhz"])
      (card.join ["gt", "gt0", "rps_max_freq_mhz"])
    let ofCard := card.fileName.bind fun cardName =>
      frequencyPct sysfs (card.join ["device", "drm", cardName, "gt_cur_freq_mhz"])
        (card.join ["device", "drm", cardName, "gt_max_freq_mhz"])
    some ((ofEngine.or ofCard).getD 0)

def intelFreeMb (sysfs : Sysfs) (card : Path) : Option ℕ :=
  let totalVramPath := card.join ["device", "tile0", "memory_all_bytes"]
  let freeVramPath := card.join ["device", "tile0", "memory_free_bytes"]
  if suspended sysfs card ∨ ¬sysfs.pathExists totalVramPath ∨ ¬sysfs.pathExists freeVramPath
  then none
  else do
    let total ← sysfs.shows Text.parseU64 totalVramPath
    let free ← sysfs.shows Text.parseU64 freeVramPath
    if total = 0 then none else some (free.toNat / 2 ^ 20)

/-! ### The code reads them -/

theorem Sysfs.readParsed_eq {α : Type} (sysfs : Sysfs) (parse : String → Option α) (path : Path) :
    sysfs.readParsed parse path = sysfs.shows parse path := by
  rw [readParsed, shows]
  cases sysfs.readToString path <;> rfl

theorem isGpuSuspended_eq (sysfs : Sysfs) (card : Path) :
    isGpuSuspended sysfs card = suspended sysfs card := by
  rw [isGpuSuspended, suspended]
  cases sysfs.readToString (card.join ["device", "power", "runtime_status"]) <;> rfl

theorem readFreqRatio_map (sysfs : Sysfs) (curPath maxPath : Path) :
    (readFreqRatio sysfs curPath maxPath).map UInt32.toNat =
      frequencyPct sysfs curPath maxPath := by
  simp only [readFreqRatio, frequencyPct, Sysfs.shows, bind]
  cases (sysfs.readToString curPath).toOption with
  | none => rfl
  | some curStr =>
      cases (sysfs.readToString maxPath).toOption with
      | none =>
          simp only [Option.bind_some, Option.bind_none]
          cases Text.parseU32 (Text.trim curStr) <;> rfl
      | some maxStr =>
          simp only [Option.bind_some]
          cases Text.parseU32 (Text.trim curStr) with
          | none => rfl
          | some cur =>
              cases Text.parseU32 (Text.trim maxStr) with
              | none => rfl
              | some max => by_cases hmax : max = 0 <;> simp [hmax]

theorem readIntelBusyPct_eq {sysfs : Sysfs} {card : Path} (hawake : suspended sysfs card = false) :
    some (readIntelBusyPct sysfs card).toNat = intelBusy sysfs card := by
  rw [intelBusy, if_neg (by simp [hawake]), readIntelBusyPct]
  simp only [← readFreqRatio_map, Path.join_join, List.cons_append, List.nil_append]
  cases readFreqRatio sysfs (card.join ["gt", "gt0", "rps_cur_freq_mhz"])
      (card.join ["gt", "gt0", "rps_max_freq_mhz"]) with
  | some pct => rfl
  | none =>
      cases card.fileName with
      | none => rfl
      | some cardName =>
          simp only [Option.map_none, Option.none_or, Option.bind_some]
          cases readFreqRatio sysfs (card.join ["device", "drm", cardName, "gt_cur_freq_mhz"])
            (card.join ["device", "drm", cardName, "gt_max_freq_mhz"]) <;> rfl

theorem toNat_saturatingSub (a b : UInt64) : (saturatingSub a b).toNat = a.toNat - b.toNat := by
  unfold saturatingSub
  split
  · rename_i hle
    exact UInt64.toNat_sub_of_le _ _ hle
  · rename_i hlt
    rw [UInt64.le_iff_toNat_le] at hlt
    change 0 = _
    omega

theorem toNat_megabytes (n : UInt64) : (n / (1024 * 1024)).toNat = n.toNat / 2 ^ 20 := by
  rw [UInt64.toNat_div]
  rfl

theorem amdReading_vramMb (sysfs : Sysfs) (card : Path) :
    (amdReading sysfs card).vramMb.map UInt64.toNat = amdFreeMb sysfs card := by
  simp only [amdReading, amdFreeMb, bind, Sysfs.readParsed_eq]
  cases sysfs.shows Text.parseU64 (card.join ["device", "mem_info_vram_total"]) with
  | none => rfl
  | some total =>
      cases sysfs.shows Text.parseU64 (card.join ["device", "mem_info_vram_used"]) with
      | none => rfl
      | some used =>
          simp only [Option.bind_some]
          by_cases htotal : total = 0
          · subst htotal
            rfl
          · have hpos : total > 0 := UInt64.pos_iff_ne_zero.mpr htotal
            rw [if_pos hpos, if_neg htotal, Option.map_some, toNat_megabytes, toNat_saturatingSub]

theorem amdReading_busy (sysfs : Sysfs) (card : Path) :
    (amdReading sysfs card).busy.map UInt32.toNat = amdBusy sysfs card := by
  rw [amdReading, amdBusy, Sysfs.readParsed_eq]

theorem intelReading_busy (sysfs : Sysfs) (card : Path) :
    (intelReading sysfs card).busy.map UInt32.toNat = intelBusy sysfs card := by
  simp only [intelReading, isGpuSuspended_eq]
  cases hsuspended : suspended sysfs card with
  | true => simp [intelBusy, hsuspended]
  | false => exact readIntelBusyPct_eq hsuspended

theorem intelReading_vramMb (sysfs : Sysfs) (card : Path) :
    (intelReading sysfs card).vramMb.map UInt64.toNat = intelFreeMb sysfs card := by
  simp only [intelReading, intelFreeMb, readIntelVramFreeMb, bind, Path.join_join,
    List.cons_append, List.nil_append, Sysfs.readParsed_eq, isGpuSuspended_eq]
  generalize card.join ["device", "tile0", "memory_all_bytes"] = totalVramPath
  generalize card.join ["device", "tile0", "memory_free_bytes"] = freeVramPath
  by_cases hsuspended : suspended sysfs card = true
  · simp [hsuspended]
  by_cases htotal : sysfs.pathExists totalVramPath = true
  · by_cases hfree : sysfs.pathExists freeVramPath = true
    · simp only [hsuspended, htotal, hfree]
      cases sysfs.shows Text.parseU64 totalVramPath with
      | none => rfl
      | some total =>
          cases sysfs.shows Text.parseU64 freeVramPath with
          | none => rfl
          | some free =>
              by_cases hzero : total = 0
              · simp [hzero]
              · simp [hzero]
    · simp [hsuspended, hfree]
  · simp [hsuspended, htotal]

theorem record_right_comm (acc : UInt32 × UInt64) (card card' : CardReading) :
    card'.record (card.record acc) = card.record (card'.record acc) := by
  have hmax : ∀ a b c : UInt32, max (max a b) c = max (max a c) b := by
    intro a b c
    rw [← UInt32.toNat_inj]
    simp only [Machine.toNat_max]
    omega
  have hmin : ∀ a b c : UInt64, min (min a b) c = min (min a c) b := by
    intro a b c
    rw [← UInt64.toNat_inj]
    simp only [Machine.toNat_min]
    omega
  simp only [CardReading.record]
  congr 1
  · cases card.busy <;> cases card'.busy <;> simp [hmax]
  · cases card.vramMb <;> cases card'.vramMb <;> simp [hmin]

/-! ### The law -/

theorem foldsCards_of_vendorMetrics {metrics : List Path → Option (UInt32 × UInt64)}
    {reading : Path → CardReading} {busy freeMb : Path → Option ℕ} {passedOver : Path → Prop}
    (hmetrics : ∀ paths, metrics paths = vendorMetrics (paths.map reading))
    (hbusy : ∀ card, (reading card).busy.map UInt32.toNat = busy card)
    (hfree : ∀ card, (reading card).vramMb.map UInt64.toNat = freeMb card)
    (hpasses : ∀ card, passedOver card → ∀ acc, (reading card).record acc = acc) :
    FoldsCards metrics busy freeMb passedOver := by
  have hbusies : ∀ paths : List Path,
      (busyReadings (paths.map reading)).map UInt32.toNat = paths.filterMap busy := by
    intro paths
    rw [busyReadings, List.filterMap_map, List.map_filterMap]
    exact congrArg (List.filterMap · paths) (funext hbusy)
  have hfrees : ∀ paths : List Path,
      (vramReadings (paths.map reading)).map UInt64.toNat = paths.filterMap freeMb := by
    intro paths
    rw [vramReadings, List.filterMap_map, List.map_filterMap]
    exact congrArg (List.filterMap · paths) (funext hfree)
  refine ⟨?_, ?_, ?_, ?_⟩
  · intro paths
    rw [hmetrics, vendorMetrics_eq_none_iff, List.map_eq_nil_iff]
  · intro paths b v hvalue
    rw [hmetrics, vendorMetrics_eq, Option.ite_none_left_eq_some] at hvalue
    obtain ⟨rfl, rfl⟩ := Prod.mk.inj (Option.some.inj hvalue.2)
    refine ⟨?_, ?_, ?_⟩
    · rw [← hbusies, Extrema.max?_map fun a b => (Machine.toNat_max a b).symm]
      cases (busyReadings (paths.map reading)).max? <;> rfl
    · rw [← hfrees, Extrema.min?_map fun a b => (Machine.toNat_min a b).symm]
      cases (vramReadings (paths.map reading)).min? <;> rfl
    · rw [Extrema.getD_min_eq_default_iff not_u64Max_le_of_mem, ← hfrees, List.map_eq_nil_iff]
  · intro paths paths' hperm
    rw [hmetrics, hmetrics, vendorMetrics, vendorMetrics, List.isEmpty_map, List.isEmpty_map,
      hperm.isEmpty_eq, (hperm.map reading).foldl_eq' fun x _ y _ z => record_right_comm z x y]
  · intro before card after hne hpassed
    rw [hmetrics, hmetrics, vendorMetrics, vendorMetrics, List.isEmpty_map, List.isEmpty_map,
      if_neg (by simp), if_neg (by simpa using hne), List.map_append, List.map_append,
      List.foldl_append, List.foldl_append, List.map_cons, List.foldl_cons, hpasses card hpassed]

theorem readParsed_unreadable {α : Type} {sysfs : Sysfs} {card : Path}
    (hunreadable : Unreadable sysfs card) (parse : String → Option α) (names : List String) :
    sysfs.readParsed parse (card.join names) = none := by
  obtain ⟨err, herr⟩ := hunreadable names
  rw [Sysfs.readParsed, herr]

theorem amdReading_unreadable {sysfs : Sysfs} {card : Path} (hunreadable : Unreadable sysfs card)
    (acc : UInt32 × UInt64) : (amdReading sysfs card).record acc = acc := by
  simp only [CardReading.record, amdReading, readParsed_unreadable hunreadable, Option.bind_none,
    Option.elim_none]

theorem readFreqRatio_unreadable {sysfs : Sysfs} {card : Path} (hunreadable : Unreadable sysfs card)
    (names names' : List String) :
    readFreqRatio sysfs (card.join names) (card.join names') = none := by
  obtain ⟨err, herr⟩ := hunreadable names
  simp only [readFreqRatio, herr, Except.toOption, bind, Option.bind_none]

theorem readIntelBusyPct_unreadable {sysfs : Sysfs} {card : Path}
    (hunreadable : Unreadable sysfs card) : readIntelBusyPct sysfs card = 0 := by
  rw [readIntelBusyPct, readFreqRatio_unreadable hunreadable]
  cases card.fileName with
  | none => rfl
  | some cardName =>
      simp only [Path.join_join, readFreqRatio_unreadable hunreadable, Option.getD_none]

theorem readIntelVramFreeMb_unreadable {sysfs : Sysfs} {card : Path}
    (hunreadable : Unreadable sysfs card) : readIntelVramFreeMb sysfs card = none := by
  simp only [readIntelVramFreeMb, Path.join_join, readParsed_unreadable hunreadable, bind,
    Option.bind_none, ite_self]

theorem intelReading_passedOver {sysfs : Sysfs} {card : Path}
    (hpassed : suspended sysfs card = true ∨ Unreadable sysfs card)
    (acc : UInt32 × UInt64) : (intelReading sysfs card).record acc = acc := by
  rw [← IntelGpuMonitor.visit_eq, IntelGpuMonitor.visit, isGpuSuspended_eq]
  by_cases hsuspended : suspended sysfs card = true
  · rw [if_pos hsuspended]
  · have hunreadable := hpassed.resolve_left hsuspended
    rw [if_neg hsuspended, readIntelVramFreeMb_unreadable hunreadable,
      readIntelBusyPct_unreadable hunreadable, max_zero]

/-- **The vendor loops fold their cards**, whatever the sysfs tree holds. -/
theorem vendorLoops_foldCards (sysfs : Sysfs) :
    FoldsCards (fun gpuPaths => AmdGpuMonitor.getMetrics sysfs ⟨gpuPaths⟩) (amdBusy sysfs)
        (amdFreeMb sysfs) (Unreadable sysfs) ∧
      FoldsCards (fun gpuPaths => IntelGpuMonitor.getMetrics sysfs ⟨gpuPaths⟩) (intelBusy sysfs)
        (intelFreeMb sysfs)
        (fun card => suspended sysfs card = true ∨ Unreadable sysfs card) := by
  constructor
  · exact foldsCards_of_vendorMetrics (fun paths => AmdGpuMonitor.getMetrics_eq sysfs ⟨paths⟩)
      (amdReading_busy sysfs) (amdReading_vramMb sysfs) fun card => amdReading_unreadable
  · exact foldsCards_of_vendorMetrics (fun paths => IntelGpuMonitor.getMetrics_eq sysfs ⟨paths⟩)
      (intelReading_busy sysfs) (intelReading_vramMb sysfs) fun card => intelReading_passedOver

/-! ### Four cards -/

def cardPath (cardName : String) : Path := ⟨["sys", "class", "drm", cardName]⟩

/-- The utilization of `card1` is not a number, and `card3` is suspended. -/
def cardFiles : List (Path × String) :=
  [((cardPath "card0").join ["device", "gpu_busy_percent"], "37\n"),
    ((cardPath "card0").join ["device", "mem_info_vram_total"], "8589934592\n"),
    ((cardPath "card0").join ["device", "mem_info_vram_used"], "1073741824\n"),
    ((cardPath "card1").join ["device", "gpu_busy_percent"], "n/a\n"),
    ((cardPath "card1").join ["device", "mem_info_vram_total"], "4294967296\n"),
    ((cardPath "card1").join ["device", "mem_info_vram_used"], "1073741824\n"),
    ((cardPath "card2").join ["device", "drm", "card2", "gt_cur_freq_mhz"], "300\n"),
    ((cardPath "card2").join ["device", "drm", "card2", "gt_max_freq_mhz"], "1200\n"),
    ((cardPath "card2").join ["device", "tile0", "memory_all_bytes"], "8589934592\n"),
    ((cardPath "card2").join ["device", "tile0", "memory_free_bytes"], "2147483648\n"),
    ((cardPath "card3").join ["device", "power", "runtime_status"], "suspended\n"),
    ((cardPath "card3").join ["device", "tile0", "memory_all_bytes"], "8589934592\n"),
    ((cardPath "card3").join ["device", "tile0", "memory_free_bytes"], "1048576\n")]

def cardSysfs : Sysfs where
  readToString path :=
    match cardFiles.lookup path with
    | some text => .ok text
    | none => .error "No such file or directory (os error 2)"
  pathExists path := (cardFiles.lookup path).isSome

theorem vendorLoops_foldCards_values :
    (∃ b v, AmdGpuMonitor.getMetrics cardSysfs ⟨[cardPath "card0", cardPath "card1"]⟩ =
        some (b, v) ∧ b.toNat = 37 ∧ v.toNat = 3072) ∧
      ∃ b v, IntelGpuMonitor.getMetrics cardSysfs ⟨[cardPath "card2", cardPath "card3"]⟩ =
        some (b, v) ∧
        b.toNat = (((300 : UInt32).toFloat32 / (1200 : UInt32).toFloat32) * 100.0).toUInt32.toNat ∧
        v.toNat = 2048 := by
  obtain ⟨hamd, hintel⟩ := vendorLoops_foldCards cardSysfs
  constructor
  · cases hmetrics : AmdGpuMonitor.getMetrics cardSysfs ⟨[cardPath "card0", cardPath "card1"]⟩ with
    | none => cases (hamd.none_iff _).mp hmetrics
    | some metrics =>
        obtain ⟨hbusy, hfree, _⟩ := hamd.value _ metrics.1 metrics.2 hmetrics
        refine ⟨metrics.1, metrics.2, rfl, hbusy.trans ?_, hfree.trans ?_⟩
        · decide +kernel
        · decide +kernel
  · have hbusies : [cardPath "card2", cardPath "card3"].filterMap (intelBusy cardSysfs) =
        [(((300 : UInt32).toFloat32 / (1200 : UInt32).toFloat32) * 100.0).toUInt32.toNat] := by
      rfl
    have hfrees : [cardPath "card2", cardPath "card3"].filterMap (intelFreeMb cardSysfs) =
        [2048] := by
      decide +kernel
    cases hmetrics : IntelGpuMonitor.getMetrics cardSysfs
        ⟨[cardPath "card2", cardPath "card3"]⟩ with
    | none => cases (hintel.none_iff _).mp hmetrics
    | some metrics =>
        obtain ⟨hbusy, hfree, _⟩ := hintel.value _ metrics.1 metrics.2 hmetrics
        rw [hbusies] at hbusy
        rw [hfrees] at hfree
        exact ⟨metrics.1, metrics.2, rfl, hbusy, hfree⟩

end Nothypridle
