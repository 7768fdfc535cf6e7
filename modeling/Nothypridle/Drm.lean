import Nothypridle.Lib.FileName
import Nothypridle.Lib.Lossy
import Nothypridle.Lib.Preference
import Nothypridle.Resources
import Mathlib.Data.List.Lex
import Mathlib.Data.String.Basic

/-!
# The cards of a vendor

Which cards a vendor monitor reads. `/sys/class/drm` has a directory for every card and one for
every connector of a card, and one snapshot of it stands for what both enumerations see. The name of
an entry is any sequence of bytes.
-/

namespace Nothypridle

/-- An entry of the directory, with what the files and links below it answer. -/
structure DirEntry where
  fileName : FileName
  readToString : List String → Except String String
  readLink : List String → Except String (List UInt8)

def drmDir : Path := ⟨["sys", "class", "drm"]⟩

/-- Only paths with an ASCII name are kept, and decoding leaves these alone. -/
def DirEntry.path (entry : DirEntry) : Path := drmDir.join [Text.decodeLossy entry.fileName]

structure Drm where
  readDir : Except String (List (Except String DirEntry))
  distinct : ∀ entries, readDir = .ok entries →
    ((entries.filterMap Except.toOption).map DirEntry.fileName).Nodup

def Drm.entries (drm : Drm) : List DirEntry :=
  match drm.readDir with
  | .ok entries => entries.filterMap Except.toOption
  | .error _ => []

theorem Drm.nodup (drm : Drm) : (drm.entries.map DirEntry.fileName).Nodup := by
  rw [entries]
  cases hdir : drm.readDir with
  | ok entries => exact drm.distinct entries hdir
  | error err => exact List.nodup_nil

/-- Paths are compared component by component. -/
instance Path.instPartialOrder : PartialOrder Path :=
  PartialOrder.lift Path.components fun a b h => by cases a; cases b; exact congrArg Path.mk h

instance Path.instDecidableLE : DecidableLE Path := fun a b =>
  inferInstanceAs (Decidable (a.components ≤ b.components))

/-! ### Connectors -/

def connectedCardName (entry : DirEntry) : Option String :=
  let nameStr := Text.decodeLossy entry.fileName
  if !Text.startsWith nameStr "card" || !nameStr.toList.contains '-' then none
  else
    match entry.readToString ["status"] with
    | .error _ => none
    | .ok status =>
        if Text.trim status ≠ "connected" then none else some (Text.splitFirst '-' nameStr)

def getConnectedGpus (drm : Drm) : Finset String :=
  drm.entries.foldl
    (fun connectedCards entry =>
      (connectedCardName entry).elim connectedCards fun cardName => insert cardName connectedCards)
    ∅

/-! ### Cards -/

/-- The predicate reads what is below the path of the entry. -/
abbrev VendorPredicate := DirEntry → Bool

def findGpuPathsByVendor (drm : Drm) (matchesVendor : VendorPredicate) : List Path :=
  let paths := (drm.entries.filter fun entry =>
    let nameStr := Text.decodeLossy entry.fileName
    Text.startsWith nameStr "card" && (nameStr.toList.drop "card".length).all Char.isDigit &&
      matchesVendor entry).map DirEntry.path
  paths.mergeSort fun a b => a ≤ b

section

-- The mapping of Unicode.
variable (toLowercase : String → String)

def vendorContains (entry : DirEntry) (vendorId : String) : Bool :=
  match entry.readToString ["device", "vendor"] with
  | .ok vendor => Text.contains (toLowercase (Text.trim vendor)) vendorId
  | .error _ => false

def matchesVendorOrDriver (entry : DirEntry) (vendorId driver : String) : Bool :=
  vendorContains toLowercase entry vendorId ||
    match entry.readLink ["device", "driver"] with
    | .ok target => Text.contains (Text.decodeLossy target) driver
    | .error _ => false

def isAmdGpu : VendorPredicate := fun entry =>
  matchesVendorOrDriver toLowercase entry "0x1002" "amdgpu"

def findAmdGpuPaths (drm : Drm) : List Path := findGpuPathsByVendor drm (isAmdGpu toLowercase)

def isIntelGpu : VendorPredicate := fun entry =>
  vendorContains toLowercase entry "0x8086" ||
    match entry.readLink ["device", "driver"] with
    | .ok target =>
        let targetStr := Text.decodeLossy target
        Text.contains targetStr "i915" || Text.contains targetStr "xe"
    | .error _ => false

def findIntelGpuPaths (drm : Drm) : List Path := findGpuPathsByVendor drm (isIntelGpu toLowercase)

/-! ### The monitors -/

def isConnectedPath (connectedGpus : Finset String) (path : Path) : Bool :=
  match path.fileName with
  | some cardName => cardName ∈ connectedGpus
  | none => false

/-- The branches for a vendor without cards and for one without connected cards differ in what they
log. -/
def selectGpuPaths (allPaths : List Path) (connectedGpus : Finset String) : List Path :=
  Preference.preferring (isConnectedPath connectedGpus) allPaths

def AmdGpuMonitor.new (drm : Drm) : AmdGpuMonitor :=
  { gpuPaths := selectGpuPaths (findAmdGpuPaths toLowercase drm) (getConnectedGpus drm) }

def IntelGpuMonitor.new (drm : Drm) : IntelGpuMonitor :=
  { gpuPaths := selectGpuPaths (findIntelGpuPaths toLowercase drm) (getConnectedGpus drm) }

/-- `init` is the answer of `Nvml::init`. -/
def NvidiaGpuMonitor.new (init : Except String Nvml) : NvidiaGpuMonitor :=
  { nvml := init.toOption }

def GpuMonitor.new (drm : Drm) (init : Except String Nvml) : GpuMonitor :=
  { amdMonitor := .new toLowercase drm
    nvidiaMonitor := .new init
    intelMonitor := .new toLowercase drm }

end

/-- What the machine answers to a monitor that is made on it. -/
structure Host where
  drm : Drm
  nvml : Except String Nvml
  sys : Sysinfo
  sysfs : Sysfs
  finder : PlayerFinder

def ResourceMonitor.new (host : Host) : ResourceMonitor :=
  { cpu := 0.0
    gpu := 0.0
    ram := 0
    vram := u64Max
    gpuMonitor := .new host.finder.toLowercase host.drm host.nvml
    sys := host.sys.refreshCpuAll
    sysfs := host.sysfs
    finder := host.finder }

end Nothypridle
