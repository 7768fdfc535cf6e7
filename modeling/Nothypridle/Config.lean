import Nothypridle.Monitor
import Nothypridle.Lib.Text

/-!
# Rule files

The fields of a rule are typed twice: in the shipped `@schema Rule`, against which a file is checked
when it is loaded, and in `ListenerLoader`, whose getters read it at run time. A rule file is the
map from keys to the text of their values. The AAM library validates the file and generates the
getters; it appears through what it promises of either.
-/

namespace Nothypridle

inductive AamType where
  | string
  | i32
  | f64
  | bool
  | list (element : AamType)
  deriving DecidableEq

structure SchemaField where
  name : String
  type : AamType
  optional : Bool := false

/-- The `@schema Rule` of `dist/schema.aam`. -/
def ruleSchema : List SchemaField :=
  [{ name := "id", type := .string },
    { name := "timeout", type := .i32 },
    { name := "max_cpu_usage", type := .f64 },
    { name := "max_gpu_usage", type := .f64 },
    { name := "min_ram_mb", type := .i32 },
    { name := "min_vram_mb", type := .i32 },
    { name := "music_playing", type := .bool },
    { name := "fullscreen", type := .bool },
    { name := "on_timeout", type := .string, optional := true },
    { name := "on_resume", type := .string, optional := true },
    { name := "music_process_name", type := .string, optional := true },
    { name := "keep_alive_processes", type := .list .string, optional := true }]

abbrev RuleFile := String → Option String

/-- The values that the library accepts for a type. -/
structure AamTypes where
  accepts : AamType → String → Bool
  accepts_i32 : ∀ value, accepts .i32 value = (Text.parseI32 value).isSome
  accepts_f64 : ∀ value, accepts .f64 value = (Text.parseF64 value).isSome
  accepts_bool : ∀ value, accepts .bool value = (Text.parseBool value).isSome

def SchemaField.accepts (aam : AamTypes) (field : SchemaField) (content : RuleFile) : Bool :=
  match content field.name with
  | some value => aam.accepts field.type value
  | none => field.optional

def schemaAccepts (aam : AamTypes) (schema : List SchemaField) (content : RuleFile) : Bool :=
  schema.all fun field => field.accepts aam content

/-! ### The loader -/

/-- The getter answers what the value of the key parses to, and fails where there is none or where
it does not parse. -/
def Reads {α : Type} (rules : List (String × RuleFile)) (parse : String → Option α) (key : String)
    (getter : String → Except String α) : Prop :=
  ∀ id content, rules.lookup id = some content → ∀ value,
    getter id = .ok value ↔ (content key).bind parse = some value

/-- The loader that `define_aam_loader!` generates, with the fields it declares under `req`. -/
structure ListenerLoader where
  rules : List (String × RuleFile)
  source : RuleConfigSource
  timeout : Reads rules Text.parseU32 "timeout" source.timeout
  maxCpuUsage : Reads rules Text.parseF32 "max_cpu_usage" source.maxCpuUsage
  maxGpuUsage : Reads rules Text.parseF32 "max_gpu_usage" source.maxGpuUsage
  minRamMb : Reads rules Text.parseU32 "min_ram_mb" source.minRamMb
  minVramMb : Reads rules Text.parseU32 "min_vram_mb" source.minVramMb
  musicPlaying : Reads rules Text.parseBool "music_playing" source.musicPlaying
  fullscreen : Reads rules Text.parseBool "fullscreen" source.fullscreen

theorem Reads.isOk_iff {α : Type} {rules : List (String × RuleFile)} {parse : String → Option α}
    {key : String} {getter : String → Except String α} (hreads : Reads rules parse key getter)
    {id : String} {content : RuleFile} (hrule : rules.lookup id = some content) :
    (getter id).isOk ↔ ((content key).bind parse).isSome := by
  rw [Option.isSome_iff_exists]
  simp only [← hreads id content hrule]
  cases getter id <;> simp [Except.isOk, Except.toBool]

end Nothypridle
