import Nothypridle.Lib.FileName
import Nothypridle.Lib.Text
import Mathlib.Logic.Function.Basic

/-!
# The rules directory

The loader hands a rule to the AAM library in a temporary file next to it, with the schema in front.
A directory is a map from the names of its files to their contents, and what the system calls and
the library answer is given along with it. The library sees the loader, with what it has loaded
before, and the whole directory. Removing a file always succeeds.
-/

namespace Nothypridle

abbrev Dir := FileName → Option (List UInt8)

namespace Dir

def write (dir : Dir) (file : FileName) (content : List UInt8) : Dir :=
  Function.update dir file (some content)

def remove (dir : Dir) (file : FileName) : Dir := Function.update dir file none

end Dir

inductive WriteResult where
  | ok
  | notCreated (err : String)
  /-- The file was created, and the first `written` bytes of its content are in it. -/
  | torn (written : ℕ) (err : String)

section

variable (L : Type)

/-- What the library makes of a file: the cache file that it leaves next to it, its answer, and the
loader. -/
structure AamLoad where
  cache : Option (List UInt8)
  result : Except String Unit
  loader : L

/-- What a load answers, and what it leaves. -/
structure Loaded where
  result : Except String Unit
  loader : L
  dir : Dir

/-- The system and the library, whose loaders are of type `L`. -/
structure LoadEnv where
  /-- How a file of the directory is displayed. -/
  display : FileName → String
  rulesDir : String
  readError : FileName → Option String
  readDir : Except String (List (Except String FileName))
  /-- How the write of the temporary file ends, for each rule. -/
  write : FileName → WriteResult
  loadAam : L → Dir → FileName → AamLoad L
  loadDir : L → Dir → Loaded L

end

variable {L : Type}

def schemaFile : FileName := Text.bytes "schema.aam"

def LoadEnv.readToString (env : LoadEnv L) (dir : Dir) (file : FileName) : Except String String :=
  match env.readError file, dir file with
  | some err, _ => .error err
  | none, none => .error "No such file or directory (os error 2)"
  | none, some content =>
      match Text.decode content with
      | some text => .ok text
      | none => .error "stream did not contain valid UTF-8"

def isRuleFile (dir : Dir) (file : FileName) : Bool :=
  (dir file).isSome && file.extension.bind Text.decode == some "aam" &&
    Text.decode file != some "config.aam" && Text.decode file != some "schema.aam"

def ruleFiles (dir : Dir) (entries : List (Except String FileName)) : List FileName :=
  (entries.filterMap Except.toOption).filter (isRuleFile dir)

def tempFile (file : FileName) : FileName :=
  let fileName := (Text.decode file).getD "rule.aam"
  Text.bytes s!".{fileName}.nhidle-tmp"

/-- The ahead-of-time cache that the library may create next to the temporary file. -/
def cacheFile (file : FileName) : FileName := (tempFile file).withExtension (Text.bytes "aam.bin")

def combined (schemaContent ruleContent : String) : List UInt8 :=
  Text.bytes s!"{schemaContent}\n{ruleContent}"

def loadRules (env : LoadEnv L) (schemaContent : String) : List FileName → L → Dir → Loaded L
  | [], loader, dir => ⟨.ok (), loader, dir⟩
  | file :: files, loader, dir =>
      match env.readToString dir file with
      | .error err => ⟨.error s!"Failed to read rule '{env.display file}': {err}", loader, dir⟩
      | .ok ruleContent =>
          let content := combined schemaContent ruleContent
          let tempPath := env.display (tempFile file)
          match env.write file with
          | .notCreated err =>
              ⟨.error s!"Failed to write temp file '{tempPath}': {err}", loader, dir⟩
          | .torn written err =>
              ⟨.error s!"Failed to write temp file '{tempPath}': {err}", loader,
                dir.write (tempFile file) (content.take written)⟩
          | .ok =>
              let written := dir.write (tempFile file) content
              let load := env.loadAam loader written (tempFile file)
              let loaded := load.cache.elim written (written.write (cacheFile file))
              let cleaned := (loaded.remove (tempFile file)).remove (cacheFile file)
              match load.result with
              | .error err => ⟨.error err, load.loader, cleaned⟩
              | .ok () => loadRules env schemaContent files load.loader cleaned

def loadDirWithSchema (env : LoadEnv L) (loader : L) (dir : Dir) : Loaded L :=
  if (dir schemaFile).isNone then env.loadDir loader dir
  else
    match env.readToString dir schemaFile with
    | .error err =>
        ⟨.error s!"Failed to read schema '{env.display schemaFile}': {err}", loader, dir⟩
    | .ok schemaContent =>
        match env.readDir with
        | .error err =>
            ⟨.error s!"Failed to read rules dir '{env.rulesDir}': {err}", loader, dir⟩
        | .ok entries => loadRules env schemaContent (ruleFiles dir entries) loader dir

end Nothypridle
