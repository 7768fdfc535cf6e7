import Nothypridle.RuleDir
import Mathlib.Tactic.Common

/-!
# Scratch files

Loading a rule writes a temporary file, and the library may write a cache file. What the directory
holds afterwards differs from what it held before at names of such files only: where a rule got as
far as the library both names are free, and a write that fails half-way leaves what it has written.
-/

namespace Nothypridle

/-! ### The names -/

/-- The dot in front makes the name of a rule a hidden one. -/
def hiddenName (file : FileName) : FileName :=
  FileName.dot :: Text.bytes ((Text.decode file).getD "rule.aam")

theorem hiddenName_ne_nil (file : FileName) : hiddenName file ≠ [] := List.cons_ne_nil _ _

theorem tempFile_eq (file : FileName) :
    tempFile file = hiddenName file ++ FileName.dot :: Text.bytes "nhidle-tmp" := by
  have htext : tempFile file =
      Text.bytes ("." ++ (Text.decode file).getD "rule.aam" ++ ".nhidle-tmp") := rfl
  have hfront : Text.bytes "." = [FileName.dot] := by decide
  have hback : Text.bytes ".nhidle-tmp" = FileName.dot :: Text.bytes "nhidle-tmp" := by decide
  rw [htext, Text.bytes_append, Text.bytes_append, hfront, hback, List.singleton_append, hiddenName]

theorem cacheFile_eq (file : FileName) :
    cacheFile file = (hiddenName file ++ FileName.dot :: Text.bytes "aam") ++
      FileName.dot :: Text.bytes "bin" := by
  have hback : FileName.dot :: Text.bytes "aam.bin" =
      FileName.dot :: Text.bytes "aam" ++ FileName.dot :: Text.bytes "bin" := by decide
  rw [cacheFile, tempFile_eq, List.append_assoc, ← hback]
  exact FileName.withExtension_append (hiddenName_ne_nil file) (by decide) _ _

theorem extension_tempFile (file : FileName) :
    (tempFile file).extension = some (Text.bytes "nhidle-tmp") := by
  rw [tempFile_eq, FileName.extension_append (hiddenName_ne_nil file) (by decide)]

theorem extension_cacheFile (file : FileName) :
    (cacheFile file).extension = some (Text.bytes "bin") := by
  rw [cacheFile_eq, FileName.extension_append (List.append_ne_nil_of_right_ne_nil _ (by simp))
    (by decide)]

theorem tempFile_ne_cacheFile (file other : FileName) : tempFile file ≠ cacheFile other := by
  intro heq
  have hextension := congrArg FileName.extension heq
  rw [extension_tempFile, extension_cacheFile] at hextension
  exact absurd hextension (by decide)

/-- The scratch files of the rules are not rules themselves. -/
def scratchFiles (files : List FileName) : List FileName :=
  files.flatMap fun file => [tempFile file, cacheFile file]

/-! ### What the rules leave -/

structure Leftovers where
  /-- The rules that got as far as the library. -/
  loaded : List FileName
  /-- The temporary file that a failed write has created, with what it has written. -/
  torn : Option (FileName × List UInt8)
  deriving DecidableEq

def Dir.without (dir : Dir) (names : List FileName) : Dir :=
  fun name => if name ∈ names then none else dir name

variable {L : Type}

/-- The rules are loaded one after another until one fails, each where the scratch names of those
before it are free. -/
def leftovers (env : LoadEnv L) (schemaContent : String) : List FileName → L → Dir → Leftovers
  | [], _, _ => ⟨[], none⟩
  | file :: files, loader, dir =>
      match env.readToString dir file with
      | .error _ => ⟨[], none⟩
      | .ok ruleContent =>
          let content := combined schemaContent ruleContent
          match env.write file with
          | .notCreated _ => ⟨[], none⟩
          | .torn written _ => ⟨[], some (tempFile file, content.take written)⟩
          | .ok =>
              let load := env.loadAam loader (dir.write (tempFile file) content) (tempFile file)
              match load.result with
              | .error _ => ⟨[file], none⟩
              | .ok () =>
                  let rest := leftovers env schemaContent files load.loader
                    (dir.without (scratchFiles [file]))
                  { rest with loaded := file :: rest.loaded }

def Leftovers.apply (left : Leftovers) (dir : Dir) : Dir :=
  let cleaned := dir.without (scratchFiles left.loaded)
  left.torn.elim cleaned fun torn => cleaned.write torn.1 torn.2

/-- Whatever the library leaves at the two names of a rule is removed. -/
theorem cleaned_eq (dir : Dir) (file : FileName) (content : List UInt8)
    (cache : Option (List UInt8)) :
    ((cache.elim (dir.write (tempFile file) content)
      ((dir.write (tempFile file) content).write (cacheFile file))).remove (tempFile file)).remove
        (cacheFile file) = dir.without (scratchFiles [file]) := by
  funext name
  by_cases hcache : name = cacheFile file
  · simp [Dir.remove, Dir.without, scratchFiles, hcache]
  · by_cases htemp : name = tempFile file
    · simp [Dir.remove, Dir.without, scratchFiles, htemp, tempFile_ne_cacheFile]
    · cases cache <;> simp [Dir.remove, Dir.write, Dir.without, scratchFiles, hcache, htemp]

theorem Leftovers.apply_cons (file : FileName) (left : Leftovers) (dir : Dir) :
    left.apply (dir.without (scratchFiles [file])) =
      ({ left with loaded := file :: left.loaded } : Leftovers).apply dir := by
  have hcleaned : (dir.without (scratchFiles [file])).without (scratchFiles left.loaded) =
      dir.without (scratchFiles (file :: left.loaded)) := by
    funext name
    have hmem : name ∈ scratchFiles (file :: left.loaded) ↔
        name ∈ scratchFiles [file] ∨ name ∈ scratchFiles left.loaded := by
      simp [scratchFiles, or_assoc]
    by_cases hfirst : name ∈ scratchFiles [file] <;>
      by_cases hrest : name ∈ scratchFiles left.loaded <;>
        simp [Dir.without, hmem, hfirst, hrest]
  rw [Leftovers.apply, Leftovers.apply, hcleaned]

theorem loadRules_dir (env : LoadEnv L) (schemaContent : String) (files : List FileName)
    (loader : L) (dir : Dir) :
    (loadRules env schemaContent files loader dir).dir =
      (leftovers env schemaContent files loader dir).apply dir := by
  induction files generalizing loader dir with
  | nil => rfl
  | cons file files ih =>
      rw [loadRules, leftovers]
      cases env.readToString dir file with
      | error err => rfl
      | ok ruleContent =>
          cases env.write file with
          | notCreated err => rfl
          | torn written err => rfl
          | ok =>
              simp only [cleaned_eq]
              cases (env.loadAam loader (dir.write (tempFile file)
                (combined schemaContent ruleContent)) (tempFile file)).result with
              | error err => rfl
              | ok loaded =>
                  simp only
                  rw [ih, Leftovers.apply_cons]

theorem leftovers_spec (env : LoadEnv L) (schemaContent : String) (files : List FileName)
    (loader : L) (dir : Dir) :
    (leftovers env schemaContent files loader dir).loaded <+: files ∧
      ∀ torn ∈ (leftovers env schemaContent files loader dir).torn,
        ∃ file ∈ files, torn.1 = tempFile file := by
  induction files generalizing loader dir with
  | nil => simp [leftovers]
  | cons file files ih =>
      rw [leftovers]
      cases env.readToString dir file with
      | error err => simp
      | ok ruleContent =>
          cases env.write file with
          | notCreated err => simp
          | torn written err => simp
          | ok =>
              dsimp only
              cases (env.loadAam loader (dir.write (tempFile file)
                (combined schemaContent ruleContent)) (tempFile file)).result with
              | error err => simp
              | ok loaded =>
                  obtain ⟨hloaded, htorn⟩ := ih (env.loadAam loader (dir.write (tempFile file)
                    (combined schemaContent ruleContent)) (tempFile file)).loader
                    (dir.without (scratchFiles [file]))
                  refine ⟨List.cons_prefix_cons.mpr ⟨rfl, hloaded⟩, ?_⟩
                  intro torn hmem
                  obtain ⟨other, hother, hname⟩ := htorn torn hmem
                  exact ⟨other, List.mem_cons_of_mem file hother, hname⟩

/-! ### When the directory is spared -/

namespace Leftovers

variable {left : Leftovers} {dir : Dir}

theorem apply_torn {torn : FileName × List UInt8} (htorn : left.torn = some torn) :
    left.apply dir torn.1 = some torn.2 := by
  simp only [apply, htorn, Option.elim_some, Dir.write]
  rw [Function.update_self]

theorem apply_of_ne {name : FileName} (hne : ∀ torn ∈ left.torn, torn.1 ≠ name) :
    left.apply dir name = if name ∈ scratchFiles left.loaded then none else dir name := by
  cases htorn : left.torn with
  | none =>
      simp only [apply, htorn, Option.elim_none]
      rfl
  | some torn =>
      simp only [apply, htorn, Option.elim_some, Dir.write]
      rw [Function.update_of_ne (hne torn htorn).symm]
      rfl

/-- No scratch name of a loaded rule was taken, and no write has left anything, unless the file that
it left was there before. -/
structure Spare (left : Leftovers) (dir : Dir) : Prop where
  torn : ∀ torn ∈ left.torn, dir torn.1 = some torn.2
  cacheFile : ∀ file ∈ left.loaded, dir (cacheFile file) = none
  tempFile : ∀ file ∈ left.loaded, (∀ torn ∈ left.torn, torn.1 ≠ tempFile file) →
    dir (tempFile file) = none

theorem apply_eq_iff (htemp : ∀ torn ∈ left.torn, ∃ file, torn.1 = Nothypridle.tempFile file) :
    left.apply dir = dir ↔ left.Spare dir := by
  constructor
  · intro heq
    have hfree : ∀ name ∈ scratchFiles left.loaded, (∀ torn ∈ left.torn, torn.1 ≠ name) →
        dir name = none := by
      intro name hmem hne
      rw [← congrFun heq name, apply_of_ne hne, if_pos hmem]
    refine ⟨?_, ?_, ?_⟩
    · intro torn htorn
      rw [← congrFun heq torn.1, apply_torn htorn]
    · intro file hmem
      apply hfree _ (List.mem_flatMap.mpr ⟨file, hmem, by simp⟩)
      intro torn htorn
      obtain ⟨other, hother⟩ := htemp torn htorn
      rw [hother]
      exact tempFile_ne_cacheFile other file
    · intro file hmem
      exact hfree _ (List.mem_flatMap.mpr ⟨file, hmem, by simp⟩)
  · intro hspare
    funext name
    by_cases hne : ∀ torn ∈ left.torn, torn.1 ≠ name
    · rw [apply_of_ne hne]
      split
      next hmem =>
        obtain ⟨file, hfile, hname⟩ := List.mem_flatMap.mp hmem
        rw [List.mem_cons, List.mem_singleton] at hname
        cases hname with
        | inl htempFile =>
            rw [htempFile] at hne ⊢
            exact (hspare.tempFile file hfile hne).symm
        | inr hcacheFile =>
            rw [hcacheFile]
            exact (hspare.cacheFile file hfile).symm
      next => rfl
    · simp only [not_forall, not_not] at hne
      obtain ⟨torn, htorn, hname⟩ := hne
      subst hname
      rw [apply_torn htorn, hspare.torn torn htorn]

end Leftovers

def LoadEnv.leftovers (env : LoadEnv L) (loader : L) (dir : Dir) : Leftovers :=
  match env.readToString dir schemaFile, env.readDir with
  | .ok schemaContent, .ok entries =>
      Nothypridle.leftovers env schemaContent (ruleFiles dir entries) loader dir
  | _, _ => ⟨[], none⟩

/-- What is left comes from rules of the directory. -/
theorem LoadEnv.leftovers_spec (env : LoadEnv L) (loader : L) (dir : Dir) :
    (∀ file ∈ (env.leftovers loader dir).loaded, isRuleFile dir file = true) ∧
      ∀ torn ∈ (env.leftovers loader dir).torn, ∃ file, torn.1 = tempFile file := by
  rw [LoadEnv.leftovers]
  split
  next schemaContent entries _ _ =>
    obtain ⟨hloaded, htorn⟩ :=
      Nothypridle.leftovers_spec env schemaContent (ruleFiles dir entries) loader dir
    refine ⟨fun file hmem => (List.mem_filter.mp (hloaded.subset hmem)).2, ?_⟩
    intro torn hmem
    obtain ⟨file, _, hname⟩ := htorn torn hmem
    exact ⟨file, hname⟩
  next => exact ⟨nofun, nofun⟩

theorem loadDirWithSchema_dir (env : LoadEnv L) (loader : L) {dir : Dir}
    (hschema : dir schemaFile ≠ none) :
    (loadDirWithSchema env loader dir).dir = (env.leftovers loader dir).apply dir := by
  have hpresent : ¬(dir schemaFile).isNone = true := by simpa using hschema
  rw [loadDirWithSchema, if_neg hpresent, LoadEnv.leftovers]
  cases env.readToString dir schemaFile with
  | error err => rfl
  | ok schemaContent =>
      cases env.readDir with
      | error err => rfl
      | ok entries => exact loadRules_dir env schemaContent (ruleFiles dir entries) loader dir

/-- A directory with the schema and one rule. -/
def dimDir : Dir := fun name =>
  if name = schemaFile then some (Text.bytes "@schema Rule {}")
  else if name = Text.bytes "dim.aam" then some (Text.bytes "@derive schema.aam::Rule")
  else none

/-- A system on which the write of a temporary file ends like that, and everything else succeeds.
The library leaves a cache file, and counts the files. -/
def dimEnv (write : WriteResult) : LoadEnv ℕ where
  display name := ((Text.decode name).map ("rules/" ++ ·)).getD "rules/?"
  rulesDir := "rules"
  readError _ := none
  readDir := .ok [.ok schemaFile, .ok (Text.bytes "dim.aam")]
  write _ := write
  loadAam loaded dir file := ⟨dir file, .ok (), loaded + 1⟩
  loadDir loaded dir := ⟨.ok (), loaded, dir⟩

/-- The disk is full when the temporary file has been created. -/
theorem tornWrite_leaves_tempFile :
    ¬∀ (L : Type) (env : LoadEnv L) (loader : L) (dir : Dir), dir schemaFile ≠ none →
      (loadDirWithSchema env loader dir).dir = dir := by
  intro huntouched
  have hsame := huntouched ℕ (dimEnv (.torn 0 "No space left on device (os error 28)")) 0 dimDir
    (by decide)
  have htemp := congrFun hsame (Text.bytes ".dim.aam.nhidle-tmp")
  exact absurd htemp (by decide +kernel)

/-- **The rules directory** is left as it was exactly if every scratch name of the rules that were
loaded was free, and every file that a failed write has left was there before. -/
theorem loadDirWithSchema_eq_iff {env : LoadEnv L} {loader : L} {dir : Dir}
    (hschema : dir schemaFile ≠ none) :
    (loadDirWithSchema env loader dir).dir = dir ↔ (env.leftovers loader dir).Spare dir := by
  rw [loadDirWithSchema_dir env loader hschema]
  exact Leftovers.apply_eq_iff (env.leftovers_spec loader dir).2

theorem dimDir_untouched : (loadDirWithSchema (dimEnv .ok) 0 dimDir).dir = dimDir := by
  apply (loadDirWithSchema_eq_iff (by decide)).mpr
  have hleftovers : (dimEnv .ok).leftovers 0 dimDir = ⟨[Text.bytes "dim.aam"], none⟩ := by
    decide +kernel
  rw [hleftovers]
  refine ⟨by simp, ?_, ?_⟩ <;> simp <;> decide

end Nothypridle
