import Nothypridle.Proof.ScratchFiles

/-!
# What loading answers

Rules are loaded one after another, into one loader and in a directory that every one of them
changes on the way. Where the scratch names were free the directory is the same again for the next
rule, which therefore meets nothing of the earlier ones but the loader with them in it. What a load
leaves behind in the directory, however it ends, are temporary files at most; a library that looks
at none but the one it is given loads the directory like the original.
-/

namespace Nothypridle

variable {L : Type}

def Loaded.answer (load : Loaded L) : Except String Unit × L := (load.result, load.loader)

/-! ### One rule after another -/

/-- The directories differ in temporary files at most. -/
def SameButTemps (dir dir' : Dir) : Prop :=
  ∀ file : FileName, file.extension ≠ some (Text.bytes "nhidle-tmp") → dir' file = dir file

theorem SameButTemps.trans {dir dir' dir'' : Dir} (hfirst : SameButTemps dir dir')
    (hsecond : SameButTemps dir' dir'') : SameButTemps dir dir'' :=
  fun file hname => (hsecond file hname).trans (hfirst file hname)

theorem SameButTemps.schema {dir dir' : Dir} (hsame : SameButTemps dir dir') :
    dir' schemaFile = dir schemaFile :=
  hsame schemaFile (by decide)

theorem SameButTemps.cacheFile {dir dir' : Dir} (hsame : SameButTemps dir dir')
    (file : FileName) : dir' (cacheFile file) = dir (cacheFile file) := by
  apply hsame
  rw [extension_cacheFile]
  decide

theorem SameButTemps.write {dir dir' : Dir} (hsame : SameButTemps dir dir') (name : FileName)
    (content : List UInt8) : SameButTemps (dir.write name content) (dir'.write name content) := by
  intro file hname
  simp only [Dir.write, Function.update_apply, hsame file hname]

theorem SameButTemps.without {dir dir' : Dir} (hsame : SameButTemps dir dir')
    (names : List FileName) : SameButTemps (dir.without names) (dir'.without names) := by
  intro file hname
  simp only [Dir.without, hsame file hname]

end Nothypridle
