import Nothypridle.Lib.Separator
import Mathlib.Data.Nat.Notation

/-!
# File names

A file name as the bytes the system has, with the parts that Rust's `Path` reads off it. The
extension is what follows the last dot, unless the name has no other dot than one in front. The name
`..` is not that of a file.
-/

abbrev FileName := List UInt8

namespace FileName

def dot : UInt8 := 46

/-- What stands before the last dot, if there is one, and what stands after it. -/
def rsplitDot (name : FileName) : Option FileName × FileName :=
  match name.reverse.dropWhile (· ≠ dot) with
  | [] => (none, name)
  | _ :: before => (some before.reverse, (name.reverse.takeWhile (· ≠ dot)).reverse)

def extension (name : FileName) : Option FileName :=
  match name.rsplitDot with
  | (none, _) => none
  | (some [], _) => none
  | (some (_ :: _), after) => some after

def fileStem (name : FileName) : FileName :=
  match name.rsplitDot with
  | (none, _) => name
  | (some [], _) => name
  | (some (b :: before), _) => b :: before

def withExtension (name : FileName) : FileName → FileName
  | [] => name.fileStem
  | b :: extension => name.fileStem ++ dot :: b :: extension

theorem rsplitDot_append {stem after : FileName} (hafter : dot ∉ after) :
    rsplitDot (stem ++ dot :: after) = (some stem, after) := by
  have hreverse : (stem ++ dot :: after).reverse = after.reverse ++ dot :: stem.reverse := by
    simp
  have hnotMem : dot ∉ after.reverse := fun hmem => hafter (List.mem_reverse.mp hmem)
  simp only [rsplitDot, hreverse, Separator.dropWhile_append hnotMem,
    Separator.takeWhile_append hnotMem, List.reverse_reverse]

theorem extension_append {stem after : FileName} (hstem : stem ≠ []) (hafter : dot ∉ after) :
    extension (stem ++ dot :: after) = some after := by
  obtain ⟨b, stem, rfl⟩ := List.exists_cons_of_ne_nil hstem
  simp only [extension, rsplitDot_append hafter]

theorem fileStem_append {stem after : FileName} (hstem : stem ≠ []) (hafter : dot ∉ after) :
    fileStem (stem ++ dot :: after) = stem := by
  obtain ⟨b, stem, rfl⟩ := List.exists_cons_of_ne_nil hstem
  simp only [fileStem, rsplitDot_append hafter]

theorem withExtension_append {stem after : FileName} (hstem : stem ≠ []) (hafter : dot ∉ after)
    (b : UInt8) (extension : FileName) :
    withExtension (stem ++ dot :: after) (b :: extension) = stem ++ dot :: b :: extension := by
  rw [withExtension, fileStem_append hstem hafter]

end FileName
