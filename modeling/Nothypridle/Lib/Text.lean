import Nothypridle.Lib.Separator
import Mathlib.Data.List.Infix
import Mathlib.Data.Int.Notation
import Mathlib.Data.Nat.Notation
import Mathlib.Tactic.NormNum

/-!
# Reading text

Strings as Rust has them: white space, slices by byte offsets, and the literals that `FromStr`
accepts for the numeric types and `bool`. Integers are read with one rule per signedness, so the
width is only the range test. A floating-point literal is read before it is rounded
(`FloatLiteral`): whether a text is accepted does not depend on the precision it is read at.
-/

namespace Text

/-- The Unicode `White_Space` property. -/
def isWhitespace (c : Char) : Bool :=
  let n := c.toNat
  (9 ≤ n && n ≤ 13) || n == 0x20 || n == 0x85 || n == 0xA0 || n == 0x1680 ||
    (0x2000 ≤ n && n ≤ 0x200A) || n == 0x2028 || n == 0x2029 || n == 0x202F || n == 0x205F ||
    n == 0x3000

def trim (s : String) : String :=
  String.ofList (((s.toList.dropWhile isWhitespace).reverse.dropWhile isWhitespace).reverse)

theorem trim_eq_self {s : String} (hhead : ∀ c ∈ s.toList.head?, isWhitespace c = false)
    (hlast : ∀ c ∈ s.toList.getLast?, isWhitespace c = false) : trim s = s := by
  have hfirst : s.toList.dropWhile isWhitespace = s.toList := by
    cases htext : s.toList with
    | nil => rfl
    | cons c text => simp [htext] at hhead; simp [hhead]
  have hend : s.toList.reverse.dropWhile isWhitespace = s.toList.reverse := by
    rw [← List.head?_reverse] at hlast
    cases htext : s.toList.reverse with
    | nil => rfl
    | cons c text => simp [htext] at hlast; simp [hlast]
  rw [trim, hfirst, hend, List.reverse_reverse, String.ofList_toList]

def contains (s target : String) : Bool := decide (target.toList <:+: s.toList)

def startsWith (s start : String) : Bool := decide (start.toList <+: s.toList)

/-- The first piece that `split` yields. -/
def splitFirst (separator : Char) (s : String) : String :=
  String.ofList (s.toList.takeWhile (· ≠ separator))

theorem startsWith_iff {s start : String} :
    startsWith s start = true ↔ ∃ rest, s = start ++ rest := by
  rw [startsWith, decide_eq_true_eq]
  constructor
  · intro hstart
    obtain ⟨rest, hrest⟩ := hstart
    refine ⟨String.ofList rest, ?_⟩
    rw [← String.toList_inj, String.toList_append, String.toList_ofList, hrest]
  · intro hsome
    obtain ⟨rest, rfl⟩ := hsome
    exact ⟨rest.toList, String.toList_append.symm⟩

theorem splitFirst_eq_iff {separator : Char} {s piece : String} (hmem : separator ∈ s.toList) :
    splitFirst separator s = piece ↔
      separator ∉ piece.toList ∧ ∃ rest, s.toList = piece.toList ++ separator :: rest := by
  rw [splitFirst, ← String.toList_inj, String.toList_ofList]
  constructor
  · intro hpiece
    obtain ⟨before, rest, hs, hbefore⟩ := List.eq_append_cons_of_mem hmem
    rw [hs, Separator.takeWhile_append hbefore] at hpiece
    subst hpiece
    exact ⟨hbefore, rest, hs⟩
  · intro hsome
    obtain ⟨hpiece, rest, hs⟩ := hsome
    rw [hs, Separator.takeWhile_append hpiece]

/-! ### Bytes -/

def bytes (s : String) : List UInt8 := s.toList.flatMap String.utf8EncodeChar

/-- The text that the bytes encode, if they are valid UTF-8. -/
def decode (bytes : List UInt8) : Option String := String.fromUTF8? bytes.toByteArray

theorem bytes_append (s t : String) : bytes (s ++ t) = bytes s ++ bytes t := by
  rw [bytes, String.toList_append, List.flatMap_append, bytes, bytes]

/-- Leaves out the first `n` bytes, or fails where byte `n` is inside a character. -/
def dropBytes : ℕ → List Char → Option (List Char)
  | 0, text => some text
  | _ + 1, [] => none
  | n + 1, c :: text => if c.utf8Size ≤ n + 1 then dropBytes (n + 1 - c.utf8Size) text else none

def takeBytes : ℕ → List Char → Option (List Char)
  | 0, _ => some []
  | _ + 1, [] => none
  | n + 1, c :: text =>
      if c.utf8Size ≤ n + 1 then (takeBytes (n + 1 - c.utf8Size) text).map (c :: ·) else none

/-- The bytes from `start` to `stop`; `none` where Rust panics. -/
def slice (s : String) (start stop : ℕ) : Option String :=
  if start ≤ stop then
    ((dropBytes start s.toList).bind (takeBytes (stop - start))).map String.ofList
  else none

/-- A byte below 128 is a character of its own. -/
theorem utf8EncodeChar_of_mem {c : Char} {b : UInt8} (hmem : b ∈ String.utf8EncodeChar c)
    (hlt : b.toNat < 128) : String.utf8EncodeChar c = [b] ∧ c.toNat = b.toNat := by
  have hhigh : ∀ k n : ℕ, 128 ≤ k → n + k < 256 → b ≠ UInt8.ofNat (n + k) := by
    intro k n hk hsum heq
    rw [heq, UInt8.toNat_ofNat', Nat.mod_eq_of_lt hsum] at hlt
    omega
  revert hmem
  fun_cases String.utf8EncodeChar c with
  | case1 v hascii =>
      intro hmem
      obtain rfl := List.mem_singleton.mp hmem
      refine ⟨rfl, ?_⟩
      rw [UInt8.toNat_ofNat', Nat.mod_eq_of_lt (by omega)]
      rfl
  | case2 v =>
      simp only [List.mem_cons, List.not_mem_nil, or_false]
      rintro (h | h) <;> exact absurd h (hhigh _ _ (by norm_num) (by omega))
  | case3 v =>
      simp only [List.mem_cons, List.not_mem_nil, or_false]
      rintro (h | h | h) <;> exact absurd h (hhigh _ _ (by norm_num) (by omega))
  | case4 v =>
      simp only [List.mem_cons, List.not_mem_nil, or_false]
      rintro (h | h | h | h) <;> exact absurd h (hhigh _ _ (by norm_num) (by omega))

theorem utf8Size_ascii {a : Char} (hascii : a.toNat < 128) : a.utf8Size = 1 := by
  rw [Char.utf8Size_eq_one_iff, UInt32.le_iff_toNat_le]
  change a.toNat ≤ 127
  omega

theorem utf8EncodeChar_ascii {a : Char} (hascii : a.toNat < 128) :
    String.utf8EncodeChar a = [a.toUInt8] :=
  String.utf8EncodeChar_eq_singleton (utf8Size_ascii hascii)

theorem mem_utf8EncodeChar_iff {a c : Char} (hascii : a.toNat < 128) :
    a.toUInt8 ∈ String.utf8EncodeChar c ↔ c = a := by
  have hbyte : a.toUInt8.toNat = a.toNat := by
    rw [Char.toUInt8, UInt32.toNat_toUInt8]
    change a.toNat % 2 ^ 8 = a.toNat
    omega
  constructor
  · intro hmem
    apply Char.toNat_inj.mp
    rw [(utf8EncodeChar_of_mem hmem (hbyte ▸ hascii)).2, hbyte]
  · intro heq
    subst heq
    simp [utf8EncodeChar_ascii hascii]

theorem head?_bytes_iff {a : Char} (hascii : a.toNat < 128) {s : String} :
    (bytes s).head? = some a.toUInt8 ↔ s.toList.head? = some a := by
  unfold bytes
  cases s.toList with
  | nil => simp
  | cons c text =>
      obtain ⟨b, rest, hc⟩ := List.exists_cons_of_ne_nil (String.utf8EncodeChar_ne_nil (c := c))
      simp only [List.flatMap_cons, List.head?_append, List.head?_cons, hc, Option.some_or,
        Option.some.injEq]
      constructor
      · intro hb
        subst hb
        exact (mem_utf8EncodeChar_iff hascii).mp (by simp [hc])
      · intro heq
        subst heq
        rw [utf8EncodeChar_ascii hascii] at hc
        exact (List.cons.inj hc).1.symm

theorem getLast?_bytes_iff {a : Char} (hascii : a.toNat < 128) {s : String} :
    (bytes s).getLast? = some a.toUInt8 ↔ s.toList.getLast? = some a := by
  unfold bytes
  rcases List.eq_nil_or_concat s.toList with hnil | ⟨text, c, hconcat⟩
  · simp [hnil]
  · obtain ⟨before, b, hc⟩ := (List.eq_nil_or_concat (String.utf8EncodeChar c)).resolve_left
      String.utf8EncodeChar_ne_nil
    simp only [hconcat, List.concat_eq_append, List.flatMap_append, List.flatMap_singleton, hc,
      List.getLast?_append, List.getLast?_singleton, Option.some_or, Option.some.injEq]
    constructor
    · intro hb
      subst hb
      exact (mem_utf8EncodeChar_iff hascii).mp (by simp [hc])
    · intro heq
      subst heq
      rw [utf8EncodeChar_ascii hascii] at hc
      simpa using (congrArg List.getLast? hc).symm

theorem dropBytes_cons (n : ℕ) (c : Char) (text : List Char) :
    dropBytes (c.utf8Size + n) (c :: text) = dropBytes n text := by
  have hpos := c.utf8Size_pos
  obtain ⟨k, hk⟩ : ∃ k, c.utf8Size + n = k + 1 := ⟨c.utf8Size + n - 1, by omega⟩
  rw [hk, dropBytes, if_pos (by omega), ← hk, Nat.add_sub_cancel_left]

theorem takeBytes_cons (n : ℕ) (c : Char) (text : List Char) :
    takeBytes (c.utf8Size + n) (c :: text) = (takeBytes n text).map (c :: ·) := by
  have hpos := c.utf8Size_pos
  obtain ⟨k, hk⟩ : ∃ k, c.utf8Size + n = k + 1 := ⟨c.utf8Size + n - 1, by omega⟩
  rw [hk, takeBytes, if_pos (by omega), ← hk, Nat.add_sub_cancel_left]

theorem takeBytes_append (text rest : List Char) :
    takeBytes (text.flatMap String.utf8EncodeChar).length (text ++ rest) = some text := by
  induction text with
  | nil => simp [takeBytes]
  | cons c text ih =>
      rw [List.flatMap_cons, List.length_append, String.length_utf8EncodeChar, List.cons_append,
        takeBytes_cons, ih, Option.map_some]

/-- A slice that leaves out one ASCII character at either end. -/
theorem slice_inner {s : String} {a b : Char} {body : List Char} (ha : a.toNat < 128)
    (hb : b.toNat < 128) (hs : s.toList = a :: body ++ [b]) :
    slice s 1 ((bytes s).length - 1) = some (String.ofList body) := by
  have hlength : (bytes s).length = (body.flatMap String.utf8EncodeChar).length + 2 := by
    simp [bytes, hs, utf8Size_ascii ha, utf8Size_ascii hb]
    omega
  have hdrop : dropBytes 1 s.toList = some (body ++ [b]) := by
    rw [hs, List.cons_append, ← utf8Size_ascii ha, ← Nat.add_zero a.utf8Size, dropBytes_cons,
      dropBytes]
  have hbody : (bytes s).length - 1 - 1 = (body.flatMap String.utf8EncodeChar).length := by omega
  rw [slice, if_pos (by omega), hdrop, Option.bind_some, hbody, takeBytes_append, Option.map_some]

/-! ### Integers -/

def natOfDigits (digits : List Char) : ℕ :=
  digits.foldl (fun value c => 10 * value + (c.toNat - 48)) 0

def decimalNat (digits : List Char) : Option ℕ :=
  if digits ≠ [] ∧ digits.all Char.isDigit then some (natOfDigits digits) else none

/-- An unsigned literal below `bound`: a leading `+` is allowed, a leading `-` is not. -/
def parseUnsigned (bound : ℕ) (s : String) : Option ℕ :=
  let value := match s.toList with
    | '+' :: digits => decimalNat digits
    | digits => decimalNat digits
  value.bind fun n => if n < bound then some n else none

def parseSigned (bound : ℕ) (s : String) : Option ℤ :=
  match s.toList with
  | '-' :: digits => (decimalNat digits).bind fun n => if n ≤ bound then some (-(n : ℤ)) else none
  | '+' :: digits => (decimalNat digits).bind fun n => if n < bound then some (n : ℤ) else none
  | digits => (decimalNat digits).bind fun n => if n < bound then some (n : ℤ) else none

def parseU32 (s : String) : Option UInt32 :=
  (parseUnsigned (2 ^ 32) s).map UInt32.ofNat

def parseU64 (s : String) : Option UInt64 :=
  (parseUnsigned (2 ^ 64) s).map UInt64.ofNat

def parseI32 (s : String) : Option Int32 :=
  (parseSigned (2 ^ 31) s).map Int32.ofInt

theorem decimalNat_cons_minus (digits : List Char) : decimalNat ('-' :: digits) = none := by
  simp [decimalNat]

/-- A value that is in range is in a wider range. -/
theorem isSome_bind_of_le {α β : Type} {f : ℕ → α} {g : ℕ → β} {value : Option ℕ} {bound bound' : ℕ}
    (hle : bound ≤ bound')
    (hsome : (value.bind fun n => if n < bound then some (f n) else none).isSome) :
    (value.bind fun n => if n < bound' then some (g n) else none).isSome := by
  cases value with
  | none => simp at hsome
  | some n =>
      have hlt : n < bound := by simpa using hsome
      simp [lt_of_lt_of_le hlt hle]

/-- **Signed against unsigned.** Of the texts a signed type accepts, an unsigned type that is at
least as wide accepts exactly those that do not begin with a minus sign. The text `-0` is one of
those it rejects. -/
theorem parseUnsigned_isSome_iff_of_parseSigned {bound bound' : ℕ} (hle : bound ≤ bound')
    {s : String} (hsigned : (parseSigned bound s).isSome) :
    (parseUnsigned bound' s).isSome ↔ s.toList.head? ≠ some '-' := by
  unfold parseSigned at hsigned
  unfold parseUnsigned
  split at hsigned
  · rename_i digits heq
    simp [heq, decimalNat_cons_minus]
  · rename_i digits heq
    simpa [heq] using isSome_bind_of_le (g := fun n => n) hle hsigned
  · rename_i digits hminus hplus
    have hhead : s.toList.head? ≠ some '-' := by
      intro hhead
      obtain ⟨tail, htail⟩ := List.head?_eq_some_iff.mp hhead
      exact hminus tail htail
    split
    · rename_i tail heq
      exact absurd heq (hplus tail)
    · exact iff_of_true (isSome_bind_of_le hle hsigned) hhead

theorem parseU32_isSome_iff_of_parseI32 {s : String} (hsigned : (parseI32 s).isSome) :
    (parseU32 s).isSome ↔ s.toList.head? ≠ some '-' := by
  rw [parseI32, Option.isSome_map] at hsigned
  rw [parseU32, Option.isSome_map]
  exact parseUnsigned_isSome_iff_of_parseSigned (by norm_num) hsigned

/-! ### Booleans and floating point -/

def parseBool (s : String) : Option Bool :=
  if s = "true" then some true else if s = "false" then some false else none

/-- A floating-point literal before rounding: a decimal stands for `mantissa * 10 ^ exponent`. -/
inductive FloatLiteral where
  | nan
  | infinity (negative : Bool)
  | decimal (negative : Bool) (mantissa : ℕ) (exponent : ℤ)
  deriving DecidableEq, Repr

/-- What follows the digits: nothing, or `e` with an optional sign and at least one digit. -/
def parseExponent : List Char → Option ℤ
  | [] => some 0
  | c :: rest =>
      if c = 'e' ∨ c = 'E' then
        match rest with
        | '-' :: digits => (decimalNat digits).map fun n => -(n : ℤ)
        | '+' :: digits => (decimalNat digits).map fun n => (n : ℤ)
        | digits => (decimalNat digits).map fun n => (n : ℤ)
      else none

/-- Digits with at most one point among them and at least one digit, then an exponent. -/
def parseNumber (text : List Char) : Option (ℕ × ℤ) :=
  let integral := text.takeWhile Char.isDigit
  let afterIntegral := text.dropWhile Char.isDigit
  let (fractional, rest) := match afterIntegral with
    | '.' :: tail => (tail.takeWhile Char.isDigit, tail.dropWhile Char.isDigit)
    | tail => ([], tail)
  if integral = [] ∧ fractional = [] then none
  else (parseExponent rest).map fun e =>
    (natOfDigits (integral ++ fractional), e - fractional.length)

def parseMagnitude (negative : Bool) (text : List Char) : Option FloatLiteral :=
  match parseNumber text with
  | some (mantissa, exponent) => some (.decimal negative mantissa exponent)
  | none =>
      let folded := text.map Char.toLower
      if folded = "inf".toList ∨ folded = "infinity".toList then some (.infinity negative)
      else if folded = "nan".toList then some .nan
      else none

def parseFloatLiteral (s : String) : Option FloatLiteral :=
  match s.toList with
  | '-' :: text => parseMagnitude true text
  | '+' :: text => parseMagnitude false text
  | text => parseMagnitude false text

/-- Rounds a literal to single precision; what is too large becomes an infinity. -/
def FloatLiteral.toFloat32 : FloatLiteral → Float32
  | .nan => 0.0 / 0.0
  | .infinity negative => if negative then -(1.0 / 0.0) else 1.0 / 0.0
  | .decimal negative mantissa exponent =>
      let magnitude := Float32.ofScientific mantissa (exponent < 0) exponent.natAbs
      if negative then -magnitude else magnitude

def FloatLiteral.toFloat : FloatLiteral → Float
  | .nan => 0.0 / 0.0
  | .infinity negative => if negative then -(1.0 / 0.0) else 1.0 / 0.0
  | .decimal negative mantissa exponent =>
      let magnitude := Float.ofScientific mantissa (exponent < 0) exponent.natAbs
      if negative then -magnitude else magnitude

def parseF32 (s : String) : Option Float32 :=
  (parseFloatLiteral s).map FloatLiteral.toFloat32

def parseF64 (s : String) : Option Float :=
  (parseFloatLiteral s).map FloatLiteral.toFloat

/-- **Precision does not decide acceptance.** -/
theorem parseF32_isSome (s : String) : (parseF32 s).isSome = (parseF64 s).isSome := by
  simp [parseF32, parseF64]

end Text
