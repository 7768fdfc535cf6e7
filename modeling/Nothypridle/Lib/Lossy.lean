import Nothypridle.Lib.Text

/-!
# Bytes that need not be text

`from_utf8_lossy` puts one replacement character in the place of every ill-formed piece: a byte that
begins no character, or a first byte with as many of the bytes that may follow it as there are. What
is replaced never turns into ASCII, so an ASCII text is in front of the decoded bytes exactly if its
bytes are in front of the bytes.
-/

namespace Text

def replacement : Char := '\uFFFD'

/-- The second bytes that a first byte of three or four admits. -/
def admitsSecond (first second : UInt8) : Bool :=
  if first = 0xE0 then 0xA0 ≤ second && second ≤ 0xBF
  else if first = 0xED then 0x80 ≤ second && second ≤ 0x9F
  else if first = 0xF0 then 0x90 ≤ second && second ≤ 0xBF
  else if first = 0xF4 then 0x80 ≤ second && second ≤ 0x8F
  else 0xE1 ≤ first && first ≤ 0xF3 && 0x80 ≤ second && second ≤ 0xBF

def isContinuation (b : UInt8) : Bool := 0x80 ≤ b && b ≤ 0xBF

/-- The length of the piece in front that is replaced, where no character is in front. -/
def illFormedLength : List UInt8 → ℕ
  | first :: second :: third :: _ =>
      if admitsSecond first second then
        if 0xF0 ≤ first && isContinuation third then 3 else 2
      else 1
  | [first, second] => if admitsSecond first second then 2 else 1
  | _ => 1

/-- `skip` bytes belong to what is decoded already. -/
def decodeLossyFrom : ℕ → List UInt8 → List Char
  | _, [] => []
  | skip + 1, _ :: bytes => decodeLossyFrom skip bytes
  | 0, b :: bytes =>
      match (b :: bytes).toByteArray.utf8DecodeChar? 0 with
      | some c => c :: decodeLossyFrom (c.utf8Size - 1) bytes
      | none => replacement :: decodeLossyFrom (illFormedLength (b :: bytes) - 1) bytes

def decodeLossy (bytes : List UInt8) : String := String.ofList (decodeLossyFrom 0 bytes)

/-! ### ASCII in front -/

theorem decodeLossyFrom_ascii {a : Char} (hascii : a.toNat < 128) (bytes : List UInt8) :
    decodeLossyFrom 0 (a.toUInt8 :: bytes) = a :: decodeLossyFrom 0 bytes := by
  have hfront : (a.toUInt8 :: bytes).toByteArray.utf8DecodeChar? 0 = some a := by
    have happend : (a.toUInt8 :: bytes).toByteArray =
        (String.utf8EncodeChar a).toByteArray ++ bytes.toByteArray := by
      rw [utf8EncodeChar_ascii hascii, ← List.toByteArray_append, List.singleton_append]
    rw [happend]
    exact ByteArray.utf8DecodeChar?_utf8EncodeChar_append
  simp only [decodeLossyFrom, hfront, utf8Size_ascii hascii, Nat.sub_self]

theorem mem_of_utf8DecodeChar? {b : UInt8} {bytes : List UInt8} {c : Char}
    (hfront : (b :: bytes).toByteArray.utf8DecodeChar? 0 = some c) :
    b ∈ String.utf8EncodeChar c := by
  obtain ⟨rest, hrest⟩ := ByteArray.exists_of_utf8DecodeChar?_eq_some hfront
  have hlist : b :: bytes = String.utf8EncodeChar c ++ rest.data.toList := by
    simpa using congrArg (fun array => array.data.toList) hrest
  obtain ⟨first, others, hc⟩ := List.exists_cons_of_ne_nil (String.utf8EncodeChar_ne_nil (c := c))
  rw [hc, List.cons_append] at hlist
  rw [hc, (List.cons.inj hlist).1]
  exact List.mem_cons_self

theorem head_decodeLossyFrom {a : Char} (hascii : a.toNat < 128) {b : UInt8} {bytes : List UInt8}
    {text : List Char} (htext : decodeLossyFrom 0 (b :: bytes) = a :: text) : b = a.toUInt8 := by
  rw [decodeLossyFrom] at htext
  cases hfront : (b :: bytes).toByteArray.utf8DecodeChar? 0 with
  | some c =>
      rw [hfront] at htext
      obtain rfl := (List.cons.inj htext).1
      have hmem := mem_of_utf8DecodeChar? hfront
      rw [utf8EncodeChar_ascii hascii] at hmem
      exact List.mem_singleton.mp hmem
  | none =>
      rw [hfront] at htext
      obtain rfl := (List.cons.inj htext).1
      exact absurd hascii (by decide)

theorem decodeLossyFrom_eq_cons_iff {a : Char} (hascii : a.toNat < 128) {bytes : List UInt8}
    {text : List Char} :
    decodeLossyFrom 0 bytes = a :: text ↔
      ∃ rest, bytes = a.toUInt8 :: rest ∧ decodeLossyFrom 0 rest = text := by
  constructor
  · intro htext
    cases bytes with
    | nil => cases htext
    | cons b rest =>
        obtain rfl := head_decodeLossyFrom hascii htext
        rw [decodeLossyFrom_ascii hascii] at htext
        exact ⟨rest, rfl, (List.cons.inj htext).2⟩
  · intro hrest
    obtain ⟨rest, rfl, rfl⟩ := hrest
    exact decodeLossyFrom_ascii hascii rest

/-- **ASCII survives.** -/
theorem decodeLossyFrom_eq_append_iff {start : List Char} (hascii : ∀ a ∈ start, a.toNat < 128)
    {bytes : List UInt8} {text : List Char} :
    decodeLossyFrom 0 bytes = start ++ text ↔
      ∃ rest, bytes = start.flatMap String.utf8EncodeChar ++ rest ∧
        decodeLossyFrom 0 rest = text := by
  induction start generalizing bytes with
  | nil => simp
  | cons a start ih =>
      have hhead := hascii a List.mem_cons_self
      have htail : ∀ c ∈ start, c.toNat < 128 := fun c hc => hascii c (List.mem_cons_of_mem a hc)
      rw [List.cons_append, decodeLossyFrom_eq_cons_iff hhead, List.flatMap_cons,
        utf8EncodeChar_ascii hhead]
      constructor
      · intro hsome
        obtain ⟨after, rfl, hafter⟩ := hsome
        obtain ⟨rest, rfl, hrest⟩ := (ih htail).mp hafter
        exact ⟨rest, rfl, hrest⟩
      · intro hsome
        obtain ⟨rest, rfl, hrest⟩ := hsome
        exact ⟨_, rfl, (ih htail).mpr ⟨rest, rfl, hrest⟩⟩

theorem decodeLossyFrom_eq_nil_iff {bytes : List UInt8} :
    decodeLossyFrom 0 bytes = [] ↔ bytes = [] := by
  cases bytes with
  | nil => simp [decodeLossyFrom]
  | cons b bytes =>
      rw [decodeLossyFrom]
      split <;> simp

theorem toList_decodeLossy_eq_append_iff {start : String}
    (hascii : ∀ a ∈ start.toList, a.toNat < 128) {data : List UInt8} {text : List Char} :
    (decodeLossy data).toList = start.toList ++ text ↔
      ∃ rest, data = bytes start ++ rest ∧ decodeLossyFrom 0 rest = text := by
  rw [decodeLossy, String.toList_ofList, decodeLossyFrom_eq_append_iff hascii, bytes]

theorem decodeLossy_eq_iff {s : String} (hascii : ∀ a ∈ s.toList, a.toNat < 128)
    {data : List UInt8} : decodeLossy data = s ↔ data = bytes s := by
  rw [← String.toList_inj, ← List.append_nil s.toList, toList_decodeLossy_eq_append_iff hascii]
  simp only [decodeLossyFrom_eq_nil_iff, exists_eq_right, List.append_nil]

end Text
