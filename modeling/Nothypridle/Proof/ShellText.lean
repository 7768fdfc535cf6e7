import Nothypridle.Helpers
import Mathlib.Tactic.Common

/-!
# The text of a command

The decision to strip is made on the first and the last byte. Both are quotes of one kind exactly if
the first and the last character are, so the slice keeps to character boundaries; but the two quotes
need not belong together, and then the stripping takes one quote of each of two quoted words.
-/

namespace Nothypridle

inductive Quote where
  | double
  | single

namespace Quote

def char : Quote → Char
  | double => '"'
  | single => '\''

/-- Whether a double quote occurs that no backslash escapes. -/
def closesDouble : List Char → Bool
  | '\\' :: _ :: body => closesDouble body
  | c :: body => c == '"' || closesDouble body
  | [] => false

/-- Whether the body ends the quotation before its own end. -/
def closes : Quote → List Char → Bool
  | double, body => closesDouble body
  | single, body => body.contains '\''

def Surrounds (quote : Quote) (body : List Char) (text : String) : Prop :=
  text.toList = quote.char :: body ++ [quote.char]

theorem char_ascii (quote : Quote) : quote.char.toNat < 128 := by
  cases quote <;> decide

theorem Surrounds.unique {quote quote' : Quote} {body body' : List Char} {text : String}
    (hsurrounds : quote.Surrounds body text) (hsurrounds' : quote'.Surrounds body' text) :
    quote = quote' ∧ body = body' := by
  have heq := hsurrounds.symm.trans hsurrounds'
  simp only [List.cons_append, List.cons.injEq] at heq
  obtain ⟨hchar, hrest⟩ := heq
  refine ⟨?_, (List.append_inj' hrest rfl).1⟩
  cases quote <;> cases quote' <;> first | rfl | exact absurd hchar (by decide)

theorem surrounds_iff {quote : Quote} {text : String} :
    (∃ body, quote.Surrounds body text) ↔ (Text.bytes text).length ≥ 2 ∧
      (Text.bytes text).head? = some quote.char.toUInt8 ∧
      (Text.bytes text).getLast? = some quote.char.toUInt8 := by
  rw [Text.head?_bytes_iff quote.char_ascii, Text.getLast?_bytes_iff quote.char_ascii]
  constructor
  · intro hsome
    obtain ⟨body, htext : text.toList = _⟩ := hsome
    refine ⟨?_, by simp [htext], ?_⟩
    · simp [Text.bytes, htext, Text.utf8Size_ascii quote.char_ascii]
      omega
    · rw [htext, List.getLast?_append, List.getLast?_singleton, Option.some_or]
  · intro hends
    obtain ⟨hlength, hhead, hlast⟩ := hends
    obtain ⟨rest, hrest⟩ := List.head?_eq_some_iff.mp hhead
    rcases List.eq_nil_or_concat rest with hnil | ⟨body, c, hconcat⟩
    · simp [Text.bytes, hrest, hnil, Text.utf8Size_ascii quote.char_ascii] at hlength
    · refine ⟨body, ?_⟩
      simp only [hrest, hconcat, List.concat_eq_append, ← List.cons_append, List.getLast?_append,
        List.getLast?_singleton, Option.some_or, Option.some.injEq] at hlast
      rw [Surrounds, hrest, hconcat, hlast, List.concat_eq_append, List.cons_append]

end Quote

theorem stripSurroundingQuotes_of_surrounds {quote : Quote} {body : List Char} {text : String}
    (hsurrounds : quote.Surrounds body text) :
    stripSurroundingQuotes text = some (String.ofList body) := by
  obtain ⟨hlength, hhead, hlast⟩ := Quote.surrounds_iff.mp ⟨body, hsurrounds⟩
  have hslice := Text.slice_inner quote.char_ascii quote.char_ascii hsurrounds
  cases quote <;> simp_all [stripSurroundingQuotes, Quote.char]

theorem stripSurroundingQuotes_of_not_surrounds {text : String}
    (hnone : ∀ quote body, ¬Quote.Surrounds quote body text) :
    stripSurroundingQuotes text = some text := by
  have hends : ∀ quote : Quote, (Text.bytes text).length ≥ 2 →
      (Text.bytes text).head? = some quote.char.toUInt8 →
      (Text.bytes text).getLast? ≠ some quote.char.toUInt8 := by
    intro quote hlength hhead hlast
    obtain ⟨body, hsurrounds⟩ := Quote.surrounds_iff.mpr ⟨hlength, hhead, hlast⟩
    exact hnone quote body hsurrounds
  have hdouble := hends .double
  have hsingle := hends .single
  rw [stripSurroundingQuotes, if_neg]
  simpa [Quote.char] using fun hlength => ⟨hdouble hlength, hsingle hlength⟩

/-- What a command that is written as `text` is to become: the body of a single quoted string, and
everything else as it is. -/
structure StripsOneLayer (text result : String) : Prop where
  quoted : ∀ (quote : Quote) body, quote.Surrounds body text → quote.closes body = false →
    result = String.ofList body
  other : (∀ (quote : Quote) body, quote.Surrounds body text → quote.closes body = true) →
    result = text

/-- Two quoted words lose a quote each. -/
theorem twoQuotedWords_corrupted :
    shellText "\"/opt/my tools/dim\" \"20\"" = some "/opt/my tools/dim\" \"20" ∧
      ¬StripsOneLayer (Text.trim "\"/opt/my tools/dim\" \"20\"") "/opt/my tools/dim\" \"20" := by
  refine ⟨by decide +kernel, ?_⟩
  intro hstrips
  have hsurrounds : Quote.double.Surrounds "/opt/my tools/dim\" \"20".toList
      (Text.trim "\"/opt/my tools/dim\" \"20\"") := by
    unfold Quote.Surrounds
    decide +kernel
  have hunchanged := hstrips.other fun quote body hsurrounds' => by
    obtain ⟨rfl, rfl⟩ := hsurrounds.unique hsurrounds'
    decide
  exact absurd hunchanged (by decide +kernel)

/-- **The text of a command** is always determined, and it is the intended one exactly if the
trimmed command is not two quotes of one kind around a body that closes the first of them. -/
theorem shellText_stripsOneLayer_iff (cmd : String) :
    ∃ text, shellText cmd = some text ∧
      (StripsOneLayer (Text.trim cmd) text ↔
        ∀ (quote : Quote) body, quote.Surrounds body (Text.trim cmd) →
          quote.closes body = false) := by
  unfold shellText
  generalize Text.trim cmd = trimmed
  by_cases hsome : ∃ (quote : Quote) (body : List Char), quote.Surrounds body trimmed
  · obtain ⟨quote, body, hsurrounds⟩ := hsome
    refine ⟨_, stripSurroundingQuotes_of_surrounds hsurrounds, ?_⟩
    constructor
    · intro hstrips quote' body' hsurrounds'
      obtain ⟨rfl, rfl⟩ := hsurrounds.unique hsurrounds'
      by_contra hcloses
      have htext := hstrips.other fun quote' body' hsurrounds' => by
        obtain ⟨rfl, rfl⟩ := hsurrounds.unique hsurrounds'
        simpa using hcloses
      have hlength := congrArg List.length hsurrounds
      simp [← htext] at hlength
      omega
    · intro hopen
      refine ⟨?_, ?_⟩
      · intro quote' body' hsurrounds' _
        rw [(hsurrounds.unique hsurrounds').2]
      · intro hcloses
        exact absurd (hcloses quote body hsurrounds) (by simp [hopen quote body hsurrounds])
  · have hnone : ∀ (quote : Quote) (body : List Char), ¬quote.Surrounds body trimmed :=
      fun quote body hsurrounds => hsome ⟨quote, body, hsurrounds⟩
    refine ⟨trimmed, stripSurroundingQuotes_of_not_surrounds hnone, ?_⟩
    constructor
    · intro _ quote body hsurrounds
      exact absurd hsurrounds (hnone quote body)
    · intro _
      exact ⟨fun quote body hsurrounds => absurd hsurrounds (hnone quote body), fun _ => rfl⟩

end Nothypridle
