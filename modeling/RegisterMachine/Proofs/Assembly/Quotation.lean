import RegisterMachine.Assembly.Literal
import RegisterMachine.Text.Quoted
import Mathlib.Tactic.SplitIfs

/-!
# Quoted text as a string literal

Quoting a text gives a string literal that denotes the text (`literal?_quoted`).

The proof does not ask which characters are hidden.  `quotedChar_cases` says
that a character is written as an escape that denotes it, or as itself, and that
it is then no quote, no backslash and no line feed.  So the tables of Unicode
properties may change without a change here.
-/

namespace RegisterMachine.Assembly

open Text (quotedChar quoted)

/-! ## Code points -/

/-- No code point has more than six hexadecimal digits. -/
theorem length_hexadecimal_le (c : Char) : (Numeral.hexadecimal c.toNat).length ≤ 6 := by
  have hc : c.toNat < 0x110000 := by
    have := c.valid
    simp only [UInt32.isValidChar, Nat.isValidChar, Char.toNat_val] at this
    omega
  rw [Numeral.hexadecimal, Nat.length_toDigits_le_iff (by omega) (by omega)]
  omega

theorem scalar?_toNat (c : Char) : scalar? c.toNat = some c := by
  have h : c.toNat.isValidChar := c.valid
  rw [scalar?, if_pos h, Char.ofNat_toNat]

/-- The hexadecimal digits of a character are read as that character. -/
theorem codePoint?_hexadecimal (c : Char) (rest : List Char) :
    codePoint? (Numeral.hexadecimal c.toNat ++ '\x7d' :: rest) = some (c, rest) := by
  have hdigits : ∀ d ∈ Numeral.hexadecimal c.toNat, Numeral.isDigit 16 d = true :=
    fun _ => Numeral.isDigit_of_mem_hexadecimal
  have hbrace : Numeral.isDigit 16 '\x7d' = false := by decide
  have hvalue := Numeral.value?_hexadecimal c.toNat
  rw [codePoint?, List.takeWhile_append_of_pos hdigits, List.dropWhile_append_of_pos hdigits]
  simp [hbrace, hvalue, scalar?_toNat, length_hexadecimal_le]

/-! ## The inside of a literal -/

theorem body?_quote (rest : List Char) : body? ('"' :: rest) = some ([], rest) := by
  rw [body?, if_pos rfl]

theorem body?_escape {rest tail : List Char} {c : Char} (h : escape? rest = some (c, tail)) :
    body? ('\\' :: rest) =
      (body? tail).map fun (denoted, behind) => (c :: denoted, behind) := by
  rw [body?, if_neg (by decide), if_pos rfl]
  split
  · rename_i d tail' h'
    rw [h] at h'
    obtain ⟨rfl, rfl⟩ := Prod.mk.inj (Option.some.inj h')
    rfl
  · rename_i h'
    rw [h] at h'
    cases h'

theorem body?_plain {c : Char} (hquote : c ≠ '"') (hbackslash : c ≠ '\\') (rest : List Char) :
    body? (c :: rest) = (body? rest).map fun (denoted, behind) => (c :: denoted, behind) := by
  rw [body?, if_neg hquote, if_neg hbackslash]

/-- A character is written as an escape that denotes it, or else as itself. -/
theorem quotedChar_cases (c : Char) :
    (∃ escape, quotedChar c = '\\' :: escape ∧ '\n' ∉ escape ∧
        ∀ rest, escape? (escape ++ rest) = some (c, rest)) ∨
      (quotedChar c = [c] ∧ c ≠ '"' ∧ c ≠ '\\' ∧ c ≠ '\n') := by
  unfold quotedChar
  split_ifs with hquote hbackslash hfeed hreturn htab hnull hhidden
  · subst hquote
    exact Or.inl ⟨['"'], rfl, by decide, fun _ => rfl⟩
  · subst hbackslash
    exact Or.inl ⟨['\\'], rfl, by decide, fun _ => rfl⟩
  · subst hfeed
    exact Or.inl ⟨['n'], rfl, by decide, fun _ => rfl⟩
  · subst hreturn
    exact Or.inl ⟨['r'], rfl, by decide, fun _ => rfl⟩
  · subst htab
    exact Or.inl ⟨['t'], rfl, by decide, fun _ => rfl⟩
  · subst hnull
    exact Or.inl ⟨['0'], rfl, by decide, fun _ => rfl⟩
  · refine Or.inl ⟨['u', '\x7b'] ++ Numeral.hexadecimal c.toNat ++ ['\x7d'], rfl, ?_, ?_⟩
    · have hfeed : '\n' ∉ Numeral.hexadecimal c.toNat := by
        intro hmem
        exact absurd (Numeral.isDigit_of_mem_hexadecimal hmem) (by decide)
      simp [hfeed]
    · intro rest
      have hescape : ['u', '\x7b'] ++ Numeral.hexadecimal c.toNat ++ ['\x7d'] ++ rest =
          'u' :: '\x7b' :: (Numeral.hexadecimal c.toNat ++ '\x7d' :: rest) := by simp
      rw [hescape, escape?]
      exact codePoint?_hexadecimal c rest
  · exact Or.inr ⟨rfl, hquote, hbackslash, hfeed⟩

/-- A character as it is quoted is read as itself, and the reader goes on behind it. -/
theorem body?_quotedChar (c : Char) (rest : List Char) :
    body? (quotedChar c ++ rest) =
      (body? rest).map fun (denoted, behind) => (c :: denoted, behind) := by
  rcases quotedChar_cases c with ⟨escape, hwritten, -, hdenotes⟩ | ⟨hwritten, hq, hb, -⟩
  · rw [hwritten, List.cons_append]
    exact body?_escape (hdenotes rest)
  · rw [hwritten, List.singleton_append]
    exact body?_plain hq hb rest

theorem body?_quoted (text rest : List Char) :
    body? (text.flatMap quotedChar ++ '"' :: rest) = some (text, rest) := by
  induction text with
  | nil => exact body?_quote rest
  | cons c text ih =>
    rw [List.flatMap_cons, List.append_assoc, body?_quotedChar, ih]
    rfl

/-! ## Literals -/

/-- What quoting writes is a literal of the text, also with a blank before it. -/
theorem literal?_quoted (text : String) : literal? (' ' :: quoted text.toList) = some text := by
  have hblank : Text.isBlank ' ' = true := by decide
  have hquote : Text.isBlank '"' = false := by decide
  have htrim : Text.trimStart (' ' :: quoted text.toList) = quoted text.toList := by
    simp [Text.trimStart, quoted, hblank, hquote]
  rw [literal?, htrim]
  simp [quoted, body?_quoted, Text.trimStart, isComment]

theorem newline_not_mem_quotedChar (c : Char) : '\n' ∉ quotedChar c := by
  rcases quotedChar_cases c with ⟨escape, hwritten, hfeed, -⟩ | ⟨hwritten, -, -, hfeed⟩
  · simpa [hwritten] using hfeed
  · simpa [hwritten] using Ne.symm hfeed

/-- A quoted text stays on its line. -/
theorem newline_not_mem_quoted (text : List Char) : '\n' ∉ quoted text := by
  simp [quoted, newline_not_mem_quotedChar]

end RegisterMachine.Assembly
