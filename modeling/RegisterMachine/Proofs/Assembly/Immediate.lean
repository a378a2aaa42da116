import RegisterMachine.Proofs.Assembly.Spelling
import RegisterMachine.Proofs.Numeral

/-!
# The grammar of immediate operands

`ImmediateText` says how a word can be written as an immediate operand: in hexadecimal digits
behind a marker, as a minus sign and decimal digits of a number up to 2⁶³, or in decimal digits.
A plus sign may stand before the digits of the first and the last kind, and zeros before those of
any.  A text is read exactly if it is one of these, and then as the word that it is a text of
(`immediate?_eq_some_iff`).  Any other text is refused as a whole.

The reader tells the kinds apart by how a text begins.  That is enough because the marker and
the minus sign are no digits, so a text of the last kind begins like none of the others.
-/

namespace RegisterMachine.Assembly

/-- The texts that a word can be written as in place of an immediate operand. -/
inductive ImmediateText (w : UInt64) : List Char → Prop where
  | hexadecimal {marker : Char} {sign digits : List Char} (hmarker : marker = 'x' ∨ marker = 'X')
      (hsign : sign = [] ∨ sign = ['+']) (nonempty : digits ≠ [])
      (hdigits : ∀ c ∈ digits, c.toLower ∈ Numeral.hexadecimalDigits)
      (value : Numeral.hexadecimalNumber digits = w.toNat) :
      ImmediateText w ('0' :: marker :: (sign ++ digits))
  /-- The number is stored in two's complement. -/
  | negative {digits : List Char} (nonempty : digits ≠ [])
      (decimal : ∀ c ∈ digits, c.isDigit = true) (small : Nat.ofDigitChars 10 digits 0 ≤ 2 ^ 63)
      (value : (2 ^ 64 - Nat.ofDigitChars 10 digits 0) % 2 ^ 64 = w.toNat) :
      ImmediateText w ('-' :: digits)
  | decimal {sign digits : List Char} (hsign : sign = [] ∨ sign = ['+']) (nonempty : digits ≠ [])
      (decimal : ∀ c ∈ digits, c.isDigit = true) (value : Nat.ofDigitChars 10 digits 0 = w.toNat) :
      ImmediateText w (sign ++ digits)

/-! ## What is read -/

/-- A number up to 2⁶³ is negated modulo 2⁶⁴, and no larger one is. -/
theorem negated?_eq_some_iff {n : Nat} {w : UInt64} :
    negated? n = some w ↔ n ≤ 2 ^ 63 ∧ (2 ^ 64 - n) % 2 ^ 64 = w.toNat := by
  rw [negated?, maxNegated, Option.ite_none_right_eq_some, Option.some.injEq, ← UInt64.toNat_inj,
    UInt64.toNat_neg, UInt64.toNat_ofNat', UInt64.size]
  omega

/-- The reader accepts the texts of a word and no others. -/
theorem immediate?_eq_some_iff {text : List Char} {w : UInt64} :
    immediate? text = some w ↔ ImmediateText w text := by
  constructor
  · intro h
    have hhexadecimal {marker : Char} {rest : List Char} (hmarker : marker = 'x' ∨ marker = 'X')
        (hword : Numeral.word? 16 (Numeral.withoutPlus rest) = some w) :
        ImmediateText w ('0' :: marker :: rest) := by
      obtain ⟨sign, digits, rfl, hsign, hdigits⟩ :=
        Numeral.word?_withoutPlus_eq_some_iff.1 hword
      obtain ⟨nonempty, hdigits, value⟩ := Numeral.word?_sixteen_eq_some_iff.1 hdigits
      exact .hexadecimal hmarker hsign nonempty hdigits value
    unfold immediate? at h
    split at h
    · exact hhexadecimal (.inl rfl) h
    · exact hhexadecimal (.inr rfl) h
    · obtain ⟨n, hn, hw⟩ := Option.bind_eq_some_iff.1 h
      obtain ⟨nonempty, decimal, rfl⟩ := Numeral.value?_ten_eq_some_iff.1 hn
      obtain ⟨small, value⟩ := negated?_eq_some_iff.1 hw
      exact .negative nonempty decimal small value
    · obtain ⟨sign, digits, rfl, hsign, nonempty, decimal, value⟩ :=
        Numeral.word?_ten_withoutPlus_eq_some_iff.1 h
      exact .decimal hsign nonempty decimal value
  · intro h
    cases h with
    | @hexadecimal marker sign digits hmarker hsign nonempty hdigits value =>
      have hword : Numeral.word? 16 (Numeral.withoutPlus (sign ++ digits)) = some w :=
        Numeral.word?_withoutPlus_eq_some_iff.2 ⟨sign, digits, rfl, hsign,
          Numeral.word?_sixteen_eq_some_iff.2 ⟨nonempty, hdigits, value⟩⟩
      rcases hmarker with rfl | rfl <;> exact hword
    | @negative digits nonempty decimal small value =>
      have hnumber : Numeral.value? 10 digits = some (Nat.ofDigitChars 10 digits 0) :=
        Numeral.value?_ten_eq_some_iff.2 ⟨nonempty, decimal, rfl⟩
      show (Numeral.value? 10 digits).bind negated? = some w
      rw [hnumber, Option.bind_some]
      exact negated?_eq_some_iff.2 ⟨small, value⟩
    | @decimal sign digits hsign nonempty decimal value =>
      have hword : Numeral.word? 10 digits = some w :=
        Numeral.word?_ten_eq_some_iff.2 ⟨nonempty, decimal, value⟩
      rcases hsign with rfl | rfl
      · rw [List.nil_append,
          immediate?_of_digits fun c hc => Numeral.isDigit_ten_iff.2 (decimal c hc), hword]
      · exact hword

theorem readImmediate_eq_ok_iff_text {text : List Char} {w : UInt64} :
    readImmediate text = .ok w ↔ ImmediateText w text := by
  rw [readImmediate, ← immediate?_eq_some_iff]
  cases immediate? text <;> simp

/-- What is no text of a word is refused, and the fault tells the whole of it. -/
theorem readImmediate_of_no_text {text : List Char} (h : ¬∃ w, ImmediateText w text) :
    readImmediate text = .error (.invalidImmediate (String.ofList text)) := by
  rw [readImmediate]
  cases hword : immediate? text with
  | none => rfl
  | some w => exact absurd ⟨w, immediate?_eq_some_iff.1 hword⟩ h

/-! ## What is written -/

section Written

variable (zeros : Nat) (w : UInt64)

theorem immediate?_zeros_decimal :
    immediate? (List.replicate zeros '0' ++ Numeral.decimal w.toNat) = some w := by
  have hdigits : ∀ c ∈ List.replicate zeros '0' ++ Numeral.decimal w.toNat,
      Numeral.isDigit 10 c = true := by
    refine List.forall_mem_append.2 ⟨fun c hc => ?_, fun c => Numeral.isDigit_of_mem_decimal⟩
    rw [List.eq_of_mem_replicate hc]
    rfl
  rw [immediate?_of_digits hdigits, Numeral.word?_eq_some_iff]
  exact Numeral.value?_zeros (by decide) zeros (Numeral.value?_decimal w.toNat)

theorem immediate?_zeros_hexadecimal {marker : Char} {digits : List Char}
    (hmarker : marker = 'x' ∨ marker = 'X')
    (hdigits : digits.map Char.toLower =
      List.replicate zeros '0' ++ Numeral.hexadecimal w.toNat) :
    immediate? ('0' :: marker :: digits) = some w := by
  have hword : Numeral.word? 16 digits = some w := by
    rw [← Numeral.word?_map_toLower, hdigits, Numeral.word?_eq_some_iff]
    exact Numeral.value?_zeros (by decide) zeros (Numeral.value?_hexadecimal w.toNat)
  have hplus : Numeral.word? 16 (Numeral.withoutPlus digits) = some w :=
    Numeral.word?_withoutPlus_eq_some_iff.2 ⟨[], digits, rfl, .inl rfl, hword⟩
  rcases hmarker with rfl | rfl <;> exact hplus

theorem immediate?_zeros_negative (h : 2 ^ 63 ≤ w.toNat) :
    immediate? ('-' :: (List.replicate zeros '0' ++ Numeral.decimal (2 ^ 64 - w.toNat))) =
      some w := by
  have hw := w.toNat_lt
  show (Numeral.value? 10 _).bind negated? = some w
  rw [Numeral.value?_zeros (by decide) zeros (Numeral.value?_decimal _), Option.bind_some]
  exact negated?_eq_some_iff.2 (by omega)

end Written

/-- A text is read as a word exactly if it is a text of that word: the digits of the word in
hexadecimal behind a marker or in decimal, with or without a plus sign, or a minus sign and the
decimal digits of a number up to 2⁶³, which is stored in two's complement.  Any other text is
refused as a whole.  So every word is read back from its decimal text, from its hexadecimal text
in either case and, if its signed reading is negative, from the text of that, with any number of
zeros before the digits. -/
theorem immediate_grammar :
    (∀ (text : List Char) (w : UInt64), readImmediate text = .ok w ↔ ImmediateText w text) ∧
    (∀ text : List Char, (¬∃ w, ImmediateText w text) →
      readImmediate text = .error (.invalidImmediate (String.ofList text))) ∧
    ∀ (w : UInt64) (zeros : Nat),
      readImmediate (List.replicate zeros '0' ++ Numeral.decimal w.toNat) = .ok w ∧
      (∀ (marker : Char) (digits : List Char), marker = 'x' ∨ marker = 'X' →
        digits.map Char.toLower = List.replicate zeros '0' ++ Numeral.hexadecimal w.toNat →
        readImmediate ('0' :: marker :: digits) = .ok w) ∧
      (2 ^ 63 ≤ w.toNat →
        readImmediate
          ('-' :: (List.replicate zeros '0' ++ Numeral.decimal (2 ^ 64 - w.toNat))) = .ok w) := by
  have hread {text : List Char} {w : UInt64} (h : immediate? text = some w) :
      readImmediate text = .ok w := by
    rw [readImmediate, h]
  refine ⟨fun text w => readImmediate_eq_ok_iff_text, fun text => readImmediate_of_no_text, ?_⟩
  intro w zeros
  refine ⟨hread (immediate?_zeros_decimal zeros w), ?_, ?_⟩
  · intro marker digits hmarker hdigits
    exact hread (immediate?_zeros_hexadecimal zeros w hmarker hdigits)
  · intro h
    exact hread (immediate?_zeros_negative zeros w h)

/-- A marker in upper case with a sign behind it, a number just too small, the largest word with
digits in both cases, and the smallest negative number with a zero in front. -/
theorem immediate_grammar_extremes :
    ImmediateText 255 "0X+00fF".toList ∧ readImmediate "0X+00fF".toList = .ok 255 ∧
      (¬∃ w, ImmediateText w "-9223372036854775809".toList) ∧
      readImmediate "-9223372036854775809".toList =
        .error (.invalidImmediate "-9223372036854775809") ∧
      readImmediate "0xffffFFFFffffFFFF".toList = .ok 18446744073709551615 ∧
      readImmediate "-09223372036854775808".toList = .ok 9223372036854775808 := by
  obtain ⟨hread, hrefused, hwritten⟩ := immediate_grammar
  have htext : ImmediateText 255 ('0' :: 'X' :: (['+'] ++ ['0', '0', 'f', 'F'])) :=
    .hexadecimal (.inr rfl) (.inr rfl) (by decide) (by simp [Numeral.hexadecimalDigits])
      (by decide)
  have hnone : ¬∃ w, ImmediateText w "-9223372036854775809".toList := by
    rintro ⟨w, hw⟩
    have hok := (hread _ w).2 hw
    rw [show readImmediate "-9223372036854775809".toList = .error _ from rfl] at hok
    cases hok
  have hlargest := (hwritten 18446744073709551615 0).2.1 'x' "ffffFFFFffffFFFF".toList
    (.inl rfl) (by decide)
  have hsmallest := (hwritten 9223372036854775808 1).2.2 (by decide)
  exact ⟨htext, (hread _ 255).2 htext, hnone, hrefused _ hnone, hlargest, hsmallest⟩

end RegisterMachine.Assembly
