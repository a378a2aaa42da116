import RegisterMachine.Command.Assignment
import RegisterMachine.Proofs.Assembly.Immediate
import RegisterMachine.Proofs.Assembly.Statement

/-!
# The grammar of register assignments

An assignment is a register name, an equals sign and a text that is read as an immediate operand
(`parse_eq_ok_iff_text`).  It falls apart at its first equals sign, and no other split is
possible: neither a register name nor the text of an immediate operand has an equals sign of its
own (`RegisterText.equals_not_mem`, `equals_not_mem_immediate`).  So what is read of a name and a
value is known even if the two are given without saying how they were told apart
(`parse_join_eq_ok_iff`).

The names are those of assembly text, and besides them the ones with a plus sign behind the letter
(`registerText_iff`), which assembly text refuses.
-/

namespace RegisterMachine.Assignment

open Assembly (OperandText ImmediateText readRegister readImmediate)

/-- The names that a register can have in an assignment. -/
inductive RegisterText (index : UInt64) : List Char → Prop where
  | named {letter : Char} {sign digits : List Char} (hletter : letter = 'r' ∨ letter = 'R')
      (hsign : sign = [] ∨ sign = ['+']) (nonempty : digits ≠ [])
      (decimal : ∀ c ∈ digits, c.isDigit = true)
      (value : Nat.ofDigitChars 10 digits 0 = index.toNat) :
      RegisterText index (letter :: (sign ++ digits))

variable {index value : UInt64} {name w : List Char}

/-! ## Register names -/

theorem register?_eq_some_iff : register? name = some index ↔ RegisterText index name := by
  constructor
  · intro h
    have hnamed {letter : Char} {rest : List Char} (hletter : letter = 'r' ∨ letter = 'R')
        (hword : Numeral.word? 10 (Numeral.withoutPlus rest) = some index) :
        RegisterText index (letter :: rest) := by
      obtain ⟨sign, digits, rfl, hsign, nonempty, decimal, value⟩ :=
        Numeral.word?_ten_withoutPlus_eq_some_iff.1 hword
      exact .named hletter hsign nonempty decimal value
    unfold register? at h
    split at h
    · exact hnamed (.inl rfl) h
    · exact hnamed (.inr rfl) h
    · cases h
  · rintro ⟨hletter, hsign, nonempty, decimal, value⟩
    have hword := Numeral.word?_ten_withoutPlus_eq_some_iff.2
      ⟨_, _, rfl, hsign, nonempty, decimal, value⟩
    rcases hletter with rfl | rfl <;> exact hword

/-- A name is one of assembly text, or it becomes one without the plus sign behind its letter. -/
theorem registerText_iff :
    RegisterText index name ↔
      readRegister name = .ok index ∨
        ∃ letter digits, name = letter :: '+' :: digits ∧
          readRegister (letter :: digits) = .ok index := by
  simp only [Assembly.readRegister_eq_ok_iff]
  constructor
  · rintro ⟨hletter, rfl | rfl, nonempty, decimal, value⟩
    · exact .inl (.register hletter nonempty decimal value)
    · exact .inr ⟨_, _, rfl, .register hletter nonempty decimal value⟩
  · rintro (⟨hletter, nonempty, decimal, value⟩ |
      ⟨letter, digits, rfl, ⟨hletter, nonempty, decimal, value⟩⟩)
    · exact .named hletter (.inl rfl) nonempty decimal value
    · exact .named hletter (.inr rfl) nonempty decimal value

/-- Assembly text has no plus sign in the name of a register. -/
theorem readRegister_plus (letter : Char) (digits : List Char) :
    readRegister (letter :: '+' :: digits) =
      .error (.expectedRegister (String.ofList (letter :: '+' :: digits))) := by
  have hnone : Assembly.register? (letter :: '+' :: digits) = none := by
    refine Option.eq_none_iff_forall_ne_some.2 fun index h => ?_
    cases Assembly.register?_eq_some_iff.1 h with
    | register hletter nonempty decimal value =>
      exact absurd (decimal '+' List.mem_cons_self) (by decide)
  rw [readRegister, hnone]

/-! ## Equals signs -/

section Equals

variable {sign digits : List Char}

theorem equals_not_mem_signed (hsign : sign = [] ∨ sign = ['+'])
    (hdigits : ∀ c ∈ digits, c ≠ '=') : '=' ∉ sign ++ digits := by
  rw [List.mem_append, not_or]
  refine ⟨?_, fun hmem => hdigits '=' hmem rfl⟩
  rcases hsign with rfl | rfl <;> decide

theorem ne_equals_of_isDigit {c : Char} (h : c.isDigit = true) : c ≠ '=' := by
  rintro rfl
  exact absurd h (by decide)

theorem RegisterText.equals_not_mem (h : RegisterText index name) : '=' ∉ name := by
  obtain ⟨hletter, hsign, nonempty, decimal, value⟩ := h
  have hrest := equals_not_mem_signed hsign fun c hc => ne_equals_of_isDigit (decimal c hc)
  rcases hletter with rfl | rfl <;> simpa using hrest

theorem equals_not_mem_immediate (h : readImmediate w = .ok value) : '=' ∉ w := by
  cases Assembly.readImmediate_eq_ok_iff_text.1 h with
  | @hexadecimal marker sign digits hmarker hsign nonempty hdigits value =>
    have hhexadecimal : ∀ c ∈ digits, c ≠ '=' := by
      rintro c hc rfl
      exact absurd (hdigits '=' hc) (by decide)
    have hrest := equals_not_mem_signed hsign hhexadecimal
    rcases hmarker with rfl | rfl <;> simpa using hrest
  | @negative digits nonempty decimal small value =>
    have hrest : '=' ∉ digits := fun hmem => ne_equals_of_isDigit (decimal '=' hmem) rfl
    simpa using hrest
  | decimal hsign nonempty decimal value =>
    exact equals_not_mem_signed hsign fun c hc => ne_equals_of_isDigit (decimal c hc)

end Equals

/-! ## Assignments -/

theorem ofParts_eq_ok_iff :
    ofParts name w = .ok ⟨index, value⟩ ↔
      RegisterText index name ∧ readImmediate w = .ok value := by
  rw [ofParts, ← register?_eq_some_iff]
  cases register? name with
  | none => simp
  | some i => cases readImmediate w <;> simp

/-- A text falls apart at its first equals sign. -/
theorem parse_eq_ofParts {text : String} (h : text.toList = name ++ '=' :: w) (hname : '=' ∉ name) :
    parse text = ofParts name w := by
  have hfront : ∀ c ∈ name, decide (c ≠ '=') = true := by
    intro c hc
    rw [decide_eq_true_eq]
    rintro rfl
    exact hname hc
  have hback : ∀ c, ('=' :: w).head? = some c → decide (c ≠ '=') = false := by
    rintro c hc
    cases hc
    rfl
  rw [parse, h, Text.takeWhile_append_of_head? hfront hback,
    Text.dropWhile_append_of_head? hfront hback]

theorem parse_eq_ok_iff_text {text : String} :
    parse text = .ok ⟨index, value⟩ ↔
      ∃ name w, text.toList = name ++ '=' :: w ∧ RegisterText index name ∧
        readImmediate w = .ok value := by
  constructor
  · intro h
    obtain ⟨name, rest, htext, hname, hrest⟩ :=
      Text.exists_append_of_head? (· ≠ '=') text.toList
    rw [parse, htext, Text.takeWhile_append_of_head? hname hrest,
      Text.dropWhile_append_of_head? hname hrest] at h
    cases rest with
    | nil => cases h
    | cons c w =>
      obtain rfl : c = '=' := by simpa using hrest c rfl
      exact ⟨name, w, htext, ofParts_eq_ok_iff.1 h⟩
  · rintro ⟨name, w, htext, hname, hvalue⟩
    rw [parse_eq_ofParts htext hname.equals_not_mem]
    exact ofParts_eq_ok_iff.2 ⟨hname, hvalue⟩

/-- Whatever stands on the two sides of an equals sign, an assignment can have no other. -/
theorem parse_join_eq_ok_iff :
    parse (String.ofList (name ++ '=' :: w)) = .ok ⟨index, value⟩ ↔
      RegisterText index name ∧ readImmediate w = .ok value := by
  constructor
  · intro h
    obtain ⟨front, back, htext, hfront, hback⟩ := parse_eq_ok_iff_text.1 h
    rw [String.toList_ofList] at htext
    have hname : '=' ∉ name := by
      have hcount := congrArg (List.count '=') htext
      simp only [List.count_append, List.count_cons_self,
        List.count_eq_zero_of_not_mem hfront.equals_not_mem,
        List.count_eq_zero_of_not_mem (equals_not_mem_immediate hback)] at hcount
      exact List.count_eq_zero.1 (by omega)
    rw [parse_eq_ofParts String.toList_ofList hname] at h
    exact ofParts_eq_ok_iff.1 h
  · rintro ⟨hname, hvalue⟩
    exact parse_eq_ok_iff_text.2 ⟨name, w, String.toList_ofList, hname, hvalue⟩

/-- A text is an assignment exactly if it is the letter of registers, the decimal digits of a
register number with or without a plus sign, an equals sign, and a text that is read as an
immediate operand.  So a register name of assembly text stands for the same register in front of
an equals sign and any such text, and of all other texts only those do that have one plus sign
too many for assembly text, right behind the letter. -/
theorem assignment_grammar :
    (∀ (text : String) (index value : UInt64),
      parse text = .ok ⟨index, value⟩ ↔
        ∃ letter sign digits w, text.toList = letter :: (sign ++ digits) ++ '=' :: w ∧
          (letter = 'r' ∨ letter = 'R') ∧ (sign = [] ∨ sign = ['+']) ∧ digits ≠ [] ∧
          (∀ c ∈ digits, c.isDigit = true) ∧ Nat.ofDigitChars 10 digits 0 = index.toNat ∧
          readImmediate w = .ok value) ∧
    (∀ (token w : List Char) (index value : UInt64),
      parse (String.ofList (token ++ '=' :: w)) = .ok ⟨index, value⟩ ↔
        (readRegister token = .ok index ∨
          ∃ letter digits, token = letter :: '+' :: digits ∧
            readRegister (letter :: digits) = .ok index) ∧
        readImmediate w = .ok value) ∧
    ∀ (letter : Char) (digits : List Char),
      readRegister (letter :: '+' :: digits) =
        .error (.expectedRegister (String.ofList (letter :: '+' :: digits))) := by
  refine ⟨fun text index value => ?_, fun token w index value => ?_, readRegister_plus⟩
  · rw [parse_eq_ok_iff_text]
    constructor
    · rintro ⟨_, w, htext, ⟨hletter, hsign, nonempty, decimal, hindex⟩, hvalue⟩
      exact ⟨_, _, _, w, htext, hletter, hsign, nonempty, decimal, hindex, hvalue⟩
    · rintro ⟨letter, sign, digits, w, htext, hletter, hsign, nonempty, decimal, hindex, hvalue⟩
      exact ⟨_, w, htext, .named hletter hsign nonempty decimal hindex, hvalue⟩
  · rw [parse_join_eq_ok_iff, registerText_iff]

/-- A name that assembly text has too, and one with a plus sign, before a hexadecimal value. -/
theorem assignment_grammar_plus :
    readRegister "R007".toList = .ok 7 ∧ readImmediate "0x2a".toList = .ok 42 ∧
      parse "R007=0x2a" = .ok ⟨7, 42⟩ ∧ parse "R+007=0x2a" = .ok ⟨7, 42⟩ ∧
      readRegister "R+007".toList = .error (.expectedRegister "R+007") := by
  obtain ⟨-, hjoin, hplus⟩ := assignment_grammar
  have hname : readRegister "R007".toList = .ok 7 := rfl
  have hvalue : readImmediate "0x2a".toList = .ok 42 := rfl
  exact ⟨hname, hvalue, (hjoin "R007".toList _ 7 42).2 ⟨.inl hname, hvalue⟩,
    (hjoin "R+007".toList _ 7 42).2 ⟨.inr ⟨'R', "007".toList, rfl, hname⟩, hvalue⟩,
    hplus 'R' "007".toList⟩

end RegisterMachine.Assignment
