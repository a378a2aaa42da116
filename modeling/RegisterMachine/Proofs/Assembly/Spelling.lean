import RegisterMachine.Assembly.Source
import RegisterMachine.Proofs.Attempt
import RegisterMachine.Proofs.Text.Layout
import Mathlib.Data.List.TakeWhile

/-!
# Instructions as words

An instruction is spelled by its mnemonic and the texts of the fields that its
opcode reads.  Reading these words gives the instruction in canonical form
(`readInstruction_fieldTexts`), since a field that is not spelled is read as
zero.  What is read from any words is canonical for the same reason
(`canonical_of_readInstruction`).

No text that a listing spells holds a blank, a comma or a semicolon, so a line of
such words, with single spaces between them, is read as these words
(`ofLine_intercalate`).
-/

namespace RegisterMachine.Assembly

open Attempt

/-! ## Words of a line -/

/-- Whether a character can stand in a word: it parts no words and begins no comment. -/
def isWordChar (c : Char) : Bool := !isSeparator c && c ≠ ';'

/-- A text that a line holds as one word. -/
def IsWord (text : List Char) : Prop := text ≠ [] ∧ ∀ c ∈ text, isWordChar c = true

/-- Of the ASCII characters above the comma, only the semicolon can stand in no word. -/
theorem isWordChar_of_toNat {c : Char} (hlow : 44 < c.toNat) (hhigh : c.toNat < 128)
    (hsemicolon : c ≠ ';') : isWordChar c = true := by
  have hcomma : c ≠ ',' := by
    rintro rfl
    exact absurd hlow (by decide)
  have hblank : Text.isBlank c = false := by
    simp [Text.isBlank]
    omega
  simp [isWordChar, isSeparator, hcomma, hsemicolon, hblank]

theorem isWordChar_of_isDigit {c : Char} (h : c.isDigit = true) : isWordChar c = true := by
  obtain ⟨hlow, hhigh⟩ := Char.isDigit_iff_toNat.1 h
  have hzero : '0'.toNat = 48 := rfl
  have hnine : '9'.toNat = 57 := rfl
  refine isWordChar_of_toNat (by omega) (by omega) ?_
  rintro rfl
  exact absurd h (by decide)

theorem isWordChar_of_mem_decimal {n : Nat} {c : Char} (h : c ∈ Numeral.decimal n) :
    isWordChar c = true :=
  isWordChar_of_isDigit (Nat.isDigit_of_mem_toDigits (by decide) (by decide) h)

theorem isWord_decimal (n : Nat) : IsWord (Numeral.decimal n) :=
  ⟨Nat.toDigits_ne_nil, fun _ => isWordChar_of_mem_decimal⟩

theorem IsWord.cons {c : Char} {text : List Char} (hc : isWordChar c = true) (h : IsWord text) :
    IsWord (c :: text) := by
  refine ⟨List.cons_ne_nil c text, ?_⟩
  intro d hd
  rcases List.mem_cons.1 hd with rfl | hd
  · exact hc
  · exact h.2 d hd

theorem isWord_registerName (index : UInt64) : IsWord (Instruction.registerName index) :=
  (isWord_decimal _).cons (by decide)

theorem isWord_signed : ∀ n : Int, IsWord (Numeral.signed n)
  | .ofNat n => isWord_decimal n
  | .negSucc n => (isWord_decimal (n + 1)).cons (by decide)

/-- An operand is written without a separator, a sign included. -/
theorem isWord_operandText (i : Instruction) : IsWord i.operandText := by
  rw [Instruction.operandText]
  split
  · exact isWord_signed _
  · exact isWord_registerName _
  · exact isWord_decimal _

theorem isWord_mnemonic (opcode : Opcode) : IsWord opcode.mnemonic.toList := by
  have h : ∀ opcode ∈ Opcode.all, opcode.mnemonic.toList ≠ [] ∧
      opcode.mnemonic.toList.all isWordChar = true := by decide
  obtain ⟨hne, hall⟩ := h opcode (Opcode.mem_all opcode)
  exact ⟨hne, List.all_eq_true.1 hall⟩

theorem isWord_of_mem_words {i : Instruction} {text : List Char} (h : text ∈ i.words) :
    IsWord text := by
  rcases List.mem_cons.1 h with rfl | h
  · exact isWord_mnemonic i.opcode
  · rw [Instruction.fieldTexts] at h
    split at h
    · rcases List.mem_cons.1 h with rfl | h
      · exact isWord_registerName i.lhs
      · rw [List.mem_singleton.1 h]
        exact isWord_operandText i
    · rw [List.mem_singleton.1 h]
      exact isWord_operandText i
    · cases h

theorem isWord_addressText (address : Nat) : IsWord (addressText address) := by
  refine ⟨by simp [addressText], ?_⟩
  intro c hc
  simp only [addressText, Numeral.padded, List.mem_append, List.mem_replicate,
    List.mem_singleton] at hc
  rcases hc with (⟨-, rfl⟩ | hc) | rfl
  · decide
  · exact isWordChar_of_mem_decimal hc
  · decide

/-! ## Lines of words -/

theorem isSeparator_of_isWordChar {c : Char} (h : isWordChar c = true) :
    isSeparator c = false := by
  simp only [isWordChar, Bool.and_eq_true, Bool.not_eq_true'] at h
  exact h.1

/-- What can stand in a word is not stripped as a blank from the beginning of a line. -/
theorem isBlank_of_isWordChar {c : Char} (h : isWordChar c = true) : Text.isBlank c = false := by
  have := isSeparator_of_isWordChar h
  simp only [isSeparator, Bool.or_eq_false_iff] at this
  exact this.2

theorem newline_not_mem_intercalate {texts : List (List Char)} (h : ∀ text ∈ texts, IsWord text) :
    '\n' ∉ [' '].intercalate texts := by
  intro hmem
  rcases Text.mem_intercalate hmem with hfeed | ⟨text, htext, hc⟩
  · exact absurd hfeed (by decide)
  · exact absurd ((h text htext).2 _ hc) (by decide)

/-- A line of words with single spaces between them holds these words. -/
theorem ofLine_intercalate {first : List Char} {rest : List (List Char)}
    (h : ∀ text ∈ first :: rest, IsWord text) (hpoint : first.head? ≠ some '.') :
    Statement.ofLine ([' '].intercalate (first :: rest)) = Statement.ofWords (first :: rest) := by
  have hsemicolon : ∀ d ∈ [' '].intercalate (first :: rest), decide (d ≠ ';') = true := by
    intro d hd
    rcases Text.mem_intercalate hd with rfl | ⟨text, htext, hd⟩
    · decide
    · have := (h text htext).2 d hd
      simp only [isWordChar, Bool.and_eq_true] at this
      exact this.2
  have hcode : ([' '].intercalate (first :: rest)).takeWhile (· ≠ ';') =
      [' '].intercalate (first :: rest) :=
    List.takeWhile_eq_self_iff.2 hsemicolon
  have hwords : Text.words isSeparator ([' '].intercalate (first :: rest)) = first :: rest := by
    refine Text.words_intercalate (by decide) ?_
    intro text htext
    exact ⟨(h text htext).1, fun d hd => isSeparator_of_isWordChar ((h text htext).2 d hd)⟩
  obtain ⟨c, cs, rfl⟩ := List.exists_cons_of_ne_nil (h first List.mem_cons_self).1
  have hblank : Text.isBlank c = false :=
    isBlank_of_isWordChar ((h _ List.mem_cons_self).2 c List.mem_cons_self)
  rw [List.head?_cons] at hpoint
  rw [List.intercalate_cons_cons_left] at hcode hwords ⊢
  rw [Statement.ofLine, Text.trimStart, List.dropWhile_cons_of_neg (by simp [hblank])]
  split
  · rename_i heq
    obtain ⟨rfl, -⟩ := List.cons.inj heq
    exact absurd rfl hpoint
  · rw [hcode, hwords]

/-! ## Operands -/

theorem readRegister_registerName (index : UInt64) :
    readRegister (Instruction.registerName index) = .ok index := by
  rw [readRegister, register?_registerName]

/-- A text of decimal digits begins none of the other forms of an immediate operand. -/
theorem immediate?_of_digits {text : List Char} (h : ∀ c ∈ text, Numeral.isDigit 10 c = true) :
    immediate? text = Numeral.word? 10 text := by
  unfold immediate?
  split
  · have := h 'x' (by simp)
    exact absurd this (by decide)
  · have := h 'X' (by simp)
    exact absurd this (by decide)
  · have := h '-' (by simp)
    exact absurd this (by decide)
  · unfold Numeral.withoutPlus
    split
    · have := h '+' (by simp)
      exact absurd this (by decide)
    · rfl

theorem immediate?_decimal (w : UInt64) : immediate? (Numeral.decimal w.toNat) = some w := by
  rw [immediate?_of_digits fun _ => Numeral.isDigit_of_mem_decimal, Numeral.word?_decimal]

/-- The signed text of a word reads back, for every one of the 2⁶⁴ words. -/
theorem immediate?_signed (w : UInt64) :
    immediate? (Numeral.signed (displacement w)) = some w := by
  have hw := w.toNat_lt_size
  have hd := displacement_eq w
  rw [UInt64.size] at hw hd
  cases hcase : displacement w with
  | ofNat n =>
    have hn : n = w.toNat := by
      rw [hcase, Int.ofNat_eq_natCast] at hd
      split at hd <;> omega
    rw [Numeral.signed, hn, immediate?_decimal]
  | negSucc n =>
    have hn : n + 1 = 18446744073709551616 - w.toNat ∧ n + 1 ≤ 9223372036854775808 := by
      rw [hcase, Int.negSucc_eq] at hd
      split at hd <;> omega
    have hvalue := Numeral.value?_decimal (n + 1)
    have hnegated : -UInt64.ofNat (n + 1) = w := by
      rw [← UInt64.toNat_inj, UInt64.toNat_neg, UInt64.toNat_ofNat', UInt64.size]
      omega
    rw [Numeral.signed, immediate?, hvalue, Option.bind_some, negated?, maxNegated, if_pos hn.2,
      hnegated]

/-- An operand is read back from the text that is written for its kind. -/
theorem readOperand_operandText {i : Instruction} {operation : Operation} {kind : OperandKind}
    (h : i.opcode = .op operation kind) : readOperand kind i.operandText = .ok i.rhs := by
  rw [Instruction.operandText, h]
  cases kind with
  | register =>
    cases operation <;> exact readRegister_registerName i.rhs
  | immediate =>
    -- A jump's operand is written with its sign, every other one without.
    cases operation with
    | jmp =>
      show readImmediate (Numeral.signed (displacement i.rhs)) = .ok i.rhs
      rw [readImmediate, immediate?_signed]
    | _ =>
      show readImmediate (Numeral.decimal i.rhs.toNat) = .ok i.rhs
      rw [readImmediate, immediate?_decimal]

/-! ## Instructions -/

/-- The words of an instruction read back, but for the fields that they do not spell. -/
theorem readInstruction_fieldTexts (i : Instruction) :
    readInstruction i.opcode.mnemonic.toList i.fieldTexts = .ok i.canonical := by
  rcases i with ⟨opcode, lhs, rhs⟩
  rw [readInstruction, Opcode.ofMnemonic?_mnemonic]
  cases opcode with
  | nop => rfl
  | op operation kind =>
    have hoperand := readOperand_operandText (i := ⟨.op operation kind, lhs, rhs⟩) rfl
    have hregister := readRegister_registerName lhs
    cases operation <;>
      simp only [Instruction.fieldTexts, Instruction.canonical, Opcode.shape, Operation.shape,
        Opcode.kind, hoperand, hregister, Except.bind, Except.map]

/-- What is read from words holds zero in every field that the words do not spell. -/
theorem canonical_of_readInstruction {mnemonic : List Char} {operands : List (List Char)}
    {i : Instruction} (h : readInstruction mnemonic operands = .ok i) : i.canonical = i := by
  rw [readInstruction] at h
  split at h
  · cases h
  · rename_i opcode hopcode
    split at h
    · rename_i hshape
      cases h
      simp only [Instruction.canonical, hshape]
    · rename_i operand hshape
      obtain ⟨rhs, -, rfl⟩ := map_eq_ok_iff.1 h
      simp only [Instruction.canonical, hshape]
    · rename_i register operand hshape
      obtain ⟨lhs, -, hrhs⟩ := bind_eq_ok_iff.1 h
      obtain ⟨rhs, -, rfl⟩ := map_eq_ok_iff.1 hrhs
      simp only [Instruction.canonical, hshape]
    · cases h

/-- A directive is no instruction. -/
theorem ofDirective_ne_code (directive : List Char) (i : Instruction) :
    Statement.ofDirective directive ≠ .ok (.code i) := by
  intro h
  rw [Statement.ofDirective] at h
  split at h
  · split at h <;> cases h
  · cases h

/-- Every instruction that a line holds is in canonical form. -/
theorem canonical_of_ofLine {line : List Char} {i : Instruction}
    (h : Statement.ofLine line = .ok (.code i)) : i.canonical = i := by
  rw [Statement.ofLine] at h
  split at h
  · exact absurd h (ofDirective_ne_code _ i)
  · rw [Statement.ofWords] at h
    split at h
    · cases h
    · obtain ⟨j, hread, hj⟩ := map_eq_ok_iff.1 h
      cases hj
      exact canonical_of_readInstruction hread

end RegisterMachine.Assembly
