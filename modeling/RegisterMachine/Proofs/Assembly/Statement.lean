import RegisterMachine.Proofs.Assembly.Listing
import RegisterMachine.Proofs.Assembly.Literal
import RegisterMachine.Proofs.Numeral

/-!
# The grammar of instruction lines

`InstructionText` says how an instruction can be written on a line: separators,
possibly an address with separators behind it, the mnemonic in any case, the
operands with separators before each, more separators, and a comment.  A text of
one line assembles to a single instruction exactly if it is such a text of that
instruction (`Program.instruction_line_grammar`).

The reader works in stages, and so does the proof.  The code of a line ends at its
first semicolon (`takeWhile_eq_iff`).  A line that begins with a point can be read
like any other, since no mnemonic begins so (`ofLine_eq_code_iff_ofWords`).  Its
words are the mnemonic and the operands that its shape asks for
(`readInstruction_eq_ok_iff`).

Between code and words there are two directions, and both go along the words.  When
code is read, each word ends where the next separator stands
(`exists_code_of_words`).  When it is written, no word has a separator of its own,
and no mnemonic can be taken for an address, since it is made of letters
(`withoutAddress_words`).
-/

namespace RegisterMachine

namespace Assembly

open Attempt

/-! ## The grammar -/

/-- A text of one or more separators. -/
def IsGap (text : List Char) : Prop := text ≠ [] ∧ ∀ c ∈ text, isSeparator c = true

/-- The texts that an operand can be written as. -/
inductive OperandText : OperandKind → UInt64 → List Char → Prop where
  /-- The letter of registers and a decimal numeral, with any number of leading zeros. -/
  | register {index : UInt64} {letter : Char} {digits : List Char}
      (hletter : letter = 'r' ∨ letter = 'R') (nonempty : digits ≠ [])
      (decimal : ∀ c ∈ digits, c.isDigit = true)
      (value : Nat.ofDigitChars 10 digits 0 = index.toNat) :
      OperandText .register index (letter :: digits)
  | immediate {operand : UInt64} {text : List Char} (word : IsWord text)
      (value : immediate? text = some operand) : OperandText .immediate operand text

/-- The texts of the operands of an instruction, whose other fields are zero. -/
inductive OperandTexts : Instruction → List (List Char) → Prop where
  | nullary {opcode : Opcode} (shape : opcode.shape = .nullary) :
      OperandTexts ⟨opcode, 0, 0⟩ []
  | unary {opcode : Opcode} {rhs : UInt64} {second : List Char} (shape : opcode.shape = .unary)
      (hsecond : OperandText opcode.kind rhs second) : OperandTexts ⟨opcode, 0, rhs⟩ [second]
  | binary {opcode : Opcode} {lhs rhs : UInt64} {first second : List Char}
      (shape : opcode.shape = .binary) (hfirst : OperandText .register lhs first)
      (hsecond : OperandText opcode.kind rhs second) :
      OperandTexts ⟨opcode, lhs, rhs⟩ [first, second]

/-- A text of words with separators before each of them. -/
inductive Parted : List (List Char) → List Char → Prop where
  | nil : Parted [] []
  | cons {gap word text : List Char} {words : List (List Char)} (hgap : IsGap gap)
      (htext : Parted words text) : Parted (word :: words) (gap ++ (word ++ text))

/-- What may stand before the mnemonic: nothing, or an address and separators. -/
inductive AddressText : List Char → Prop where
  | absent : AddressText []
  | present {digits gap : List Char} (nonempty : digits ≠ [])
      (decimal : ∀ c ∈ digits, c.isDigit = true) (hgap : IsGap gap) :
      AddressText (digits ++ ':' :: gap)

/-- The lines that an instruction can be written as. -/
inductive InstructionText (i : Instruction) : List Char → Prop where
  | line {lead address mnemonic fields trail : List Char} {operands : List (List Char)}
      {comment : Option (List Char)} (hlead : ∀ c ∈ lead, isSeparator c = true)
      (haddress : AddressText address)
      (hmnemonic : mnemonic.map Char.toLower = i.opcode.mnemonic.toList)
      (hoperands : OperandTexts i operands) (hfields : Parted operands fields)
      (htrail : ∀ c ∈ trail, isSeparator c = true) :
      InstructionText i
        (lead ++ (address ++ (mnemonic ++ (fields ++ trail))) ++ commentText comment)

end Assembly

/-! ## Mnemonics -/

namespace Opcode

/-- A mnemonic is known in whatever case it is written. -/
theorem ofMnemonic?_eq_some_iff {name : List Char} {opcode : Opcode} :
    ofMnemonic? name = some opcode ↔ name.map Char.toLower = opcode.mnemonic.toList := by
  constructor
  · intro h
    have hfound := List.find?_some (p := fun opcode : Opcode =>
      decide (opcode.mnemonic.toList = name.map Char.toLower)) h
    exact (of_decide_eq_true hfound).symm
  · intro h
    have htable : ∀ opcode ∈ all,
        opcode.mnemonic.toList.map Char.toLower = opcode.mnemonic.toList := by decide
    have hlower := htable opcode (mem_all opcode)
    have hself := ofMnemonic?_mnemonic opcode
    rw [ofMnemonic?, hlower] at hself
    rw [ofMnemonic?, h, hself]

theorem isAlpha_of_toLower {c : Char} (h : c.toLower.isLower = true) : c.isAlpha = true := by
  by_cases hupper : c.isUpper = true
  · exact (Bool.or_eq_true c.isUpper c.isLower).mpr (Or.inl hupper)
  · rw [Numeral.toLower_of_not_isUpper hupper] at h
    exact (Bool.or_eq_true c.isUpper c.isLower).mpr (Or.inr h)

/-- A mnemonic is made of letters, in whatever case it is written. -/
theorem isAlpha_of_mem_mnemonic {name : List Char} {opcode : Opcode}
    (h : name.map Char.toLower = opcode.mnemonic.toList) : ∀ c ∈ name, c.isAlpha = true := by
  intro c hc
  have htable : ∀ opcode ∈ all, opcode.mnemonic.toList.all Char.isLower = true := by decide
  have hlower := List.all_eq_true.1 (htable opcode (mem_all opcode))
  exact isAlpha_of_toLower (hlower _ (h ▸ List.mem_map_of_mem hc))

theorem ne_nil_of_mnemonic {name : List Char} {opcode : Opcode}
    (h : name.map Char.toLower = opcode.mnemonic.toList) : name ≠ [] := by
  rintro rfl
  have htable : ∀ opcode ∈ all, opcode.mnemonic.toList ≠ [] := by decide
  exact htable opcode (mem_all opcode) h.symm

end Opcode

namespace Assembly

open Attempt

/-! ## Words that a grammar text holds -/

theorem isWordChar_of_isAlpha {c : Char} (h : c.isAlpha = true) : isWordChar c = true := by
  have hrange : (65 ≤ c.toNat ∧ c.toNat ≤ 90) ∨ (97 ≤ c.toNat ∧ c.toNat ≤ 122) := by
    rcases (Bool.or_eq_true c.isUpper c.isLower).mp h with hupper | hlower
    · exact Or.inl (of_decide_eq_true hupper)
    · have hbounds : (decide ('a'.val ≤ c.val) && decide (c.val ≤ 'z'.val)) = true := hlower
      rw [Bool.and_eq_true, decide_eq_true_eq, decide_eq_true_eq] at hbounds
      exact Or.inr hbounds
  refine isWordChar_of_toNat (by omega) (by omega) ?_
  rintro rfl
  exact absurd h (by decide)

theorem isWord_of_mnemonic {mnemonic : List Char} {opcode : Opcode}
    (h : mnemonic.map Char.toLower = opcode.mnemonic.toList) : IsWord mnemonic :=
  ⟨Opcode.ne_nil_of_mnemonic h,
    fun c hc => isWordChar_of_isAlpha (Opcode.isAlpha_of_mem_mnemonic h c hc)⟩

theorem OperandText.isWord {kind : OperandKind} {value : UInt64} {text : List Char}
    (h : OperandText kind value text) : IsWord text := by
  cases h with
  | register hletter nonempty decimal =>
    refine IsWord.cons ?_ ⟨nonempty, fun c hc => isWordChar_of_isDigit (decimal c hc)⟩
    rcases hletter with rfl | rfl <;> decide
  | immediate word => exact word

/-- The texts of operands hold no separator, so they can be told apart. -/
theorem OperandTexts.isWord {i : Instruction} {texts : List (List Char)}
    (h : OperandTexts i texts) : ∀ text ∈ texts, IsWord text := by
  cases h with
  | nullary => simp
  | unary _ hsecond => simpa using hsecond.isWord
  | binary _ hfirst hsecond => simpa using ⟨hfirst.isWord, hsecond.isWord⟩

/-- A text that ends in a colon behind digits is an address, and nothing else is. -/
theorem isAddress_iff {word : List Char} :
    isAddress word = true ↔
      ∃ digits, word = digits ++ [':'] ∧ digits ≠ [] ∧ ∀ c ∈ digits, c.isDigit = true := by
  simp only [isAddress, Bool.and_eq_true, decide_eq_true_eq, Bool.not_eq_true',
    List.isEmpty_eq_false_iff, List.all_eq_true, Numeral.isDigit_ten_iff]
  constructor
  · rintro ⟨⟨hlast, hne⟩, hdigits⟩
    obtain ⟨digits, rfl⟩ := List.getLast?_eq_some_iff.1 hlast
    rw [List.dropLast_concat] at hne hdigits
    exact ⟨digits, rfl, hne, hdigits⟩
  · rintro ⟨digits, rfl, hne, hdigits⟩
    rw [List.dropLast_concat, List.getLast?_concat]
    exact ⟨⟨rfl, hne⟩, hdigits⟩

theorem isWord_address {digits : List Char} (nonempty : digits ≠ [])
    (decimal : ∀ c ∈ digits, c.isDigit = true) : IsWord (digits ++ [':']) := by
  refine ⟨List.append_ne_nil_of_left_ne_nil nonempty _, ?_⟩
  refine List.forall_mem_append.2 ⟨fun c hc => isWordChar_of_isDigit (decimal c hc), ?_⟩
  exact List.forall_mem_singleton.2 (by decide)

/-- A mnemonic is not taken for an address, since it does not end in a colon. -/
theorem isAddress_of_mnemonic {mnemonic : List Char} {opcode : Opcode}
    (h : mnemonic.map Char.toLower = opcode.mnemonic.toList) : isAddress mnemonic = false := by
  rw [Bool.eq_false_iff]
  intro haddress
  obtain ⟨digits, rfl, -⟩ := isAddress_iff.1 haddress
  have hcolon := Opcode.isAlpha_of_mem_mnemonic h ':' (by simp)
  exact absurd hcolon (by decide)

/-! ## Words are an instruction -/

theorem register?_eq_some_iff {text : List Char} {index : UInt64} :
    register? text = some index ↔ OperandText .register index text := by
  constructor
  · intro h
    unfold register? at h
    split at h
    · obtain ⟨nonempty, decimal, value⟩ := Numeral.word?_ten_eq_some_iff.1 h
      exact .register (Or.inl rfl) nonempty decimal value
    · obtain ⟨nonempty, decimal, value⟩ := Numeral.word?_ten_eq_some_iff.1 h
      exact .register (Or.inr rfl) nonempty decimal value
    · cases h
  · rintro (⟨hletter, nonempty, decimal, value⟩ | _)
    have hword := Numeral.word?_ten_eq_some_iff.2 ⟨nonempty, decimal, value⟩
    rcases hletter with rfl | rfl <;> exact hword

theorem readRegister_eq_ok_iff {text : List Char} {index : UInt64} :
    readRegister text = .ok index ↔ OperandText .register index text := by
  rw [readRegister, ← register?_eq_some_iff]
  cases register? text <;> simp

theorem readImmediate_eq_ok_iff {text : List Char} {operand : UInt64} (h : IsWord text) :
    readImmediate text = .ok operand ↔ OperandText .immediate operand text := by
  have hvalue : OperandText .immediate operand text ↔ immediate? text = some operand := by
    refine ⟨fun htext => ?_, .immediate h⟩
    cases htext with
    | immediate _ value => exact value
  rw [readImmediate, hvalue]
  cases immediate? text <;> simp

theorem readOperand_eq_ok_iff {kind : OperandKind} {text : List Char} {operand : UInt64}
    (h : IsWord text) : readOperand kind text = .ok operand ↔ OperandText kind operand text := by
  cases kind with
  | register => exact readRegister_eq_ok_iff
  | immediate => exact readImmediate_eq_ok_iff h

/-- Words are read as an instruction exactly if they are its mnemonic and its operands. -/
theorem readInstruction_eq_ok_iff {mnemonic : List Char} {operands : List (List Char)}
    {i : Instruction} (h : ∀ text ∈ operands, IsWord text) :
    readInstruction mnemonic operands = .ok i ↔
      mnemonic.map Char.toLower = i.opcode.mnemonic.toList ∧ OperandTexts i operands := by
  constructor
  · intro hread
    rw [readInstruction] at hread
    split at hread
    · cases hread
    · rename_i opcode hopcode
      have hmnemonic := Opcode.ofMnemonic?_eq_some_iff.1 hopcode
      split at hread
      · rename_i hshape
        cases hread
        exact ⟨hmnemonic, .nullary hshape⟩
      · rename_i second hshape
        obtain ⟨rhs, hrhs, rfl⟩ := map_eq_ok_iff.1 hread
        exact ⟨hmnemonic, .unary hshape ((readOperand_eq_ok_iff (h second (by simp))).1 hrhs)⟩
      · rename_i first second hshape
        obtain ⟨lhs, hlhs, hread⟩ := bind_eq_ok_iff.1 hread
        obtain ⟨rhs, hrhs, rfl⟩ := map_eq_ok_iff.1 hread
        exact ⟨hmnemonic, .binary hshape (readRegister_eq_ok_iff.1 hlhs)
          ((readOperand_eq_ok_iff (h second (by simp))).1 hrhs)⟩
      · cases hread
  · rintro ⟨hmnemonic, hoperands⟩
    rw [readInstruction, Opcode.ofMnemonic?_eq_some_iff.2 hmnemonic]
    cases hoperands with
    | nullary shape => simp only [shape]
    | unary shape hsecond =>
      have hrhs := (readOperand_eq_ok_iff hsecond.isWord).2 hsecond
      simp only [shape, hrhs, Except.map]
    | binary shape hfirst hsecond =>
      have hlhs := readRegister_eq_ok_iff.2 hfirst
      have hrhs := (readOperand_eq_ok_iff hsecond.isWord).2 hsecond
      simp only [shape, hlhs, hrhs, Except.bind, Except.map]

/-! ## Code is words and separators -/

theorem isSeparator_of_head?_gap {gap rest : List Char} (h : IsGap gap) :
    ∀ c, (gap ++ rest).head? = some c → isSeparator c = true := by
  obtain ⟨d, gap, rfl⟩ := List.exists_cons_of_ne_nil h.1
  intro c hc
  cases hc
  exact h.2 d List.mem_cons_self

/-- A text that goes on behind a word holds its words with separators before each. -/
theorem exists_parted {words : List (List Char)} {text : List Char}
    (hhead : ∀ c, text.head? = some c → isSeparator c = true)
    (h : Text.words isSeparator text = words) :
    ∃ fields trail, text = fields ++ trail ∧ Parted words fields ∧
      ∀ c ∈ trail, isSeparator c = true := by
  induction words generalizing text with
  | nil => exact ⟨[], text, rfl, .nil, Text.words_eq_nil_iff.1 h⟩
  | cons word words ih =>
    obtain ⟨gap, rest, rfl, hgap, hword, hrest, hwords⟩ := Text.words_eq_cons_iff.1 h
    obtain ⟨fields, trail, rfl, hfields, htrail⟩ := ih hrest hwords
    have hne : gap ≠ [] := by
      rintro rfl
      obtain ⟨c, cs, rfl⟩ := List.exists_cons_of_ne_nil hword.1
      have hsep := hhead c rfl
      rw [hword.2 c List.mem_cons_self] at hsep
      cases hsep
    refine ⟨gap ++ (word ++ fields), trail, ?_, .cons ⟨hne, hgap⟩ hfields, htrail⟩
    simp only [List.append_assoc]

theorem Parted.head? {words : List (List Char)} {fields trail : List Char}
    (h : Parted words fields) (htrail : ∀ c ∈ trail, isSeparator c = true) :
    ∀ c, (fields ++ trail).head? = some c → isSeparator c = true := by
  cases h with
  | nil => exact fun c hc => htrail c (List.mem_of_mem_head? hc)
  | cons hgap htext =>
    rw [List.append_assoc]
    exact isSeparator_of_head?_gap hgap

theorem words_append_of_isWord {lead first rest : List Char}
    (hlead : ∀ c ∈ lead, isSeparator c = true) (hfirst : IsWord first)
    (hrest : ∀ c, rest.head? = some c → isSeparator c = true) :
    Text.words isSeparator (lead ++ (first ++ rest)) =
      first :: Text.words isSeparator rest := by
  rw [Text.words_append_of_gaps hlead]
  exact Text.words_append_of_word hfirst.1
    (fun c hc => isSeparator_of_isWordChar (hfirst.2 c hc)) hrest

theorem Parted.words {words : List (List Char)} {fields trail : List Char}
    (h : Parted words fields) (hwords : ∀ word ∈ words, IsWord word)
    (htrail : ∀ c ∈ trail, isSeparator c = true) :
    Text.words isSeparator (fields ++ trail) = words := by
  induction h with
  | nil => exact Text.words_of_gaps htrail
  | cons hgap htext ih =>
    obtain ⟨hword, hrest⟩ := List.forall_mem_cons.1 hwords
    rw [List.append_assoc, List.append_assoc,
      words_append_of_isWord hgap.2 hword (htext.head? htrail), ih hrest]

/-- Code of which a mnemonic and operands are read is put together from them. -/
theorem exists_code_of_words {code mnemonic : List Char} {operands : List (List Char)}
    (h : withoutAddress (Text.words isSeparator code) = mnemonic :: operands) :
    ∃ lead address fields trail, code = lead ++ (address ++ (mnemonic ++ (fields ++ trail))) ∧
      (∀ c ∈ lead, isSeparator c = true) ∧ AddressText address ∧ Parted operands fields ∧
      ∀ c ∈ trail, isSeparator c = true := by
  cases hcode : Text.words isSeparator code with
  | nil =>
    rw [hcode] at h
    cases h
  | cons first others =>
    obtain ⟨lead, rest, rfl, hlead, -, hrest, hothers⟩ := Text.words_eq_cons_iff.1 hcode
    obtain ⟨fields, trail, rfl, hfields, htrail⟩ := exists_parted hrest hothers
    rw [hcode, withoutAddress] at h
    split at h
    · -- The first word is an address, and the mnemonic is the first of the fields behind it.
      rename_i hfirst
      obtain ⟨digits, rfl, nonempty, decimal⟩ := isAddress_iff.1 hfirst
      subst h
      cases hfields with
      | @cons gap _ fields _ hgap hfields =>
        refine ⟨lead, digits ++ ':' :: gap, fields, trail, ?_, hlead,
          .present nonempty decimal hgap, hfields, htrail⟩
        simp
    · cases h
      exact ⟨lead, [], fields, trail, rfl, hlead, .absent, hfields, htrail⟩

/-- A mnemonic and operands are read of the code that is put together from them. -/
theorem withoutAddress_words {lead address mnemonic fields trail : List Char}
    {operands : List (List Char)} (hlead : ∀ c ∈ lead, isSeparator c = true)
    (haddress : AddressText address) (hmnemonic : IsWord mnemonic)
    (hnot : isAddress mnemonic = false) (hoperands : ∀ text ∈ operands, IsWord text)
    (hfields : Parted operands fields) (htrail : ∀ c ∈ trail, isSeparator c = true) :
    withoutAddress (Text.words isSeparator
      (lead ++ (address ++ (mnemonic ++ (fields ++ trail))))) = mnemonic :: operands := by
  cases haddress with
  | absent =>
    rw [List.nil_append, words_append_of_isWord hlead hmnemonic (hfields.head? htrail),
      hfields.words hoperands htrail, withoutAddress, if_neg (by simp [hnot])]
  | @present digits gap nonempty decimal hgap =>
    have hword := isWord_address nonempty decimal
    have hparted : Parted (mnemonic :: operands) (gap ++ (mnemonic ++ fields)) :=
      .cons hgap hfields
    have hwords := hparted.words (List.forall_mem_cons.2 ⟨hmnemonic, hoperands⟩) htrail
    have hcode : lead ++ (digits ++ ':' :: gap ++ (mnemonic ++ (fields ++ trail))) =
        lead ++ (digits ++ [':'] ++ (gap ++ (mnemonic ++ fields) ++ trail)) := by
      simp
    rw [hcode, words_append_of_isWord hlead hword (hparted.head? htrail), hwords,
      withoutAddress, if_pos (isAddress_iff.2 ⟨digits, rfl, nonempty, decimal⟩)]

/-! ## Lines are code and a comment -/

/-- The code of a line is what stands before its first semicolon. -/
theorem takeWhile_eq_iff {line code : List Char} :
    line.takeWhile (· ≠ ';') = code ↔
      (∃ comment, line = code ++ commentText comment) ∧ ';' ∉ code := by
  have hfree {text : List Char} :
      ';' ∉ text ↔ ∀ c ∈ text, decide (c ≠ ';') = true := by
    simp only [decide_eq_true_eq]
    exact ⟨fun h c hc hsemicolon => h (hsemicolon ▸ hc), fun h hmem => h ';' hmem rfl⟩
  rw [hfree]
  constructor
  · rintro rfl
    obtain ⟨front, back, rfl, hfront, hback⟩ := Text.exists_append_of_head? (· ≠ ';') line
    rw [Text.takeWhile_append_of_head? hfront hback]
    refine ⟨?_, hfront⟩
    cases back with
    | nil => exact ⟨none, rfl⟩
    | cons c back =>
      obtain rfl : c = ';' := by simpa using hback c rfl
      exact ⟨some back, rfl⟩
  · rintro ⟨⟨comment, rfl⟩, hcode⟩
    refine Text.takeWhile_append_of_head? hcode fun c hc => ?_
    cases comment with
    | none => cases hc
    | some text =>
      cases hc
      rfl

/-- What a line holds before its semicolon falls into words. -/
theorem isWord_of_mem_code {line word : List Char}
    (h : word ∈ Text.words isSeparator (line.takeWhile (· ≠ ';'))) : IsWord word := by
  obtain ⟨⟨hne, hword⟩, hcode⟩ := Text.of_mem_words h
  refine ⟨hne, fun c hc => ?_⟩
  have hsemicolon := List.all_eq_true.1 List.all_takeWhile c (hcode c hc)
  rw [isWordChar, hword c hc]
  exact hsemicolon

theorem mem_of_mem_withoutAddress {words : List (List Char)} {word : List Char}
    (h : word ∈ withoutAddress words) : word ∈ words := by
  cases words with
  | nil => exact h
  | cons first words =>
    rw [withoutAddress] at h
    split at h
    · exact List.mem_cons_of_mem first h
    · exact h

/-- Words are an instruction if they are a mnemonic and its operands, behind an address or not. -/
theorem ofWords_eq_code_iff {words : List (List Char)} {i : Instruction}
    (h : ∀ word ∈ words, IsWord word) :
    Statement.ofWords words = .ok (.code i) ↔
      ∃ mnemonic operands, withoutAddress words = mnemonic :: operands ∧
        mnemonic.map Char.toLower = i.opcode.mnemonic.toList ∧ OperandTexts i operands := by
  have hwords : ∀ word ∈ withoutAddress words, IsWord word :=
    fun word hword => h word (mem_of_mem_withoutAddress hword)
  rw [Statement.ofWords]
  cases hrest : withoutAddress words with
  | nil => simp
  | cons mnemonic operands =>
    rw [hrest] at hwords
    have hread : readInstruction mnemonic operands = .ok i ↔ _ :=
      readInstruction_eq_ok_iff (List.forall_mem_cons.1 hwords).2
    constructor
    · intro hcode
      obtain ⟨j, hj, hcode⟩ := map_eq_ok_iff.1 hcode
      cases hcode
      exact ⟨mnemonic, operands, rfl, hread.1 hj⟩
    · rintro ⟨mnemonic', operands', hcons, hspelled⟩
      obtain ⟨rfl, rfl⟩ := List.cons.inj hcons
      exact map_eq_ok_iff.2 ⟨i, hread.2 hspelled, rfl⟩

/-- The blanks before the code of a line are among the separators before its words. -/
theorem words_trimStart (line : List Char) :
    Text.words isSeparator ((Text.trimStart line).takeWhile (· ≠ ';')) =
      Text.words isSeparator (line.takeWhile (· ≠ ';')) := by
  obtain ⟨lead, trimmed, rfl, hlead, htrimmed⟩ := Text.exists_append_of_head? Text.isBlank line
  have hseparators : ∀ c ∈ lead, isSeparator c = true := by
    intro c hc
    rw [isSeparator, hlead c hc, Bool.or_true]
  have hcode : ∀ c ∈ lead, decide (c ≠ ';') = true := by
    intro c hc
    rw [decide_eq_true_eq]
    rintro rfl
    exact absurd (hlead _ hc) (by decide)
  rw [Text.trimStart, Text.dropWhile_append_of_head? hlead htrimmed,
    List.takeWhile_append_of_pos hcode, Text.words_append_of_gaps hseparators]

/-- A line that begins with a point would have no known mnemonic if it were no directive. -/
theorem ofWords_point_ne_code (directive : List Char) (i : Instruction) :
    Statement.ofWords (Text.words isSeparator (('.' :: directive).takeWhile (· ≠ ';'))) ≠
      .ok (.code i) := by
  intro h
  obtain ⟨mnemonic, operands, hwords, hmnemonic, -⟩ :=
    (ofWords_eq_code_iff fun _ => isWord_of_mem_code).1 h
  rw [List.takeWhile_cons_of_pos (by decide)] at hwords
  have hpointWord : isSeparator '.' = false := by decide
  obtain ⟨word, others, hpoint⟩ :=
    Text.words_cons_of_not_gap hpointWord (directive.takeWhile (· ≠ ';'))
  have haddress : ¬isAddress ('.' :: word) = true := by
    rw [isAddress_iff]
    rintro ⟨digits, hdigits, nonempty, decimal⟩
    obtain ⟨d, digits, rfl⟩ := List.exists_cons_of_ne_nil nonempty
    obtain ⟨rfl, -⟩ := List.cons.inj hdigits
    exact absurd (decimal '.' List.mem_cons_self) (by decide)
  rw [hpoint, withoutAddress, if_neg haddress] at hwords
  obtain ⟨rfl, -⟩ := List.cons.inj hwords
  exact absurd (Opcode.isAlpha_of_mem_mnemonic hmnemonic '.' List.mem_cons_self) (by decide)

theorem ofLine_eq_code_iff_ofWords {line : List Char} {i : Instruction} :
    Statement.ofLine line = .ok (.code i) ↔
      Statement.ofWords (Text.words isSeparator (line.takeWhile (· ≠ ';'))) =
        .ok (.code i) := by
  rw [← words_trimStart, Statement.ofLine]
  split
  · rename_i directive htrim
    rw [htrim]
    exact iff_of_false (ofDirective_ne_code directive i) (ofWords_point_ne_code directive i)
  · exact Iff.rfl

/-! ## No code holds a semicolon -/

theorem semicolon_not_mem_of_separators {text : List Char}
    (h : ∀ c ∈ text, isSeparator c = true) : ';' ∉ text :=
  fun hmem => absurd (h ';' hmem) (by decide)

theorem IsWord.semicolon_not_mem {text : List Char} (h : IsWord text) : ';' ∉ text :=
  fun hmem => absurd (h.2 ';' hmem) (by decide)

theorem AddressText.semicolon_not_mem {text : List Char} (h : AddressText text) :
    ';' ∉ text := by
  cases h with
  | absent => exact List.not_mem_nil
  | @present digits gap nonempty decimal hgap =>
    rw [List.append_cons, List.mem_append, not_or]
    exact ⟨(isWord_address nonempty decimal).semicolon_not_mem,
      semicolon_not_mem_of_separators hgap.2⟩

theorem Parted.semicolon_not_mem {words : List (List Char)} {fields : List Char}
    (h : Parted words fields) (hwords : ∀ word ∈ words, IsWord word) : ';' ∉ fields := by
  induction h with
  | nil => exact List.not_mem_nil
  | cons hgap htext ih =>
    obtain ⟨hword, hrest⟩ := List.forall_mem_cons.1 hwords
    simp only [List.mem_append, not_or]
    exact ⟨semicolon_not_mem_of_separators hgap.2, hword.semicolon_not_mem, ih hrest⟩

/-- A line is read as an instruction exactly if it is a spelling of it. -/
theorem ofLine_eq_code_iff {line : List Char} {i : Instruction} :
    Statement.ofLine line = .ok (.code i) ↔ InstructionText i line := by
  rw [ofLine_eq_code_iff_ofWords, ofWords_eq_code_iff fun _ => isWord_of_mem_code]
  constructor
  · rintro ⟨mnemonic, operands, hwords, hmnemonic, hoperands⟩
    obtain ⟨lead, address, fields, trail, hcode, hlead, haddress, hfields, htrail⟩ :=
      exists_code_of_words hwords
    obtain ⟨⟨comment, rfl⟩, -⟩ := takeWhile_eq_iff.1 hcode
    exact .line hlead haddress hmnemonic hoperands hfields htrail
  · rintro ⟨hlead, haddress, hmnemonic, hoperands, hfields, htrail⟩
    rename_i lead address mnemonic fields trail operands comment
    have hword := isWord_of_mnemonic hmnemonic
    have hsemicolon : ';' ∉ lead ++ (address ++ (mnemonic ++ (fields ++ trail))) := by
      simp only [List.mem_append, not_or]
      exact ⟨semicolon_not_mem_of_separators hlead, haddress.semicolon_not_mem,
        hword.semicolon_not_mem, hfields.semicolon_not_mem hoperands.isWord,
        semicolon_not_mem_of_separators htrail⟩
    refine ⟨mnemonic, operands, ?_, hmnemonic, hoperands⟩
    rw [takeWhile_eq_iff.2 ⟨⟨comment, rfl⟩, hsemicolon⟩]
    exact withoutAddress_words hlead haddress hword (isAddress_of_mnemonic hmnemonic)
      hoperands.isWord hfields htrail

end Assembly

/-! ## Texts of one line -/

namespace Program

open Assembly (Statement InstructionText)

/-- A text of one line assembles to what the line says, if that is an instruction. -/
theorem assemble_eq_single_iff {source : String} {i : Instruction}
    (h : '\n' ∉ source.toList) :
    assemble source = .ok ⟨#[i], #[], Nat.one_pos⟩ ↔
      Statement.ofLine source.toList = .ok (.code i) := by
  rw [assemble_eq_ok_iff]
  simp only [Assembly.statements_eq_ok_iff]
  by_cases hne : source.toList = []
  · rw [hne]
    constructor
    · rintro ⟨read, hread, hinstructions, -⟩
      obtain rfl : read = [] := List.map_eq_nil_iff.1 hread.symm
      cases hinstructions
    · intro hblank
      cases hblank
  · rw [Text.lines_of_not_mem hne h]
    constructor
    · rintro ⟨read, hread, hinstructions, -⟩
      obtain ⟨statement, rfl, hstatement⟩ := List.map_eq_singleton_iff.1 hread.symm
      cases statement with
      | blank => cases hinstructions
      | text string => cases hinstructions
      | code j =>
        cases hinstructions
        exact hstatement.symm
    · intro hline
      exact ⟨[.code i], by rw [List.map_singleton, hline]; rfl, rfl, rfl⟩

/-- A text of one line assembles to a single instruction exactly if it is a spelling of that
instruction: separators, possibly an address with separators behind it, the mnemonic in any case,
the operands of its shape with separators before each, separators, and possibly a comment. -/
theorem instruction_line_grammar (w : String) (i : Instruction) (h : '\n' ∉ w.toList) :
    assemble w = .ok ⟨#[i], #[], Nat.one_pos⟩ ↔ InstructionText i w.toList := by
  rw [assemble_eq_single_iff h, Assembly.ofLine_eq_code_iff]

/-- An address, a mnemonic in mixed case, a leading zero, two separators and a comment. -/
theorem instruction_line_grammar_setc :
    '\n' ∉ " 0004: SetC R00,\t0x2A ; note".toList ∧
      InstructionText (.setc 0 42) " 0004: SetC R00,\t0x2A ; note".toList ∧
      assemble " 0004: SetC R00,\t0x2A ; note" = .ok ⟨#[.setc 0 42], #[], Nat.one_pos⟩ := by
  have hnewline : '\n' ∉ " 0004: SetC R00,\t0x2A ; note".toList := by decide
  have htext : " 0004: SetC R00,\t0x2A ; note".toList =
      " ".toList ++ (("0004".toList ++ ':' :: " ".toList) ++ ("SetC".toList ++
        (" ".toList ++ ("R00".toList ++ (",\t".toList ++ ("0x2A".toList ++ []))) ++
          " ".toList))) ++ Assembly.commentText (some " note".toList) := by
    decide
  have hspace : Assembly.IsGap " ".toList := ⟨by decide, List.all_eq_true.1 (by decide)⟩
  have hcomma : Assembly.IsGap ",\t".toList := ⟨by decide, List.all_eq_true.1 (by decide)⟩
  have hfirst : Assembly.OperandText .register 0 "R00".toList :=
    .register (Or.inr rfl) (by decide) (List.all_eq_true.1 (by decide)) (by decide)
  have hsecond : Assembly.OperandText .immediate 42 "0x2A".toList :=
    .immediate ⟨by decide, List.all_eq_true.1 (by decide)⟩ (by decide)
  have hline : InstructionText (.setc 0 42) " 0004: SetC R00,\t0x2A ; note".toList := by
    rw [htext]
    exact .line hspace.2 (.present (by decide) (List.all_eq_true.1 (by decide)) hspace)
      (by decide) (.binary rfl hfirst hsecond) (.cons hspace (.cons hcomma .nil)) hspace.2
  exact ⟨hnewline, hline, (instruction_line_grammar _ _ hnewline).2 hline⟩

end Program

end RegisterMachine
