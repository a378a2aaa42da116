import RegisterMachine.Proofs.Assembly.Listing

/-!
# Texts one after the other

No line of assembly text depends on another one.  So a text is refused for the
first of its lines that is refused by itself (`statements_eq_error_iff`), or else
for having no instruction, and it does not matter how the text was put together.

If the first of two texts ends with a line feed, or is empty, the lines of both
are the lines of the first and then the lines of the second
(`Text.lines_append_of_ends`).  Then the two texts assemble as one to the
instructions and the strings of both, and a fault of the second is found as many
lines further down as the first has (`assemble_append`).
-/

namespace RegisterMachine

/-! ## Whole lines -/

/-- A text after which another one begins on a line of its own. -/
def Text.Ends (text : List Char) : Prop := text = [] ∨ text.getLast? = some '\n'

theorem Text.lines_append_of_ends {s : List Char} (hs : Ends s) (t : List Char) :
    lines (s ++ t) = lines s ++ lines t := by
  rcases hs with rfl | hs
  · rfl
  · obtain ⟨r, rfl⟩ := List.getLast?_eq_some_iff.1 hs
    rw [List.append_assoc, List.singleton_append, lines_append]

namespace Assembly

open Attempt

/-! ## Faults of single lines -/

theorem readOperand_ne_emptyProgram (kind : OperandKind) (word : List Char) :
    readOperand kind word ≠ .error .emptyProgram := by
  intro h
  cases kind with
  | register =>
    rw [readOperand, readRegister] at h
    split at h <;> cases h
  | immediate =>
    rw [readOperand, readImmediate] at h
    split at h <;> cases h

theorem readInstruction_ne_emptyProgram (mnemonic : List Char) (operands : List (List Char)) :
    readInstruction mnemonic operands ≠ .error .emptyProgram := by
  intro h
  rw [readInstruction] at h
  split at h
  · cases h
  · split at h
    · cases h
    · exact readOperand_ne_emptyProgram _ _ (map_eq_error_iff.1 h)
    · rcases bind_eq_error_iff.1 h with h | ⟨lhs, -, h⟩
      · exact readOperand_ne_emptyProgram .register _ h
      · exact readOperand_ne_emptyProgram _ _ (map_eq_error_iff.1 h)
    · cases h

/-- That there is no instruction is the fault of no line. -/
theorem ofLine_ne_emptyProgram (line : List Char) :
    Statement.ofLine line ≠ .error .emptyProgram := by
  intro h
  rw [Statement.ofLine] at h
  split at h
  · rw [Statement.ofDirective] at h
    split at h
    · split at h <;> cases h
    · cases h
  · rw [Statement.ofWords] at h
    split at h
    · cases h
    · exact readInstruction_ne_emptyProgram _ _ (map_eq_error_iff.1 h)

/-! ## The first faulty line -/

/-- Whether a line is read, taken by itself. -/
def Accepted (line : List Char) : Prop := ∃ statement, Statement.ofLine line = .ok statement

/-- Lines are read as a whole exactly if each of them is accepted. -/
theorem exists_statements_iff {lines : List (List Char)} {number : Nat} :
    (∃ read, statements number lines = .ok read) ↔ ∀ line ∈ lines, Accepted line := by
  simp only [statements_eq_ok_iff]
  constructor
  · rintro ⟨read, hread⟩ line hline
    have hmem : Statement.ofLine line ∈ read.map .ok := hread ▸ List.mem_map_of_mem hline
    obtain ⟨statement, -, hstatement⟩ := List.mem_map.1 hmem
    exact ⟨statement, hstatement.symm⟩
  · intro h
    induction lines with
    | nil => exact ⟨[], rfl⟩
    | cons line lines ih =>
      obtain ⟨hline, hlines⟩ := List.forall_mem_cons.1 h
      obtain ⟨statement, hstatement⟩ := hline
      obtain ⟨read, hread⟩ := ih hlines
      exact ⟨statement :: read, by rw [List.map_cons, List.map_cons, hstatement, hread]⟩

/-- A text is refused for the first of its lines that is refused by itself. -/
theorem statements_eq_error_iff {lines : List (List Char)} {number : Nat}
    {fault : AssemblyFault} :
    statements number lines = .error fault ↔
      ∃ before line after, lines = before ++ line :: after ∧ (∀ text ∈ before, Accepted text) ∧
        Statement.ofLine line = .error fault.cause ∧ fault.line = number + before.length := by
  induction lines generalizing number with
  | nil => simp [statements]
  | cons first lines ih =>
    rw [statements]
    cases hfirst : Statement.ofLine first with
    | error cause =>
      constructor
      · intro h
        cases h
        exact ⟨[], first, lines, rfl, by simp, hfirst, rfl⟩
      · rintro ⟨before, line, after, hlines, hbefore, hline, hnumber⟩
        cases before with
        | nil =>
          obtain ⟨rfl, rfl⟩ := List.cons.inj hlines
          rw [hfirst] at hline
          rcases fault with ⟨number', cause'⟩
          cases hline
          cases hnumber
          rfl
        | cons text before =>
          obtain ⟨rfl, -⟩ := List.cons.inj hlines
          obtain ⟨statement, hstatement⟩ := hbefore _ List.mem_cons_self
          rw [hfirst] at hstatement
          cases hstatement
    | ok statement =>
      simp only [map_eq_error_iff, ih]
      constructor
      · rintro ⟨before, line, after, rfl, hbefore, hline, hnumber⟩
        refine ⟨first :: before, line, after, rfl, ?_, hline, ?_⟩
        · exact List.forall_mem_cons.2 ⟨⟨statement, hfirst⟩, hbefore⟩
        · rw [hnumber, List.length_cons, Nat.add_assoc, Nat.add_comm 1]
      · rintro ⟨before, line, after, hlines, hbefore, hline, hnumber⟩
        cases before with
        | nil =>
          obtain ⟨rfl, -⟩ := List.cons.inj hlines
          rw [hfirst] at hline
          cases hline
        | cons text before =>
          obtain ⟨-, rfl⟩ := List.cons.inj hlines
          refine ⟨before, line, after, rfl, (List.forall_mem_cons.1 hbefore).2, hline, ?_⟩
          rw [hnumber, List.length_cons, Nat.add_assoc, Nat.add_comm 1]

theorem statements_append_eq_ok {first second : List (List Char)} {number number' : Nat}
    {read read' : List Statement} (h : statements number first = .ok read)
    (h' : statements number' second = .ok read') (start : Nat) :
    statements start (first ++ second) = .ok (read ++ read') := by
  rw [statements_eq_ok_iff] at h h' ⊢
  rw [List.map_append, List.map_append, h, h']

end Assembly

namespace Program

open Assembly (Statement Accepted statements)

/-! ## Faults of texts -/

/-- Whether no line of a text is faulty and none holds an instruction. -/
def WithoutInstruction (lines : List (List Char)) : Prop :=
  ∀ line ∈ lines, ∃ statement, Statement.ofLine line = .ok statement ∧
    statement.instruction? = none

/-- Lines hold no instruction exactly if none was read from them. -/
theorem withoutInstruction_iff {lines : List (List Char)} {read : List Statement}
    (h : lines.map Statement.ofLine = read.map .ok) :
    WithoutInstruction lines ↔ read.filterMap Statement.instruction? = [] := by
  rw [List.filterMap_eq_nil_iff]
  constructor
  · intro hlines statement hstatement
    have hmem : .ok statement ∈ lines.map Statement.ofLine := h ▸ List.mem_map_of_mem hstatement
    obtain ⟨line, hline, hread⟩ := List.mem_map.1 hmem
    obtain ⟨statement', hread', hnone⟩ := hlines line hline
    rw [hread] at hread'
    cases hread'
    exact hnone
  · intro hread line hline
    have hmem : Statement.ofLine line ∈ read.map .ok := h ▸ List.mem_map_of_mem hline
    obtain ⟨statement, hstatement, hline⟩ := List.mem_map.1 hmem
    exact ⟨statement, hline.symm, hread statement hstatement⟩

theorem WithoutInstruction.accepted {lines : List (List Char)} (h : WithoutInstruction lines) :
    ∀ line ∈ lines, Accepted line := by
  intro line hline
  obtain ⟨statement, hread, -⟩ := h line hline
  exact ⟨statement, hread⟩

/-- A text is refused for its first faulty line, or for having neither such a line nor an
instruction. -/
theorem assemble_eq_error_iff {source : String} {fault : AssemblyFault} :
    assemble source = .error fault ↔
      statements 1 (Text.lines source.toList) = .error fault ∨
        WithoutInstruction (Text.lines source.toList) ∧
          fault = ⟨(Text.lines source.toList).length, .emptyProgram⟩ := by
  cases hread : statements 1 (Text.lines source.toList) with
  | error fault' =>
    have hfaulty : ¬WithoutInstruction (Text.lines source.toList) := by
      intro h
      obtain ⟨read, hread'⟩ := Assembly.exists_statements_iff.2 h.accepted
      rw [hread] at hread'
      cases hread'
    simp [assemble, hread, Except.bind, hfaulty]
  | ok read =>
    rw [withoutInstruction_iff (Assembly.statements_eq_ok_iff.1 hread)]
    simp only [assemble, hread, Except.bind, reduceCtorEq, false_or]
    split
    · rename_i hsize
      rw [List.size_toArray] at hsize
      simp [List.ne_nil_of_length_pos hsize]
    · rename_i hsize
      rw [List.size_toArray, Nat.pos_iff_ne_zero, not_not, List.length_eq_zero_iff] at hsize
      rw [Except.error.injEq, eq_comm]
      simp [hsize]

theorem assemble_eq_error_iff_of_ne {source : String} {fault : AssemblyFault}
    (h : fault.cause ≠ .emptyProgram) :
    assemble source = .error fault ↔ statements 1 (Text.lines source.toList) = .error fault := by
  rw [assemble_eq_error_iff]
  constructor
  · rintro (hfault | ⟨-, rfl⟩)
    · exact hfault
    · exact absurd rfl h
  · exact Or.inl

theorem assemble_eq_emptyProgram_iff {source : String} {number : Nat} :
    assemble source = .error ⟨number, .emptyProgram⟩ ↔
      WithoutInstruction (Text.lines source.toList) ∧
        number = (Text.lines source.toList).length := by
  rw [assemble_eq_error_iff]
  constructor
  · rintro (hfault | ⟨hnone, hnumber⟩)
    · obtain ⟨before, line, after, -, -, hline, -⟩ := Assembly.statements_eq_error_iff.1 hfault
      exact absurd hline (Assembly.ofLine_ne_emptyProgram line)
    · exact ⟨hnone, (AssemblyFault.mk.inj hnumber).1⟩
  · rintro ⟨hnone, rfl⟩
    exact Or.inr ⟨hnone, rfl⟩

/-- The lines of a text that assembles, or has no instruction, are all read. -/
theorem accepted_of_assemble {source : String}
    (h : (∃ p, assemble source = .ok p) ∨
      ∃ number, assemble source = .error ⟨number, .emptyProgram⟩) :
    ∀ line ∈ Text.lines source.toList, Accepted line := by
  rcases h with ⟨p, hp⟩ | ⟨number, hnone⟩
  · obtain ⟨read, hread, -⟩ := assemble_eq_ok_iff.1 hp
    exact Assembly.exists_statements_iff.1 ⟨read, hread⟩
  · exact (assemble_eq_emptyProgram_iff.1 hnone).1.accepted

/-! ## Two texts -/

section TwoTexts

variable {s t : String}

theorem lines_append (hs : Text.Ends s.toList) :
    Text.lines (s ++ t).toList = Text.lines s.toList ++ Text.lines t.toList := by
  rw [String.toList_append, Text.lines_append_of_ends hs]

/-- Two texts that assemble do so together, one after the other. -/
theorem assemble_append_eq_ok (hs : Text.Ends s.toList) {p q : Program}
    (hp : assemble s = .ok p) (hq : assemble t = .ok q) :
    ∃ r, assemble (s ++ t) = .ok r ∧ r.instructions = p.instructions ++ q.instructions ∧
      r.strings = p.strings ++ q.strings := by
  obtain ⟨read, hread, hinstructions, hstrings⟩ := assemble_eq_ok_iff.1 hp
  obtain ⟨read', hread', hinstructions', hstrings'⟩ := assemble_eq_ok_iff.1 hq
  have hsize : 0 < (p.instructions ++ q.instructions).size := by
    rw [Array.size_append]
    exact Nat.lt_of_lt_of_le p.nonempty (Nat.le_add_right _ _)
  refine ⟨⟨p.instructions ++ q.instructions, p.strings ++ q.strings, hsize⟩, ?_, rfl, rfl⟩
  refine assemble_eq_ok_iff.2 ⟨read ++ read', ?_, ?_, ?_⟩
  · rw [lines_append hs, Assembly.statements_append_eq_ok hread hread']
  · rw [Array.toList_append, List.filterMap_append, hinstructions, hinstructions']
  · rw [Array.toList_append, List.filterMap_append, hstrings, hstrings']

/-- What is wrong with the first text is wrong with both together. -/
theorem assemble_append_eq_error (hs : Text.Ends s.toList) {fault : AssemblyFault}
    (hcause : fault.cause ≠ .emptyProgram) (h : assemble s = .error fault) :
    assemble (s ++ t) = .error fault := by
  rw [assemble_eq_error_iff_of_ne hcause, Assembly.statements_eq_error_iff] at h ⊢
  obtain ⟨before, line, after, hlines, hbefore, hline, hnumber⟩ := h
  refine ⟨before, line, after ++ Text.lines t.toList, ?_, hbefore, hline, hnumber⟩
  rw [lines_append hs, hlines, List.append_assoc, List.cons_append]

theorem assemble_append_eq_error_right (hs : Text.Ends s.toList) {number : Nat}
    {cause : LineFault} (hcause : cause ≠ .emptyProgram)
    (hfirst : (∃ p, assemble s = .ok p) ∨ ∃ number, assemble s = .error ⟨number, .emptyProgram⟩)
    (h : assemble t = .error ⟨number, cause⟩) :
    assemble (s ++ t) = .error ⟨(Text.lines s.toList).length + number, cause⟩ := by
  rw [assemble_eq_error_iff_of_ne hcause, Assembly.statements_eq_error_iff] at h ⊢
  obtain ⟨before, line, after, hlines, hbefore, hline, hnumber⟩ := h
  refine ⟨Text.lines s.toList ++ before, line, after, ?_, ?_, hline, ?_⟩
  · rw [lines_append hs, hlines, List.append_assoc]
  · exact List.forall_mem_append.2 ⟨accepted_of_assemble hfirst, hbefore⟩
  · simp only at hnumber ⊢
    rw [hnumber, List.length_append]
    omega

theorem assemble_append_eq_emptyProgram (hs : Text.Ends s.toList) {number number' : Nat}
    (h : assemble s = .error ⟨number, .emptyProgram⟩)
    (h' : assemble t = .error ⟨number', .emptyProgram⟩) :
    assemble (s ++ t) = .error
      ⟨(Text.lines s.toList).length + (Text.lines t.toList).length, .emptyProgram⟩ := by
  rw [assemble_eq_emptyProgram_iff] at h h' ⊢
  rw [lines_append hs, List.length_append]
  exact ⟨List.forall_mem_append.2 ⟨h.1, h'.1⟩, rfl⟩

end TwoTexts

/-- Assembly is compositional over texts of whole lines: two texts that assemble give the
instructions and the strings of both, and a fault is that of the first faulty line. -/
theorem assemble_append :
    (∀ s t : String, s = "" ∨ (∃ r, s = r ++ "\n") →
      (∀ p q, assemble s = .ok p → assemble t = .ok q →
        ∃ r, assemble (s ++ t) = .ok r ∧ r.instructions = p.instructions ++ q.instructions ∧
          r.strings = p.strings ++ q.strings) ∧
      (∀ line cause, cause ≠ .emptyProgram → assemble s = .error ⟨line, cause⟩ →
        assemble (s ++ t) = .error ⟨line, cause⟩) ∧
      (∀ line cause, cause ≠ .emptyProgram →
        ((∃ p, assemble s = .ok p) ∨ ∃ line', assemble s = .error ⟨line', .emptyProgram⟩) →
        assemble t = .error ⟨line, cause⟩ →
        assemble (s ++ t) = .error ⟨(Text.lines s.toList).length + line, cause⟩) ∧
      (∀ line line', assemble s = .error ⟨line, .emptyProgram⟩ →
        assemble t = .error ⟨line', .emptyProgram⟩ →
        assemble (s ++ t) = .error
          ⟨(Text.lines s.toList).length + (Text.lines t.toList).length, .emptyProgram⟩)) ∧
    (∀ (source : String) (line : Nat) (cause : LineFault),
      assemble source = .error ⟨line, cause⟩ ↔
        (∃ before text after, Text.lines source.toList = before ++ text :: after ∧
          (∀ text' ∈ before, ∃ statement, Statement.ofLine text' = .ok statement) ∧
          Statement.ofLine text = .error cause ∧ line = 1 + before.length) ∨
        (∀ text ∈ Text.lines source.toList, ∃ statement, Statement.ofLine text = .ok statement ∧
          statement.instruction? = none) ∧
          line = (Text.lines source.toList).length ∧ cause = .emptyProgram) := by
  refine ⟨fun s t hs => ?_, fun source line cause => ?_⟩
  · have hends : Text.Ends s.toList := by
      rcases hs with rfl | ⟨r, rfl⟩
      · exact Or.inl rfl
      · exact Or.inr (by simp)
    exact ⟨fun p q => assemble_append_eq_ok hends,
      fun line cause hcause => assemble_append_eq_error hends hcause,
      fun line cause hcause => assemble_append_eq_error_right hends hcause,
      fun line line' => assemble_append_eq_emptyProgram hends⟩
  · rw [assemble_eq_error_iff, Assembly.statements_eq_error_iff, AssemblyFault.mk.injEq]
    rfl

/-- The second line of the second text is the third one of both. -/
theorem assemble_append_bogus :
    assemble "nop\n" = .ok ⟨#[.nop], #[], by decide⟩ ∧
      assemble "\nbogus r0" = .error ⟨2, .unknownMnemonic "bogus"⟩ ∧
      assemble ("nop\n" ++ "\nbogus r0") =
        .error ⟨(Text.lines "nop\n".toList).length + 2, .unknownMnemonic "bogus"⟩ := by
  have hs : assemble "nop\n" = .ok ⟨#[.nop], #[], by decide⟩ := by decide +kernel
  have ht : assemble "\nbogus r0" = .error ⟨2, .unknownMnemonic "bogus"⟩ := by decide +kernel
  refine ⟨hs, ht, ?_⟩
  exact (assemble_append.1 "nop\n" "\nbogus r0" (Or.inr ⟨"nop", by decide⟩)).2.2.1 2
    (.unknownMnemonic "bogus") (by decide) (Or.inl ⟨_, hs⟩) ht

end Program

end RegisterMachine
