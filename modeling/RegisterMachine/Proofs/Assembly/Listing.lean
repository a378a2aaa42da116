import RegisterMachine.Proofs.Assembly.Quotation
import RegisterMachine.Proofs.Assembly.Spelling

/-!
# Listings assemble again

The listing of a program assembles to the program in canonical form
(`assemble_listing`).  So a listing forgets what stands in the fields that no
opcode reads, and nothing else.  A program in binary form may hold anything
there.  A program that was assembled holds zero there (`canonical_of_assemble`),
so it is the program of its own listing.

Assembly goes line by line, and `statements_eq_ok_iff` says that it succeeds
when every line does.  The listing is a list of lines none of which has a line
feed of its own, so it is enough to read each kind of line by itself
(`ofLine_comment`, `ofLine_directive`, `ofLine_instructionLine`).
-/

namespace RegisterMachine

namespace Assembly

open Text (quoted)

/-! ## The lines of a listing -/

theorem isAddress_addressText (address : Nat) : isAddress (addressText address) = true := by
  have hdigits : ∀ c ∈ Numeral.padded 4 (Numeral.decimal address),
      Numeral.isDigit 10 c = true := by
    intro c hc
    rcases List.mem_append.1 hc with hc | hc
    · rw [List.eq_of_mem_replicate hc]
      decide
    · exact Numeral.isDigit_of_mem_decimal hc
  have hne : Numeral.padded 4 (Numeral.decimal address) ≠ [] := by
    simp [Numeral.padded, Numeral.decimal, Nat.toDigits_ne_nil]
  simpa [isAddress, addressText, hne] using hdigits

/-- A line of a listing that holds an instruction is its address and its words. -/
theorem instructionLine_eq (i : Instruction) (address : Nat) :
    instructionLine i address = [' '].intercalate (addressText address :: i.words) := by
  rw [instructionLine, Instruction.text, Instruction.words, List.intercalate_cons_cons,
    List.append_assoc, List.singleton_append]

theorem isWord_of_mem_instructionLine {i : Instruction} {address : Nat} {text : List Char}
    (h : text ∈ addressText address :: i.words) : IsWord text := by
  rcases List.mem_cons.1 h with rfl | h
  · exact isWord_addressText address
  · exact isWord_of_mem_words h

/-- A line of a listing is read as its instruction, without the fields that it does not show. -/
theorem ofLine_instructionLine (i : Instruction) (address : Nat) :
    Statement.ofLine (instructionLine i address) = .ok (.code i.canonical) := by
  have hpoint : (addressText address).head? ≠ some '.' := by
    intro h
    have hdigit := isAddress_addressText address
    obtain ⟨cs, hcs⟩ := List.head?_eq_some_iff.1 h
    rw [hcs] at hdigit
    cases cs with
    | nil => exact absurd hdigit (by decide)
    | cons c cs =>
      simp only [isAddress, List.dropLast_cons_cons, List.all_cons, Bool.and_eq_true] at hdigit
      exact absurd hdigit.2.1 (by decide)
  rw [instructionLine_eq, ofLine_intercalate (fun _ => isWord_of_mem_instructionLine) hpoint,
    Statement.ofWords, withoutAddress, if_pos (isAddress_addressText address), Instruction.words]
  show (readInstruction i.opcode.mnemonic.toList i.fieldTexts).map Statement.code = _
  rw [readInstruction_fieldTexts]
  rfl

theorem ofLine_comment (rest : List Char) : Statement.ofLine (';' :: rest) = .ok .blank := rfl

/-- The directive of a string is read as that string, whatever characters it has. -/
theorem ofLine_directive (string : String) :
    Statement.ofLine (".string ".toList ++ quoted string.toList) = .ok (.text string) := by
  show Statement.ofDirective ("string".toList ++ ' ' :: quoted string.toList) = _
  have hall : "string".toList.all (!Text.isBlank ·) = true := by decide
  have hname := List.all_eq_true.1 hall
  have hblank : (!Text.isBlank ' ') = false := by decide
  rw [Statement.ofDirective, List.takeWhile_append_of_pos hname,
    List.dropWhile_append_of_pos hname, List.takeWhile_cons_of_neg (by simp [hblank]),
    List.dropWhile_cons_of_neg (by simp [hblank]), List.append_nil, literal?_quoted]
  rfl

/-! ## Reading line by line -/

/-- A text is read when each of its lines is, whatever number the first line has. -/
theorem statements_eq_ok_iff {lines : List (List Char)} {number : Nat}
    {read : List Statement} :
    statements number lines = .ok read ↔ lines.map Statement.ofLine = read.map .ok := by
  induction lines generalizing number read with
  | nil =>
    cases read with
    | nil => exact ⟨fun _ => rfl, fun _ => rfl⟩
    | cons statement rest => exact ⟨fun h => (nomatch h), fun h => (nomatch h)⟩
  | cons line lines ih =>
    rw [statements, List.map_cons]
    cases hline : Statement.ofLine line with
    | error cause =>
      cases read with
      | nil => simp
      | cons statement rest => simp
    | ok statement =>
      constructor
      · intro h
        obtain ⟨rest, hlines, rfl⟩ := Attempt.map_eq_ok_iff.1 h
        rw [ih.1 hlines, List.map_cons]
      · intro h
        cases read with
        | nil => cases h
        | cons first rest =>
          obtain ⟨hfirst, hrest⟩ := List.cons.inj h
          cases hfirst
          rw [ih.2 hrest]
          rfl

/-- The statements of a listing: for each string its comment and itself, then the instructions,
without what their lines do not spell. -/
def listedStatements (p : Program) : List Statement :=
  (p.strings.toList.flatMap fun string => [.blank, .text string]) ++
    p.instructions.toList.map fun i => .code i.canonical

theorem map_ofLine_stringLines (strings : List String) (first : Nat) :
    ((strings.zipIdx first).flatMap fun (string, index) => stringLines string index).map
        Statement.ofLine =
      (strings.flatMap fun string => [.blank, .text string]).map .ok := by
  induction strings generalizing first with
  | nil => rfl
  | cons string strings ih =>
    have hstring : (stringLines string first).map Statement.ofLine =
        [Statement.blank, .text string].map .ok := by
      rw [stringLines, List.map_cons, List.map_cons, ofLine_directive]
      rfl
    rw [List.zipIdx_cons, List.flatMap_cons, List.flatMap_cons, List.map_append,
      List.map_append, ih, hstring]

theorem map_ofLine_instructionLines (instructions : List Instruction) (first : Nat) :
    ((instructions.zipIdx first).map fun (i, address) => instructionLine i address).map
        Statement.ofLine =
      (instructions.map fun i => Statement.code i.canonical).map .ok := by
  induction instructions generalizing first with
  | nil => rfl
  | cons i instructions ih =>
    rw [List.zipIdx_cons, List.map_cons, List.map_cons, List.map_cons, List.map_cons, ih,
      ofLine_instructionLine]

/-- No line of a listing is refused. -/
theorem statements_listingLines (p : Program) :
    statements 1 p.listingLines = .ok (listedStatements p) := by
  rw [statements_eq_ok_iff, Program.listingLines, listedStatements, List.map_append,
    List.map_append, map_ofLine_stringLines, map_ofLine_instructionLines]

theorem filterMap_instruction?_listedStatements (p : Program) :
    (listedStatements p).filterMap Statement.instruction? =
      p.instructions.toList.map Instruction.canonical := by
  have hstrings (strings : List String) :
      (strings.flatMap fun string => [.blank, .text string]).filterMap Statement.instruction? =
        [] := by
    induction strings with
    | nil => rfl
    | cons string strings ih => exact ih
  have hinstructions : Statement.instruction? ∘ (fun i => Statement.code i.canonical) =
      some ∘ Instruction.canonical := rfl
  rw [listedStatements, List.filterMap_append, hstrings, List.nil_append, List.filterMap_map,
    hinstructions, List.filterMap_eq_map]

theorem filterMap_string?_listedStatements (p : Program) :
    (listedStatements p).filterMap Statement.string? = p.strings.toList := by
  have hinstructions : (p.instructions.toList.map fun i => Statement.code i.canonical).filterMap
      Statement.string? = [] := by
    simp [Statement.string?]
  have hstrings (strings : List String) :
      (strings.flatMap fun string => [.blank, .text string]).filterMap Statement.string? =
        strings := by
    induction strings with
    | nil => rfl
    | cons string strings ih => exact congrArg (string :: ·) ih
  rw [listedStatements, List.filterMap_append, hstrings, hinstructions, List.append_nil]

theorem newline_not_mem_stringLines {string : String} {index : Nat} {line : List Char}
    (h : line ∈ stringLines string index) : '\n' ∉ line := by
  intro hmem
  rcases List.mem_cons.1 h with rfl | h
  · rcases List.mem_append.1 hmem with hmem | hmem
    · exact absurd hmem (by decide)
    · exact absurd (isWordChar_of_mem_decimal hmem) (by decide)
  · rw [List.mem_singleton.1 h] at hmem
    rcases List.mem_append.1 hmem with hmem | hmem
    · exact absurd hmem (by decide)
    · exact newline_not_mem_quoted _ hmem

/-- No line of a listing breaks, so a listing has the lines that it was made of. -/
theorem newline_not_mem_listingLines (p : Program) :
    ∀ line ∈ p.listingLines, '\n' ∉ line := by
  intro line hline
  rcases List.mem_append.1 hline with hline | hline
  · obtain ⟨⟨string, index⟩, -, hline⟩ := List.mem_flatMap.1 hline
    exact newline_not_mem_stringLines hline
  · obtain ⟨⟨i, address⟩, -, rfl⟩ := List.mem_map.1 hline
    show '\n' ∉ instructionLine i address
    rw [instructionLine_eq]
    exact newline_not_mem_intercalate fun _ => isWord_of_mem_instructionLine

end Assembly

namespace Program

/-! ## Programs -/

open Assembly (Statement statements)

/-- A text assembles to a program when each of its lines is read and the program holds what the
lines say, in their order. -/
theorem assemble_eq_ok_iff {source : String} {p : Program} :
    assemble source = .ok p ↔
      ∃ read, statements 1 (Text.lines source.toList) = .ok read ∧
        p.instructions.toList = read.filterMap Statement.instruction? ∧
        p.strings.toList = read.filterMap Statement.string? := by
  cases hread : statements 1 (Text.lines source.toList) with
  | error fault =>
    simp only [assemble, hread, Except.bind, reduceCtorEq, false_and, exists_false]
  | ok read =>
    simp only [assemble, hread, Except.bind, Except.ok.injEq, exists_eq_left']
    split
    · rename_i hsize
      rw [Except.ok.injEq]
      constructor
      · rintro rfl
        exact ⟨rfl, rfl⟩
      · rintro ⟨hinstructions, hstrings⟩
        rcases p with ⟨instructions, strings, nonempty⟩
        simp only at hinstructions hstrings
        simp only [← hinstructions, ← hstrings, Array.toArray_toList]
    · rename_i hsize
      simp only [reduceCtorEq, false_iff, not_and]
      intro hinstructions
      have := p.nonempty
      rw [← hinstructions, Array.toArray_toList] at hsize
      exact absurd this hsize

/-- A listing assembles to the canonical form of its program. -/
theorem assemble_listing (p : Program) : assemble p.listing = .ok p.canonical := by
  have hlines : Text.lines p.listing.toList = p.listingLines := by
    rw [listing, String.toList_ofList,
      Text.lines_flatMap (Assembly.newline_not_mem_listingLines p)]
  refine assemble_eq_ok_iff.2 ⟨Assembly.listedStatements p, ?_, ?_, ?_⟩
  · rw [hlines, Assembly.statements_listingLines]
  · rw [Assembly.filterMap_instruction?_listedStatements, canonical, Array.toList_map]
  · rw [Assembly.filterMap_string?_listedStatements, canonical]

theorem listing_canonical (p : Program) : p.canonical.listing = p.listing := by
  simp [listing, listingLines, canonical, Assembly.instructionLine, List.zipIdx_map,
    Function.comp_def]

/-- What is assembled holds zero in every field that is not read. -/
theorem canonical_of_assemble {source : String} {p : Program} (h : assemble source = .ok p) :
    p.canonical = p := by
  obtain ⟨read, hread, hinstructions, -⟩ := assemble_eq_ok_iff.1 h
  have hlines := Assembly.statements_eq_ok_iff.1 hread
  have hcanonical : ∀ i ∈ p.instructions.toList, i.canonical = i := by
    intro i hi
    rw [hinstructions] at hi
    obtain ⟨statement, hmem, hcode⟩ := List.mem_filterMap.1 hi
    cases statement with
    | blank => cases hcode
    | text string => cases hcode
    | code j =>
      cases hcode
      have hok : (.ok (.code i)) ∈ (Text.lines source.toList).map Statement.ofLine := by
        rw [hlines]
        exact List.mem_map_of_mem hmem
      obtain ⟨line, -, hline⟩ := List.mem_map.1 hok
      exact Assembly.canonical_of_ofLine hline
  have hmap : p.instructions.toList.map Instruction.canonical = p.instructions.toList :=
    (List.map_congr_left hcanonical).trans (List.map_id' _)
  rcases p with ⟨instructions, strings, nonempty⟩
  simp only [canonical, mk.injEq, and_true]
  apply Array.toList_inj.1
  rw [Array.toList_map]
  exact hmap

theorem instructions_canonical (p : Program) :
    p.canonical.instructions = p.instructions.map fun i =>
      match i.opcode with
      | .nop => ⟨.nop, 0, 0⟩
      | .op .jmp _ | .op .print _ | .op .ret _ => { i with lhs := 0 }
      | _ => i := by
  refine congrArg p.instructions.map (funext fun i => ?_)
  rcases i with ⟨opcode, lhs, rhs⟩
  cases opcode with
  | nop => rfl
  | op operation kind => cases operation <;> rfl

/-- Listing and assembling are inverse to each other, up to the fields that an opcode does not
read: both fields of `nop`, and the left one of jumps, prints and returns. -/
theorem assemble_listing_inverse :
    (∀ p : Program, assemble p.listing = .ok p.canonical ∧
      p.canonical.strings = p.strings ∧
      p.canonical.instructions = p.instructions.map fun i =>
        match i.opcode with
        | .nop => ⟨.nop, 0, 0⟩
        | .op .jmp _ | .op .print _ | .op .ret _ => { i with lhs := 0 }
        | _ => i) ∧
    (∀ p : Program, assemble p.listing = .ok p ↔ p = p.canonical) ∧
    (∀ (source : String) (p : Program), assemble source = .ok p → p = p.canonical) := by
  refine ⟨fun p => ⟨assemble_listing p, rfl, instructions_canonical p⟩, fun p => ?_,
    fun source p h => (canonical_of_assemble h).symm⟩
  rw [assemble_listing, Except.ok.injEq, eq_comm]

/-- A text with an address, a comment, an escape and a signed operand. -/
theorem assemble_listing_inverse_print :
    assemble ".string \"\\u\x7be9\x7d\"\n 0007: PRINTC 0 ; note\njmpc -1" =
        .ok ⟨#[.printc 0, .jmpc (-1)], #["é"], by decide⟩ ∧
      (⟨#[.printc 0, .jmpc (-1)], #["é"], by decide⟩ : Program) =
        canonical ⟨#[.printc 0, .jmpc (-1)], #["é"], by decide⟩ := by
  have h : assemble ".string \"\\u\x7be9\x7d\"\n 0007: PRINTC 0 ; note\njmpc -1" =
      .ok ⟨#[.printc 0, .jmpc (-1)], #["é"], by decide⟩ := by decide +kernel
  exact ⟨h, assemble_listing_inverse.2.2 _ _ h⟩

end Program

end RegisterMachine
