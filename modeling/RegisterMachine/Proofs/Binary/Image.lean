import RegisterMachine.Proofs.Binary.Fields

/-!
# Programs and their bytes

The bytes of a program are its *image*.  A program has one if its counts and
lengths fit the 32 bits that the format has for them, and then encoding gives the
image (`encode_eq_ok_iff`).  Decoding accepts the images of such programs and
nothing else (`decode_eq_ok_iff`).  So the encodable programs and the accepted
byte strings determine each other.
-/

namespace RegisterMachine

open LittleEndian Attempt
open Cursor (stringBytes passes_append_iff bytes_eq_ok_iff counted_eq_ok_iff)

/-! ## Instructions -/

theorem Instruction.length_encode (i : Instruction) : i.encode.length = 17 := by
  rw [encode, List.length_cons, List.length_append, LittleEndian.length_encode,
    LittleEndian.length_encode]

/-- An instruction is decoded from its own bytes, whatever stands behind them. -/
theorem Instruction.decode_eq_ok_iff {bytes : List UInt8} {i : Instruction} :
    decode bytes = .ok i ↔ ∃ rest, bytes = i.encode ++ rest := by
  rw [decode, map_eq_ok_iff]
  constructor
  · rintro ⟨⟨j, d⟩, hread, rfl⟩
    exact ⟨d.rest, (Cursor.instruction_eq_ok_iff.1 hread).1⟩
  · rintro ⟨rest, rfl⟩
    refine ⟨(i, ⟨rest, i.encode.length⟩), Cursor.instruction_eq_ok_iff.2 ⟨rfl, ?_⟩, rfl⟩
    exact (Nat.zero_add _).symm

/-! ## Encoding -/

theorem encodeLength_eq_ok_iff {what : String} {n : Nat} {bytes : List UInt8} :
    encodeLength what n = .ok bytes ↔ n < UInt32.size ∧ bytes = encode 4 n := by
  rw [encodeLength]
  split
  · rename_i h
    rw [Except.ok.injEq]
    exact ⟨fun e => ⟨h, e.symm⟩, fun e => e.2.symm⟩
  · rename_i h
    exact ⟨fun e => (nomatch e), fun e => absurd e.1 h⟩

theorem encodeStrings_eq_ok_iff {texts : List String} {bytes : List UInt8} :
    encodeStrings texts = .ok bytes ↔
      (∀ text ∈ texts, text.utf8ByteSize < UInt32.size) ∧ bytes = texts.flatMap stringBytes := by
  induction texts generalizing bytes with
  | nil => simp [encodeStrings, eq_comm]
  | cons text texts ih =>
    rw [encodeStrings, bind_eq_ok_iff, List.forall_mem_cons, List.flatMap_cons]
    constructor
    · rintro ⟨length, hlength, hrest⟩
      obtain ⟨rest, htexts, rfl⟩ := map_eq_ok_iff.1 hrest
      obtain ⟨hbound, rfl⟩ := encodeLength_eq_ok_iff.1 hlength
      obtain ⟨hbounds, rfl⟩ := ih.1 htexts
      exact ⟨⟨hbound, hbounds⟩, rfl⟩
    · rintro ⟨⟨hbound, hbounds⟩, rfl⟩
      exact ⟨encode 4 text.utf8ByteSize, encodeLength_eq_ok_iff.2 ⟨hbound, rfl⟩,
        map_eq_ok_iff.2 ⟨texts.flatMap stringBytes, ih.2 ⟨hbounds, rfl⟩, rfl⟩⟩

namespace Program

/-- The counts and lengths of a program fit 32 bits. -/
structure Encodable (p : Program) : Prop where
  stringCount : p.strings.size < UInt32.size
  stringLength : ∀ text ∈ p.strings, text.utf8ByteSize < UInt32.size
  instructionCount : p.length < UInt32.size

/-- The bytes that stand for a program. -/
def image (p : Program) : List UInt8 :=
  magic ++ ((LittleEndian.encode 4 p.strings.size ++ p.strings.toList.flatMap stringBytes) ++
    (LittleEndian.encode 4 p.length ++ p.instructions.toList.flatMap Instruction.encode))

/-- A program has an encoding exactly if all its lengths fit, and that is its image. -/
theorem encode_eq_ok_iff {p : Program} {bytes : List UInt8} :
    p.encode = .ok bytes ↔ p.Encodable ∧ bytes = p.image := by
  have himage : p.image = magic ++ LittleEndian.encode 4 p.strings.size ++
      p.strings.toList.flatMap stringBytes ++ LittleEndian.encode 4 p.length ++
      p.instructions.toList.flatMap Instruction.encode := by
    simp only [image, List.append_assoc]
  rw [encode, bind_eq_ok_iff, himage]
  constructor
  · rintro ⟨stringCount, hstringCount, hbody⟩
    obtain ⟨strings, hstrings, hinstructions⟩ := bind_eq_ok_iff.1 hbody
    obtain ⟨instructionCount, hinstructionCount, rfl⟩ := map_eq_ok_iff.1 hinstructions
    obtain ⟨hsize, rfl⟩ := encodeLength_eq_ok_iff.1 hstringCount
    obtain ⟨hsizes, rfl⟩ := encodeStrings_eq_ok_iff.1 hstrings
    obtain ⟨hlength, rfl⟩ := encodeLength_eq_ok_iff.1 hinstructionCount
    exact ⟨⟨hsize, fun text h => hsizes text h.val, hlength⟩, rfl⟩
  · rintro ⟨h, rfl⟩
    refine ⟨_, encodeLength_eq_ok_iff.2 ⟨h.stringCount, rfl⟩, ?_⟩
    refine bind_eq_ok_iff.2 ⟨_, encodeStrings_eq_ok_iff.2 ⟨?_, rfl⟩, ?_⟩
    · exact fun text htext => h.stringLength text ⟨htext⟩
    · exact map_eq_ok_iff.2 ⟨_, encodeLength_eq_ok_iff.2 ⟨h.instructionCount, rfl⟩, rfl⟩

/-! ## Decoding -/

theorem counted_string_eq_ok_iff {strings : Array String} {c d : Cursor} :
    c.counted Cursor.string = .ok (strings, d) ↔
      strings.size < UInt32.size ∧ (∀ text ∈ strings, text.utf8ByteSize < UInt32.size) ∧
        c.Passes (LittleEndian.encode 4 strings.size ++ strings.toList.flatMap stringBytes) d :=
  counted_eq_ok_iff Cursor.string_eq_ok_iff

/-- An instruction has no length of its own that would have to fit. -/
theorem counted_instruction_eq_ok_iff {instructions : Array Instruction} {c d : Cursor} :
    c.counted (fun _ => Cursor.instruction) = .ok (instructions, d) ↔
      instructions.size < UInt32.size ∧
        c.Passes (LittleEndian.encode 4 instructions.size ++
          instructions.toList.flatMap Instruction.encode) d := by
  have hread {c d : Cursor} {i : Instruction} :
      c.instruction = .ok (i, d) ↔ True ∧ c.Passes i.encode d := by
    rw [Cursor.instruction_eq_ok_iff, true_and]
  rw [@counted_eq_ok_iff Instruction (fun _ => Cursor.instruction) (fun _ => True)
    Instruction.encode hread]
  simp only [implies_true, true_and]

/-- Bytes are decoded to a program exactly if they are its image. -/
theorem decode_eq_ok_iff {p : Program} {bytes : List UInt8} :
    decode bytes = .ok p ↔ p.Encodable ∧ bytes = p.image := by
  rw [decode, bind_eq_ok_iff]
  constructor
  · rintro ⟨⟨front, afterMagic⟩, hmagic, hbody⟩
    obtain ⟨-, hrest, -⟩ := bytes_eq_ok_iff.1 hmagic
    simp only at hbody
    split at hbody
    · cases hbody
    · rename_i hfront
      obtain ⟨⟨strings, afterStrings⟩, hstrings, hcode⟩ := bind_eq_ok_iff.1 hbody
      obtain ⟨⟨instructions, c⟩, hinstructions, hend⟩ := bind_eq_ok_iff.1 hcode
      obtain ⟨hsize, hsizes, hrestStrings, -⟩ := counted_string_eq_ok_iff.1 hstrings
      obtain ⟨hlength, hrestCode, -⟩ := counted_instruction_eq_ok_iff.1 hinstructions
      simp only at hend
      split at hend
      · cases hend
      · rename_i hnil
        split at hend
        · cases hend
          refine ⟨⟨hsize, hsizes, hlength⟩, ?_⟩
          rw [ne_eq, Decidable.not_not] at hfront hnil
          have hbytes : bytes = front ++ afterMagic.rest := hrest
          rw [hbytes, hfront, hrestStrings, hrestCode, hnil, List.append_nil]
          rfl
        · cases hend
  · rintro ⟨h, rfl⟩
    obtain ⟨afterMagic, hmagic, hbody⟩ := passes_append_iff.1
      (⟨(List.append_nil _).symm, rfl⟩ :
        (Cursor.start p.image).Passes p.image ⟨[], (Cursor.start p.image).offset + _⟩)
    obtain ⟨afterStrings, hstrings, hinstructions⟩ := passes_append_iff.1 hbody
    refine ⟨(magic, afterMagic), bytes_eq_ok_iff.2 ⟨rfl, hmagic⟩, ?_⟩
    simp only [ne_eq, not_true_eq_false, if_false]
    refine bind_eq_ok_iff.2 ⟨(p.strings, afterStrings),
      counted_string_eq_ok_iff.2 ⟨h.stringCount, h.stringLength, hstrings⟩, ?_⟩
    refine bind_eq_ok_iff.2 ⟨(p.instructions, _),
      counted_instruction_eq_ok_iff.2 ⟨h.instructionCount, hinstructions⟩, ?_⟩
    simp only [not_true_eq_false, if_false, dif_pos p.nonempty]

/-- The binary format is a bijection between the programs that fit it and the byte strings that
are accepted, and so it is for single instructions and their 17 bytes. -/
theorem decode_eq_ok_iff_encode_eq_ok :
    (∀ (bytes : List UInt8) (p : Program), decode bytes = .ok p ↔ p.encode = .ok bytes) ∧
    (∀ p : Program, (∃ bytes, p.encode = .ok bytes) ↔
      p.strings.size < UInt32.size ∧ (∀ text ∈ p.strings, text.utf8ByteSize < UInt32.size) ∧
        p.length < UInt32.size) ∧
    (∀ (bytes : Vector UInt8 17) (i : Instruction),
      Instruction.decode bytes.toList = .ok i ↔ i.encode = bytes.toList) ∧
    (∀ i : Instruction, i.encode.length = 17) := by
  refine ⟨fun bytes p => ?_, fun p => ?_, fun bytes i => ?_, Instruction.length_encode⟩
  · rw [decode_eq_ok_iff, encode_eq_ok_iff]
  · simp only [encode_eq_ok_iff, exists_and_left, exists_eq, and_true]
    exact ⟨fun h => ⟨h.stringCount, h.stringLength, h.instructionCount⟩,
      fun ⟨hcount, hlengths, hlength⟩ => ⟨hcount, hlengths, hlength⟩⟩
  · rw [Instruction.decode_eq_ok_iff]
    constructor
    · rintro ⟨rest, hrest⟩
      have hlength : bytes.toList.length = 17 := bytes.length_toList
      rw [hrest, List.length_append, Instruction.length_encode] at hlength
      have hnil : rest = [] := List.eq_nil_of_length_eq_zero (by omega)
      rw [hrest, hnil, List.append_nil]
    · intro h
      exact ⟨[], by rw [h, List.append_nil]⟩

end Program

end RegisterMachine
