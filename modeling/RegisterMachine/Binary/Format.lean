import RegisterMachine.Binary.Cursor
import RegisterMachine.Program

/-!
# The binary format

A program in binary form is the magic bytes, the counted strings of the pool
and the counted instructions.  A string is its length in bytes and its UTF-8
bytes, an instruction its tag and its two words.  Counts and lengths have 32
bits, words 64, all little-endian.

Fields that an opcode does not read are stored like the others, and nothing may
follow the last instruction.
-/

namespace RegisterMachine

/-- The bytes that every program file begins with. -/
def magic : List UInt8 := [0x52, 0x56, 0x4d, 0x01]

/-! ## Encoding -/

/-- The 17 bytes of an instruction. -/
def Instruction.encode (i : Instruction) : List UInt8 :=
  i.opcode.tag :: (LittleEndian.encode 8 i.lhs.toNat ++ LittleEndian.encode 8 i.rhs.toNat)

/-- The 32 bits of a count or a length. -/
def encodeLength (what : String) (length : Nat) : Except EncodeFault (List UInt8) :=
  if length < UInt32.size then .ok (LittleEndian.encode 4 length) else .error ⟨what, length⟩

def utf8 (text : String) : List UInt8 := text.toUTF8.data.toList

/-- The strings of a pool, one after the other. -/
def encodeStrings : List String → Except EncodeFault (List UInt8)
  | [] => .ok []
  | text :: texts =>
    (encodeLength "string" text.utf8ByteSize).bind fun length =>
    (encodeStrings texts).map fun rest => length ++ utf8 text ++ rest

def Program.encode (p : Program) : Except EncodeFault (List UInt8) :=
  (encodeLength "string pool" p.strings.size).bind fun stringCount =>
  (encodeStrings p.strings.toList).bind fun strings =>
  (encodeLength "instruction list" p.length).map fun instructionCount =>
  magic ++ stringCount ++ strings ++ instructionCount ++
    p.instructions.toList.flatMap Instruction.encode

/-! ## Decoding -/

/-- The instruction of 17 bytes.  Bytes behind them do not count. -/
def Instruction.decode (bytes : List UInt8) : Except DecodeFault Instruction :=
  (Cursor.start bytes).instruction.map Prod.fst

def Program.decode (bytes : List UInt8) : Except DecodeFault Program :=
  ((Cursor.start bytes).bytes magic.length).bind fun (front, c) =>
  if front ≠ magic then .error .badMagic
  else
    (c.counted Cursor.string).bind fun (strings, c) =>
    (c.counted fun _ => Cursor.instruction).bind fun (instructions, c) =>
    if c.rest ≠ [] then .error (.trailingBytes c.rest.length)
    else if h : 0 < instructions.size then .ok ⟨instructions, strings, h⟩
    else .error .emptyProgram

end RegisterMachine
