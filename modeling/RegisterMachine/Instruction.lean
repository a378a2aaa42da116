import RegisterMachine.Opcode
import RegisterMachine.Numeral
import RegisterMachine.Jump

/-!
# Instructions

An instruction is an opcode and two words, its left and its right field.  The
left field numbers the destination register, the right field is the operand or
the register that holds it.  An opcode that does not read a field leaves it
free, and a program in binary form may hold anything there.  `canonical` puts
zero into such fields.  The text of an instruction never shows them
(`text_canonical`).

The section of constructors has one for each opcode, named for its mnemonic.
-/

namespace RegisterMachine

/-- An opcode with its two fields. -/
structure Instruction where
  opcode : Opcode
  /-- The destination register, if the opcode has one. -/
  lhs : UInt64
  /-- The operand, or the register that holds it, if the opcode has one. -/
  rhs : UInt64
deriving DecidableEq

namespace Instruction

/-! ## Constructors -/

/-- An operation on a destination register. -/
def binary (operation : Operation) (kind : OperandKind) (lhs rhs : UInt64) : Instruction :=
  ⟨.op operation kind, lhs, rhs⟩

/-- An operation without a destination register. -/
def unary (operation : Operation) (kind : OperandKind) (rhs : UInt64) : Instruction :=
  ⟨.op operation kind, 0, rhs⟩

def add (lhs rhs : UInt64) : Instruction := binary .add .register lhs rhs

def addc (lhs value : UInt64) : Instruction := binary .add .immediate lhs value

def div (lhs rhs : UInt64) : Instruction := binary .div .register lhs rhs

def divc (lhs value : UInt64) : Instruction := binary .div .immediate lhs value

def eq (lhs rhs : UInt64) : Instruction := binary .eq .register lhs rhs

def eqc (lhs value : UInt64) : Instruction := binary .eq .immediate lhs value

def jmp (rhs : UInt64) : Instruction := unary .jmp .register rhs

/-- Jumps by a signed displacement. -/
def jmpc (displacement : Int64) : Instruction := unary .jmp .immediate displacement.toUInt64

def mod (lhs rhs : UInt64) : Instruction := binary .mod .register lhs rhs

def modc (lhs value : UInt64) : Instruction := binary .mod .immediate lhs value

def mul (lhs rhs : UInt64) : Instruction := binary .mul .register lhs rhs

def mulc (lhs value : UInt64) : Instruction := binary .mul .immediate lhs value

def nop : Instruction := ⟨.nop, 0, 0⟩

def print (rhs : UInt64) : Instruction := unary .print .register rhs

def printc (string : UInt64) : Instruction := unary .print .immediate string

def ret (rhs : UInt64) : Instruction := unary .ret .register rhs

def retc (value : UInt64) : Instruction := unary .ret .immediate value

def set (lhs rhs : UInt64) : Instruction := binary .set .register lhs rhs

def setc (lhs value : UInt64) : Instruction := binary .set .immediate lhs value

/-! ## Fields that are read -/

def destination? (i : Instruction) : Option UInt64 :=
  match i.opcode.shape with
  | .binary => some i.lhs
  | .unary | .nullary => none

/-- The register that holds the operand, if a register does. -/
def source? (i : Instruction) : Option UInt64 :=
  match i.opcode.kind with
  | .register => some i.rhs
  | .immediate => none

/-- The registers that an instruction names, the destination first. -/
def registersNamed (i : Instruction) : List UInt64 :=
  i.destination?.toList ++ i.source?.toList

/-- The same instruction with zero in every field that its opcode does not read. -/
def canonical (i : Instruction) : Instruction :=
  match i.opcode.shape with
  | .binary => i
  | .unary => { i with lhs := 0 }
  | .nullary => { i with lhs := 0, rhs := 0 }

/-! ## Text -/

/-- The name of a register in assembly text. -/
def registerName (index : UInt64) : List Char :=
  'r' :: Numeral.decimal index.toNat

/-- The operand in assembly text.  Of the immediate operands, only a jump's is signed. -/
def operandText (i : Instruction) : List Char :=
  match i.opcode with
  | .op .jmp .immediate => Numeral.signed (displacement i.rhs)
  | .op _ .register => registerName i.rhs
  | _ => Numeral.decimal i.rhs.toNat

def fieldTexts (i : Instruction) : List (List Char) :=
  match i.opcode.shape with
  | .binary => [registerName i.lhs, i.operandText]
  | .unary => [i.operandText]
  | .nullary => []

/-- The mnemonic, and the texts of the fields that the opcode reads. -/
def words (i : Instruction) : List (List Char) :=
  i.opcode.mnemonic.toList :: i.fieldTexts

/-- An instruction in assembly text, with one space between its words. -/
def text (i : Instruction) : List Char :=
  [' '].intercalate i.words

@[simp]
theorem canonical_opcode (i : Instruction) : i.canonical.opcode = i.opcode := by
  unfold canonical; split <;> rfl

@[simp]
theorem canonical_canonical (i : Instruction) : i.canonical.canonical = i.canonical := by
  rcases i with ⟨_ | ⟨operation, kind⟩, lhs, rhs⟩
  · rfl
  · cases operation <;> rfl

@[simp]
theorem text_canonical (i : Instruction) : i.canonical.text = i.text := by
  rcases i with ⟨_ | ⟨operation, kind⟩, lhs, rhs⟩
  · rfl
  · cases operation <;> rfl

end Instruction

end RegisterMachine
