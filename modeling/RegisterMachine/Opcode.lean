/-!
# Opcodes

The machine has ten operations.  Nine of them take an operand, and come in two
forms that differ only in where the operand is read from: the plain form names
a register, the constant form holds the word itself.  With `nop`, which takes
no operand, that makes nineteen opcodes.

Each opcode has a tag, which the binary format stores, and a mnemonic, which
assembly text uses.  `Opcode.ofTag?_eq_some_iff` says that a tag and its opcode
determine each other, `Opcode.ofMnemonic?_mnemonic` that the mnemonics are told
apart.
-/

namespace RegisterMachine

/-! ## Operations, operands and shapes -/

/-- What an instruction with an operand does with it. -/
inductive Operation where
  /-- Adds the operand to the destination, modulo 2⁶⁴. -/
  | add
  /-- Divides the destination by the operand. -/
  | div
  /-- Falls through if the destination equals the operand, else skips one instruction. -/
  | eq
  /-- Jumps by the operand. -/
  | jmp
  /-- Leaves the remainder of the destination by the operand. -/
  | mod
  /-- Multiplies the destination by the operand, modulo 2⁶⁴. -/
  | mul
  /-- Prints the string of the pool that the operand numbers. -/
  | print
  /-- Halts with the operand as the result. -/
  | ret
  /-- Copies the operand to the destination. -/
  | set
deriving DecidableEq

/-- Where an instruction reads its operand. -/
inductive OperandKind where
  /-- The right field numbers a register, which holds the operand. -/
  | register
  /-- The right field is the operand. -/
  | immediate
deriving DecidableEq

/-- Which of its two fields an instruction reads. -/
inductive Shape where
  | binary
  | unary
  | nullary
deriving DecidableEq

/-- The number of operands that assembly text writes for a shape. -/
def Shape.arity : Shape → Nat
  | .binary => 2
  | .unary => 1
  | .nullary => 0

/-- The name of an operation in assembly text. -/
def Operation.name : Operation → String
  | .add => "add"
  | .div => "div"
  | .eq => "eq"
  | .jmp => "jmp"
  | .mod => "mod"
  | .mul => "mul"
  | .print => "print"
  | .ret => "ret"
  | .set => "set"

/-- Jumps, prints and returns have no destination register. -/
def Operation.shape : Operation → Shape
  | .jmp | .print | .ret => .unary
  | .add | .div | .eq | .mod | .mul | .set => .binary

/-! ## Opcodes -/

/-- An opcode: nothing to do, or an operation and where its operand is read. -/
inductive Opcode where
  | nop
  /-- Performs an operation on an operand of the given kind. -/
  | op (operation : Operation) (kind : OperandKind)
deriving DecidableEq

namespace Opcode

/-- All opcodes, in the order of their tags. -/
def all : List Opcode :=
  [.op .add .register, .op .add .immediate, .op .div .register, .op .div .immediate,
   .op .eq .register, .op .eq .immediate, .op .jmp .register, .op .jmp .immediate,
   .op .mod .register, .op .mod .immediate, .op .mul .register, .op .mul .immediate,
   .nop, .op .print .register, .op .print .immediate, .op .ret .register,
   .op .ret .immediate, .op .set .register, .op .set .immediate]

/-- The byte that stands for an opcode in the binary format. -/
def tag : Opcode → UInt8
  | .op .add .register => 0
  | .op .add .immediate => 1
  | .op .div .register => 2
  | .op .div .immediate => 3
  | .op .eq .register => 4
  | .op .eq .immediate => 5
  | .op .jmp .register => 6
  | .op .jmp .immediate => 7
  | .op .mod .register => 8
  | .op .mod .immediate => 9
  | .op .mul .register => 10
  | .op .mul .immediate => 11
  | .nop => 12
  | .op .print .register => 13
  | .op .print .immediate => 14
  | .op .ret .register => 15
  | .op .ret .immediate => 16
  | .op .set .register => 17
  | .op .set .immediate => 18

/-- The opcode of a tag; tags from 19 on stand for none. -/
def ofTag? (tag : UInt8) : Option Opcode :=
  all[tag.toNat]?

/-- The name of an opcode in assembly text; the constant form adds the letter `c`. -/
def mnemonic : Opcode → String
  | .nop => "nop"
  | .op operation .register => operation.name
  | .op operation .immediate => operation.name ++ "c"

/-- The opcode of a mnemonic, in which the case of ASCII letters does not count. -/
def ofMnemonic? (name : List Char) : Option Opcode :=
  all.find? fun opcode => opcode.mnemonic.toList = name.map Char.toLower

/-- How the right field is read.  It is never read for `nop`. -/
def kind : Opcode → OperandKind
  | .nop => .immediate
  | .op _ kind => kind

def shape : Opcode → Shape
  | .nop => .nullary
  | .op operation _ => operation.shape

def isHalt : Opcode → Bool
  | .op .ret _ => true
  | _ => false

/-! ## Tags and mnemonics name opcodes -/

theorem mem_all (opcode : Opcode) : opcode ∈ all := by
  rcases opcode with _ | ⟨operation, kind⟩
  · decide
  · cases operation <;> cases kind <;> decide

@[simp]
theorem ofTag?_tag (opcode : Opcode) : ofTag? opcode.tag = some opcode := by
  rcases opcode with _ | ⟨operation, kind⟩
  · decide
  · cases operation <;> cases kind <;> decide

/-- A tag in the table is the tag of its entry. -/
theorem tag_of_getElem?_all {n : Nat} {opcode : Opcode} (h : all[n]? = some opcode) :
    opcode.tag.toNat = n := by
  have hn : n < 19 := (List.getElem?_eq_some_iff.1 h).1
  have table : ∀ k : Fin 19, (all[k.val]?).map (fun o => o.tag.toNat) = some k.val := by decide
  have := table ⟨n, hn⟩
  simpa [h] using this

theorem ofTag?_eq_some_iff {tag : UInt8} {opcode : Opcode} :
    ofTag? tag = some opcode ↔ opcode.tag = tag := by
  refine ⟨fun h => ?_, fun h => h ▸ ofTag?_tag opcode⟩
  exact UInt8.toNat_inj.1 (tag_of_getElem?_all h)

theorem ofTag?_eq_none_iff {tag : UInt8} : ofTag? tag = none ↔ 19 ≤ tag.toNat := by
  simp [ofTag?, all]

theorem ofMnemonic?_mnemonic (opcode : Opcode) :
    ofMnemonic? opcode.mnemonic.toList = some opcode := by
  rcases opcode with _ | ⟨operation, kind⟩
  · decide
  · cases operation <;> cases kind <;> decide

/-- Only the two forms of `ret` end a run. -/
theorem isHalt_iff {opcode : Opcode} : opcode.isHalt = true ↔ ∃ kind, opcode = .op .ret kind := by
  rcases opcode with _ | ⟨operation, kind⟩
  · simp [isHalt]
  · cases operation <;> simp [isHalt]

end Opcode

end RegisterMachine
