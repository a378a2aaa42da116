import RegisterMachine.Assembly.Fault
import RegisterMachine.Instruction

/-!
# Operands in assembly text

A register is the letter `r`, in either case, and its number in decimal digits.

An immediate operand is a decimal or, after `0x`, a hexadecimal numeral of a
word, and in both a plus sign may precede the digits.  It may also be a minus
sign and a decimal numeral up to 2⁶³, which stands for the word that reads so
in two's complement.
-/

namespace RegisterMachine.Assembly

/-- The number of the register that a word names. -/
def register? : List Char → Option UInt64
  | 'r' :: digits => Numeral.word? 10 digits
  | 'R' :: digits => Numeral.word? 10 digits
  | _ => none

/-- The largest magnitude of a negative number in two's complement, 2⁶³. -/
def maxNegated : Nat := 9223372036854775808

/-- The word whose signed reading is the negative of a number up to 2⁶³. -/
def negated? (n : Nat) : Option UInt64 :=
  if n ≤ maxNegated then some (-UInt64.ofNat n) else none

def immediate? : List Char → Option UInt64
  | '0' :: 'x' :: digits => Numeral.word? 16 (Numeral.withoutPlus digits)
  | '0' :: 'X' :: digits => Numeral.word? 16 (Numeral.withoutPlus digits)
  | '-' :: digits => (Numeral.value? 10 digits).bind negated?
  | digits => Numeral.word? 10 (Numeral.withoutPlus digits)

def readRegister (word : List Char) : Except LineFault UInt64 :=
  match register? word with
  | some index => .ok index
  | none => .error (.expectedRegister (String.ofList word))

def readImmediate (word : List Char) : Except LineFault UInt64 :=
  match immediate? word with
  | some value => .ok value
  | none => .error (.invalidImmediate (String.ofList word))

def readOperand : OperandKind → List Char → Except LineFault UInt64
  | .register => readRegister
  | .immediate => readImmediate

theorem register?_registerName (index : UInt64) :
    register? (Instruction.registerName index) = some index := by
  simp [Instruction.registerName, register?]

end RegisterMachine.Assembly
