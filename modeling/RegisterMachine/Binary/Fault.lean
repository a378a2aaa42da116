import RegisterMachine.Numeral

/-!
# Faults of the binary format

The causes for which bytes are no program, and the one for which a program has
no bytes.
-/

namespace RegisterMachine

/-- Why bytes are no program. -/
inductive DecodeFault where
  /-- The first four bytes are not those that every program file begins with. -/
  | badMagic
  /-- A field begins at `offset`, and `needed` bytes are missing at its end. -/
  | unexpectedEnd (offset needed : Nat)
  /-- The byte at `offset` is not the tag of an opcode. -/
  | invalidOpcode (tag : UInt8) (offset : Nat)
  /-- The bytes of the string with this number are not UTF-8. -/
  | invalidUtf8 (index : Nat)
  | trailingBytes (count : Nat)
  | emptyProgram
deriving DecidableEq

def DecodeFault.message : DecodeFault → String
  | .badMagic => "missing RVM magic header"
  | .unexpectedEnd offset needed =>
    s!"unexpected end of input at byte {offset} ({needed} more bytes needed)"
  | .invalidOpcode tag offset =>
    let digits := String.ofList (Numeral.padded 2 (Numeral.hexadecimal tag.toNat))
    s!"invalid opcode 0x{digits} at byte {offset}"
  | .invalidUtf8 index => s!"string {index} is not valid UTF-8"
  | .trailingBytes count => s!"{count} trailing bytes after program"
  | .emptyProgram => "program contains no instructions"

/-- Why a program has no bytes: something is longer than 32 bits can say. -/
structure EncodeFault where
  what : String
  length : Nat
deriving DecidableEq

def EncodeFault.message (fault : EncodeFault) : String :=
  s!"{fault.what} length {fault.length} exceeds the format's u32 limit"

end RegisterMachine
