import RegisterMachine.Program

/-!
# Sample programs

Two programs that take their arguments as immediate operands.  The machine has
no subtraction, so they count down by adding the word of minus one.

`fibonacciValue` is what the first one computes, stated without the machine.
-/

namespace RegisterMachine.Sample

open Instruction

/-- The word that takes one away when it is added. -/
def minusOne : UInt64 := 0xffffffffffffffff

def fibonacciRegisters : Nat := 4

def multiplicationRegisters : Nat := 3

/-- Computes a Fibonacci number.  Registers 0 and 1 hold two neighbours, register 2 counts
down, and register 3 is for the exchange. -/
def fibonacci (n : UInt64) : Program where
  instructions :=
    #[setc 0 0,
      setc 1 1,
      setc 2 n,
      eqc 2 0,
      jmpc 6,
      set 3 0,
      add 3 1,
      set 0 1,
      set 1 3,
      addc 2 minusOne,
      jmpc (-7),
      ret 0]
  strings := #[]
  nonempty := by simp

/-- Multiplies by repeated addition.  Register 0 holds the sum, register 1 the summand, and
register 2 counts down. -/
def multiplication (a b : UInt64) : Program where
  instructions :=
    #[setc 0 0,
      setc 1 a,
      setc 2 b,
      eqc 2 0,
      jmpc 3,
      add 0 1,
      addc 2 minusOne,
      jmpc (-4),
      ret 0]
  strings := #[]
  nonempty := by simp

/-- The first of two neighbours after the given number of steps along the Fibonacci numbers,
modulo 2⁶⁴. -/
def fibonacciFrom : (steps : Nat) → UInt64 → UInt64 → UInt64
  | 0, a, _ => a
  | steps + 1, a, b => fibonacciFrom steps b (a + b)

/-- The Fibonacci number of an index, modulo 2⁶⁴. -/
def fibonacciValue (n : UInt64) : UInt64 := fibonacciFrom n.toNat 0 1

end RegisterMachine.Sample
