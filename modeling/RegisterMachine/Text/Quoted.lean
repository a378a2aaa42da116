import RegisterMachine.Numeral
import RegisterMachine.Text.DefaultIgnorable
import RegisterMachine.Text.ExtendingMark
import RegisterMachine.Text.Unprintable

/-!
# Quoted text

A text between quotes, in which nothing is left that a reader could not see or
that would end the quotation.  Quotes and backslashes are marked by a
backslash, four control characters have a letter of their own, and every other
character that does not show by itself is written by its code point.
-/

namespace RegisterMachine.Text

def inRanges (ranges : List (Nat × Nat)) (n : Nat) : Bool :=
  ranges.any fun (first, last) => first ≤ n && n ≤ last

/-- Whether a character does not show by itself: it is a mark on the character before it, is
ignored by default, or does not print.  All ASCII characters from the space to the tilde show. -/
def isHidden (c : Char) : Bool :=
  let n := c.toNat
  if 0x20 ≤ n ∧ n ≤ 0x7e then false
  else inRanges extendingMarks n || inRanges defaultIgnorable n || inRanges unprintable n

/-- A character within quotes. -/
def quotedChar (c : Char) : List Char :=
  if c = '"' then ['\\', '"']
  else if c = '\\' then ['\\', '\\']
  else if c = '\n' then ['\\', 'n']
  else if c = '\r' then ['\\', 'r']
  else if c = '\t' then ['\\', 't']
  else if c = '\x00' then ['\\', '0']
  else if isHidden c then ['\\', 'u', '\x7b'] ++ Numeral.hexadecimal c.toNat ++ ['\x7d']
  else [c]

def quoted (text : List Char) : List Char :=
  '"' :: (text.flatMap quotedChar ++ ['"'])

def quote (text : String) : String := String.ofList (quoted text.toList)

end RegisterMachine.Text
