import RegisterMachine.Numeral

/-!
# Command line arguments

Arguments are operands and options in any order.  An option is two hyphens and a
name.  One that takes a value has it behind an equals sign or as the next
argument, and then the value may not look like an option.  The argument `--`
ends the options, and all that follow it are operands.

Anything else that begins with a hyphen is a misuse, and so is an option that is
given more often than it may be.  A misuse is `none`.
-/

namespace RegisterMachine

/-- Whether an option takes a value. -/
inductive OptionKind where
  | flag
  | valued
deriving DecidableEq

/-- Operands, and options with their values, in the order of the command line. -/
structure Arguments where
  operands : List String := []
  /-- The options, a flag with the empty value. -/
  options : List (String × String) := []
deriving DecidableEq

namespace Arguments

/-- An argument, by what it looks like. -/
inductive Look where
  | terminator
  /-- An option, with the value attached to it if there is one. -/
  | option (name : String) (attached : Option String)
  /-- Any other argument that begins with a hyphen. -/
  | hyphenated
  | operand
deriving DecidableEq

/-- What an argument looks like.  A hyphen alone is an operand. -/
def look (argument : String) : Look :=
  match argument.toList with
  | ['-', '-'] => .terminator
  | '-' :: '-' :: option =>
    let name := String.ofList (option.takeWhile (· ≠ '='))
    match option.dropWhile (· ≠ '=') with
    | [] => .option name none
    | _ :: value => .option name (some (String.ofList value))
  | '-' :: _ :: _ => .hyphenated
  | _ => .operand

/-- Arguments with one more operand before them. -/
def addOperand (operand : String) (arguments : Arguments) : Arguments :=
  { arguments with operands := operand :: arguments.operands }

/-- Arguments with one more option before them. -/
def addOption (name value : String) (arguments : Arguments) : Arguments :=
  { arguments with options := (name, value) :: arguments.options }

/-- Sorts arguments, given the kinds of the options that there are. -/
def scan (kind : String → Option OptionKind) : List String → Option Arguments
  | [] => some {}
  | argument :: rest =>
    match look argument with
    | .terminator => some { operands := rest }
    | .hyphenated => none
    | .operand => (scan kind rest).map (addOperand argument)
    | .option name attached =>
      match kind name, attached with
      | none, _ => none
      | some .flag, some _ => none
      | some .flag, none => (scan kind rest).map (addOption name "")
      | some .valued, some value => (scan kind rest).map (addOption name value)
      | some .valued, none =>
        match rest with
        | [] => none
        | value :: rest =>
          if look value = .operand then (scan kind rest).map (addOption name value) else none
termination_by structural arguments => arguments

def values (arguments : Arguments) (name : String) : List String :=
  (arguments.options.filter fun option => option.1 = name).map Prod.snd

/-- The value of an option that may be given once. -/
def single? {α : Type} (arguments : Arguments) (name : String) (read : String → Option α) :
    Option (Option α) :=
  match arguments.values name with
  | [] => some none
  | [value] => (read value).map some
  | _ => none

/-- Whether a flag that may be given once is given. -/
def flag? (arguments : Arguments) (name : String) : Option Bool :=
  match arguments.values name with
  | [] => some false
  | [_] => some true
  | _ => none

/-- Reads a word in decimal digits, which a plus sign may precede. -/
def word? (text : String) : Option UInt64 := Numeral.word? 10 (Numeral.withoutPlus text.toList)

/-- Reads a path, which is not empty. -/
def path? (text : String) : Option String := if text = "" then none else some text

end Arguments

end RegisterMachine
