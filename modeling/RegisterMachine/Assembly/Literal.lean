import RegisterMachine.Assembly.Fault
import RegisterMachine.Text.Blank

/-!
# String literals

A string literal is written between quotes.  A backslash begins an escape,
which is a letter or a mark for one character, or a code point in hexadecimal
digits between braces.  Every other character stands for itself, so a literal
has one reading.

Behind the literal there may be a comment and nothing else.
-/

namespace RegisterMachine.Assembly

/-- The character with a code point.  The surrogates have none. -/
def scalar? (n : Nat) : Option Char :=
  if n.isValidChar then some (Char.ofNat n) else none

/-- Reads a code point of one to six digits and the closing brace. -/
def codePoint? (text : List Char) : Option (Char × List Char) :=
  let digits := text.takeWhile (Numeral.isDigit 16)
  match text.dropWhile (Numeral.isDigit 16) with
  | '\x7d' :: rest =>
    if digits.length ≤ 6 then
      ((Numeral.value? 16 digits).bind scalar?).map fun c => (c, rest)
    else none
  | _ => none

/-- Reads what follows the backslash of an escape. -/
def escape? : List Char → Option (Char × List Char)
  | 'n' :: rest => some ('\n', rest)
  | 't' :: rest => some ('\t', rest)
  | 'r' :: rest => some ('\r', rest)
  | '0' :: rest => some ('\x00', rest)
  | '\\' :: rest => some ('\\', rest)
  | '"' :: rest => some ('"', rest)
  | '\x27' :: rest => some ('\x27', rest)
  | 'u' :: '\x7b' :: rest => codePoint? rest
  | _ => none

theorem length_of_codePoint? {text rest : List Char} {c : Char}
    (h : codePoint? text = some (c, rest)) : rest.length < text.length := by
  dsimp only [codePoint?] at h
  split at h
  · rename_i tail htail
    have hle := (List.dropWhile_sublist (l := text) (Numeral.isDigit 16)).length_le
    split at h
    · simp only [Option.map_eq_some_iff, Prod.mk.injEq] at h
      obtain ⟨_, _, _, rfl⟩ := h
      rw [htail, List.length_cons] at hle
      omega
    · simp at h
  · simp at h

theorem length_of_escape? {text rest : List Char} {c : Char}
    (h : escape? text = some (c, rest)) : rest.length < text.length := by
  unfold escape? at h
  split at h
  case h_8 tail =>
    have := length_of_codePoint? h
    simp only [List.length_cons]
    omega
  case h_9 => simp at h
  all_goals
    simp only [Option.some.injEq, Prod.mk.injEq] at h
    simp [← h.2]

/-- Reads the inside of a literal up to its closing quote: the characters it denotes, and
what follows the quote. -/
def body? (text : List Char) : Option (List Char × List Char) :=
  match text with
  | [] => none
  | c :: rest =>
    if c = '"' then some ([], rest)
    else if c = '\\' then
      match h : escape? rest with
      | some (d, tail) =>
        have : tail.length < rest.length := length_of_escape? h
        (body? tail).map fun (denoted, behind) => (d :: denoted, behind)
      | none => none
    else (body? rest).map fun (denoted, behind) => (c :: denoted, behind)
termination_by text.length

/-- Whether a text holds nothing but a comment. -/
def isComment : List Char → Bool
  | [] => true
  | c :: _ => c = ';'

/-- The string of a text that is one literal, with blanks around it and a comment behind. -/
def literal? (text : List Char) : Option String :=
  match Text.trimStart text with
  | '"' :: inside =>
    match body? inside with
    | some (denoted, behind) =>
      if isComment (Text.trimStart behind) then some (String.ofList denoted) else none
    | none => none
  | _ => none

end RegisterMachine.Assembly
