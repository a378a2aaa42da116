import RegisterMachine.Numeral

/-!
# JSON tokens

The tokens of a JSON text: punctuation, the three literal names, numbers and
strings, with blanks between them.  `tokens?` gives all of them, or nothing if
the text holds anything else.

Of a number only the value of an unsigned integer literal is kept.  A string is
kept as code points.  An escape may name half of a surrogate pair, and a string
in which one has no partner is a valid token but has no text (`textOf?`).
-/

namespace RegisterMachine.Json

inductive Token where
  | openObject
  | closeObject
  | openList
  | closeList
  | comma
  | colon
  | null
  | bool
  /-- A number, with its value if it has no sign, no fraction and no exponent. -/
  | number (value : Option Nat)
  /-- A string, as code points and surrogates. -/
  | string (units : List Nat)
deriving DecidableEq

/-! ## Strings -/

/-- The code point of a one-letter escape. -/
def shortEscape? : Char → Option Nat
  | '"' => some 0x22
  | '\\' => some 0x5c
  | '/' => some 0x2f
  | 'b' => some 0x08
  | 'f' => some 0x0c
  | 'n' => some 0x0a
  | 'r' => some 0x0d
  | 't' => some 0x09
  | _ => none

/-- Reads a string from behind its opening quote: its units, and what follows it.  Control
characters have to be escaped. -/
def units? : List Char → Option (List Nat × List Char)
  | [] => none
  | '"' :: rest => some ([], rest)
  | '\\' :: 'u' :: a :: b :: c :: d :: rest =>
    match Numeral.value? 16 [a, b, c, d], units? rest with
    | some unit, some (units, behind) => some (unit :: units, behind)
    | _, _ => none
  | '\\' :: letter :: rest =>
    match shortEscape? letter, units? rest with
    | some unit, some (units, behind) => some (unit :: units, behind)
    | _, _ => none
  | c :: rest =>
    if c = '\\' ∨ c.toNat < 0x20 then none
    else
      match units? rest with
      | some (units, behind) => some (c.toNat :: units, behind)
      | none => none

/-- The code point of a pair of surrogates. -/
def pair (high low : Nat) : Nat := 0x10000 + (high - 0xd800) * 0x400 + (low - 0xdc00)

/-- Whether a unit is the first of a pair of surrogates. -/
def isHigh (unit : Nat) : Bool := 0xd800 ≤ unit && unit < 0xdc00

/-- Whether a unit is the second of a pair of surrogates. -/
def isLow (unit : Nat) : Bool := 0xdc00 ≤ unit && unit < 0xe000

/-- The text of some units, in which every surrogate has to be one of a pair. -/
def textOf? : List Nat → Option (List Char)
  | [] => some []
  | [unit] => if isHigh unit || isLow unit then none else some [Char.ofNat unit]
  | unit :: next :: rest =>
    if isHigh unit then
      if isLow next then (textOf? rest).map (Char.ofNat (pair unit next) :: ·) else none
    else if isLow unit then none
    else (textOf? (next :: rest)).map (Char.ofNat unit :: ·)

/-! ## Numbers -/

def isDigit (c : Char) : Bool := Numeral.isDigit 10 c

/-- Reads one or more digits: the digits, and what follows them. -/
def digits? (text : List Char) : Option (List Char × List Char) :=
  let digits := text.takeWhile isDigit
  if digits.isEmpty then none else some (digits, text.dropWhile isDigit)

/-- Reads an integer part: zero, or digits that do not begin with zero. -/
def integer? (text : List Char) : Option (List Char × List Char) :=
  match digits? text with
  | some (['0'], rest) => some (['0'], rest)
  | some ('0' :: _, _) => none
  | read => read

/-- What follows a fraction, or the text itself if there is none. -/
def afterFraction? : List Char → Option (List Char)
  | '.' :: rest => (digits? rest).map Prod.snd
  | text => some text

/-- A text without the sign it may begin with. -/
def withoutSign : List Char → List Char
  | '+' :: rest => rest
  | '-' :: rest => rest
  | text => text

/-- What follows an exponent, or the text itself if there is none. -/
def afterExponent? : List Char → Option (List Char)
  | 'e' :: rest => (digits? (withoutSign rest)).map Prod.snd
  | 'E' :: rest => (digits? (withoutSign rest)).map Prod.snd
  | text => some text

/-- Reads an unsigned number: its value if it is an integer literal, and what follows it. -/
def unsigned? (text : List Char) : Option (Option Nat × List Char) :=
  match integer? text with
  | none => none
  | some (digits, behind) =>
    match (afterFraction? behind).bind afterExponent? with
    | none => none
    | some rest =>
      let value := if rest.length = behind.length then Numeral.value? 10 digits else none
      some (value, rest)

def number? : List Char → Option (Token × List Char)
  | '-' :: text => (unsigned? text).map fun (_, rest) => (.number none, rest)
  | text => (unsigned? text).map fun (value, rest) => (.number value, rest)

/-! ## Tokens -/

/-- Reads the token that a text begins with, and gives what follows it. -/
def token? : List Char → Option (Token × List Char)
  | '\x7b' :: rest => some (.openObject, rest)
  | '\x7d' :: rest => some (.closeObject, rest)
  | '[' :: rest => some (.openList, rest)
  | ']' :: rest => some (.closeList, rest)
  | ',' :: rest => some (.comma, rest)
  | ':' :: rest => some (.colon, rest)
  | '"' :: rest => (units? rest).map fun (units, behind) => (.string units, behind)
  | 'n' :: 'u' :: 'l' :: 'l' :: rest => some (.null, rest)
  | 't' :: 'r' :: 'u' :: 'e' :: rest => some (.bool, rest)
  | 'f' :: 'a' :: 'l' :: 's' :: 'e' :: rest => some (.bool, rest)
  | text => number? text

/-- Whether a character may stand between tokens. -/
def isBlank (c : Char) : Bool := c = ' ' || c = '\t' || c = '\n' || c = '\r'

/-! ## A token is not empty -/

theorem length_of_units? {text rest : List Char} {units : List Nat}
    (h : units? text = some (units, rest)) : rest.length ≤ text.length := by
  fun_induction units? text generalizing units rest with
  | case2 => simp_all
  | case3 a b c d tail unit tailUnits behind hread _ ih
  | case5 letter tail _ unit tailUnits behind hread _ ih
  | case8 c tail _ _ _ _ tailUnits behind hread ih =>
    simp only [Option.some.injEq, Prod.mk.injEq] at h
    have := ih (by assumption)
    simp only [List.length_cons, ← h.2]
    omega
  | case1 | case4 | case6 | case7 | case9 => simp at h

theorem length_of_digits? {text digits rest : List Char} (h : digits? text = some (digits, rest)) :
    rest.length < text.length := by
  dsimp only [digits?] at h
  split at h
  · simp at h
  · rename_i hd
    simp only [Option.some.injEq, Prod.mk.injEq] at h
    have hsum := congrArg List.length (List.takeWhile_append_dropWhile (p := isDigit) (l := text))
    rw [List.length_append] at hsum
    have hpos : 0 < (text.takeWhile isDigit).length := by
      rw [List.length_pos_iff]; simpa using hd
    rw [← h.2]
    omega

theorem length_of_integer? {text digits rest : List Char}
    (h : integer? text = some (digits, rest)) : rest.length < text.length := by
  unfold integer? at h
  split at h
  · rename_i hd
    simp only [Option.some.injEq, Prod.mk.injEq] at h
    exact h.2 ▸ length_of_digits? hd
  · simp at h
  · exact length_of_digits? h

theorem length_of_afterFraction? {text rest : List Char} (h : afterFraction? text = some rest) :
    rest.length ≤ text.length := by
  unfold afterFraction? at h
  split at h
  · obtain ⟨⟨digits, _⟩, hd, rfl⟩ := Option.map_eq_some_iff.1 h
    have := length_of_digits? hd
    simp only [List.length_cons]
    omega
  · simp_all

theorem length_withoutSign (text : List Char) : (withoutSign text).length ≤ text.length := by
  unfold withoutSign
  split <;> simp

theorem length_of_afterExponent? {text rest : List Char} (h : afterExponent? text = some rest) :
    rest.length ≤ text.length := by
  unfold afterExponent? at h
  split at h
  iterate 2
    rename_i tail
    obtain ⟨⟨digits, _⟩, hd, rfl⟩ := Option.map_eq_some_iff.1 h
    have := length_of_digits? hd
    have := length_withoutSign tail
    simp only [List.length_cons]
    omega
  simp_all

theorem length_of_unsigned? {text rest : List Char} {value : Option Nat}
    (h : unsigned? text = some (value, rest)) : rest.length < text.length := by
  unfold unsigned? at h
  split at h
  · simp at h
  · rename_i digits behind hi
    split at h
    · simp at h
    · rename_i tail ht
      obtain ⟨middle, hf, he⟩ := Option.bind_eq_some_iff.1 ht
      simp only [Option.some.injEq, Prod.mk.injEq] at h
      have h₁ := length_of_integer? hi
      have h₂ := length_of_afterFraction? hf
      have h₃ := length_of_afterExponent? he
      rw [← h.2]
      omega

theorem length_of_number? {text rest : List Char} {token : Token}
    (h : number? text = some (token, rest)) : rest.length < text.length := by
  unfold number? at h
  split at h <;> obtain ⟨⟨value, _⟩, hu, hr⟩ := Option.map_eq_some_iff.1 h <;>
    simp only [Prod.mk.injEq] at hr <;> have := length_of_unsigned? hu
  · simp only [← hr.2, List.length_cons]
    omega
  · rw [← hr.2]
    exact this

theorem length_of_token? {text rest : List Char} {token : Token}
    (h : token? text = some (token, rest)) : rest.length < text.length := by
  unfold token? at h
  split at h
  case h_7 tail =>
    obtain ⟨⟨units, _⟩, hu, hr⟩ := Option.map_eq_some_iff.1 h
    simp only [Prod.mk.injEq] at hr
    have := length_of_units? hu
    simp only [← hr.2, List.length_cons]
    omega
  case h_11 => exact length_of_number? h
  all_goals
    simp only [Option.some.injEq, Prod.mk.injEq] at h
    simp only [← h.2, List.length_cons]
    omega

def tokens? (text : List Char) : Option (List Token) :=
  match text with
  | [] => some []
  | c :: cs =>
    if isBlank c then tokens? cs
    else
      match h : token? (c :: cs) with
      | some (token, rest) =>
        have : rest.length ≤ cs.length := Nat.le_of_lt_succ (length_of_token? h)
        (tokens? rest).map (token :: ·)
      | none => none
termination_by text.length

end RegisterMachine.Json
