/-!
# Numerals

Numbers as texts.  Writing gives the shortest form, most significant digit
first.  Reading is more liberal: any number of leading zeros is fine, and a
letter digit may be in either case.  A reader of words refuses a value that
does not fit 64 bits, however it is written.

`value?_toDigits` says that what is written reads back, in every base up to
sixteen, and `value?_isSome_iff` which texts are numerals.
-/

namespace RegisterMachine.Numeral

/-! ## Writing -/

def decimal (n : Nat) : List Char := Nat.toDigits 10 n

/-- The hexadecimal text of a number, with lower-case letters. -/
def hexadecimal (n : Nat) : List Char := Nat.toDigits 16 n

/-- The decimal text of an integer, with a minus sign if it is negative. -/
def signed : Int → List Char
  | .ofNat n => decimal n
  | .negSucc n => '-' :: decimal (n + 1)

/-- Digits with as many zeros before them as it takes to have at least `width`. -/
def padded (width : Nat) (digits : List Char) : List Char :=
  List.replicate (width - digits.length) '0' ++ digits

/-! ## Reading -/

/-- The value of a digit, letters counting from ten on. -/
def digitValue (c : Char) : Option Nat :=
  if '0' ≤ c ∧ c ≤ '9' then some (c.toNat - '0'.toNat)
  else if 'a' ≤ c ∧ c ≤ 'f' then some (c.toNat - 'a'.toNat + 10)
  else if 'A' ≤ c ∧ c ≤ 'F' then some (c.toNat - 'A'.toNat + 10)
  else none

/-- The value of a digit of the given base, which is at most sixteen. -/
def digit? (base : Nat) (c : Char) : Option Nat :=
  (digitValue c).filter (· < base)

def isDigit (base : Nat) (c : Char) : Bool :=
  (digit? base c).isSome

/-- Reads further digits behind a part of value `high`. -/
def extend? (base : Nat) : Nat → List Char → Option Nat
  | high, [] => some high
  | high, c :: cs =>
    match digit? base c with
    | some d => extend? base (base * high + d) cs
    | none => none
termination_by structural _ cs => cs

/-- The value of one or more digits. -/
def value? (base : Nat) : List Char → Option Nat
  | [] => none
  | c :: cs => extend? base 0 (c :: cs)

/-- The value of one or more digits, if it fits a word. -/
def word? (base : Nat) (digits : List Char) : Option UInt64 :=
  match value? base digits with
  | some n => if n < UInt64.size then some (UInt64.ofNat n) else none
  | none => none

/-- A text without the plus sign it may begin with. -/
def withoutPlus : List Char → List Char
  | '+' :: cs => cs
  | cs => cs

/-! ## Which texts are numerals -/

theorem extend?_isSome_iff {base : Nat} {cs : List Char} {high : Nat} :
    (extend? base high cs).isSome = true ↔ ∀ c ∈ cs, isDigit base c = true := by
  induction cs generalizing high with
  | nil => simp [extend?]
  | cons c cs ih =>
    rw [extend?]
    cases h : digit? base c with
    | none => simp [isDigit, h]
    | some d => simp [isDigit, h, ih]

/-- A numeral is a non-empty text of digits. -/
theorem value?_isSome_iff {base : Nat} {cs : List Char} :
    (value? base cs).isSome = true ↔ cs ≠ [] ∧ ∀ c ∈ cs, isDigit base c = true := by
  cases cs with
  | nil => simp [value?]
  | cons c cs => rw [value?, extend?_isSome_iff]; simp

theorem word?_eq_some_iff {base : Nat} {cs : List Char} {w : UInt64} :
    word? base cs = some w ↔ value? base cs = some w.toNat := by
  rw [word?]
  split
  · rename_i n hn
    by_cases h : n < UInt64.size
    · rw [if_pos h, hn, Option.some.injEq, Option.some.injEq]
      constructor
      · rintro rfl; exact (UInt64.toNat_ofNat_of_lt' h).symm
      · rintro rfl; exact UInt64.ofNat_toNat
    · have hw : n ≠ w.toNat := fun e => h (e ▸ w.toNat_lt)
      rw [if_neg h, hn]; simp [hw]
  · rename_i hn; rw [hn]; simp

/-! ## What is written reads back -/

theorem digit?_digitChar {base n : Nat} (hb : base ≤ 16) (hn : n < base) :
    digit? base n.digitChar = some n := by
  have table : ∀ k : Fin 16, digitValue (Nat.digitChar k.val) = some k.val := by decide
  have := table ⟨n, by omega⟩
  simp_all [digit?, Option.filter]

theorem extend?_append {base high : Nat} {cs ds : List Char} :
    extend? base high (cs ++ ds) =
      (extend? base high cs).bind fun middle => extend? base middle ds := by
  induction cs generalizing high with
  | nil => simp [extend?]
  | cons c cs ih =>
    rw [List.cons_append, extend?, extend?]
    cases digit? base c with
    | none => simp
    | some d => exact ih

theorem extend?_toDigits {base : Nat} (h₁ : 1 < base) (h₂ : base ≤ 16) (n : Nat) :
    extend? base 0 (Nat.toDigits base n) = some n := by
  induction n using Nat.strongRecOn with
  | _ n ih =>
    rw [Nat.toDigits_eq_if h₁]
    split
    · rename_i hn
      simp [extend?, digit?_digitChar h₂ hn]
    · rename_i hn
      have hlt : n / base < n := Nat.div_lt_self (by omega) h₁
      rw [extend?_append, ih _ hlt]
      simp [extend?, digit?_digitChar h₂ (Nat.mod_lt n (by omega)), Nat.div_add_mod]

theorem value?_toDigits {base : Nat} (h₁ : 1 < base) (h₂ : base ≤ 16) (n : Nat) :
    value? base (Nat.toDigits base n) = some n := by
  have hne : Nat.toDigits base n ≠ [] := Nat.toDigits_ne_nil
  have := extend?_toDigits h₁ h₂ n
  cases hd : Nat.toDigits base n with
  | nil => exact absurd hd hne
  | cons c cs => rw [hd] at this; exact this

/-- What is written in a base has digits of that base only. -/
theorem isDigit_of_mem_toDigits {base n : Nat} {c : Char} (h₁ : 1 < base) (h₂ : base ≤ 16)
    (hc : c ∈ Nat.toDigits base n) : isDigit base c = true := by
  have h : (value? base (Nat.toDigits base n)).isSome = true := by
    rw [value?_toDigits h₁ h₂]; rfl
  exact (value?_isSome_iff.1 h).2 c hc

theorem value?_decimal (n : Nat) : value? 10 (decimal n) = some n :=
  value?_toDigits (by omega) (by omega) n

theorem value?_hexadecimal (n : Nat) : value? 16 (hexadecimal n) = some n :=
  value?_toDigits (by omega) (by omega) n

theorem isDigit_of_mem_decimal {n : Nat} {c : Char} (h : c ∈ decimal n) : isDigit 10 c = true :=
  isDigit_of_mem_toDigits (by omega) (by omega) h

theorem isDigit_of_mem_hexadecimal {n : Nat} {c : Char} (h : c ∈ hexadecimal n) :
    isDigit 16 c = true :=
  isDigit_of_mem_toDigits (by omega) (by omega) h

@[simp]
theorem word?_decimal (w : UInt64) : word? 10 (decimal w.toNat) = some w :=
  word?_eq_some_iff.2 (value?_decimal w.toNat)

end RegisterMachine.Numeral
