import RegisterMachine.Numeral
import Mathlib.Data.List.Basic
import Mathlib.Data.Nat.Digits.Defs
import Mathlib.Tactic.SplitIfs

/-!
# The value of a numeral

Reading digits one after the other gives the number that they stand for, and it
gives one for each non-empty text of digits (`value?_eq_some_iff`).  For decimal
digits that number is the one the core library reads (`valueOf_ten`), and the
digits are the ASCII ones (`isDigit_ten_iff`).  The sixteen hexadecimal digits are
given by a table in the order of their values (`digit?_sixteen`), and several of them
stand for a number in positional notation (`valueOf_sixteen`).

A plus sign before the digits and zeros in front of them do not change what is read
(`word?_withoutPlus_eq_some_iff`, `value?_zeros`).
-/

namespace RegisterMachine.Numeral

/-- The number that digits stand for behind a part of value `high`. -/
def valueFrom (base high : Nat) (digits : List Char) : Nat :=
  digits.foldl (fun high c => base * high + (digitValue c).getD 0) high

/-- The number that digits stand for, the most significant one first. -/
def valueOf (base : Nat) (digits : List Char) : Nat := valueFrom base 0 digits

theorem digit?_eq_some_iff {base d : Nat} {c : Char} :
    digit? base c = some d ↔ digitValue c = some d ∧ d < base := by
  rw [digit?, Option.filter_eq_some_iff, decide_eq_true_eq]

theorem extend?_eq_some_iff {base high n : Nat} {cs : List Char} :
    extend? base high cs = some n ↔
      (∀ c ∈ cs, isDigit base c = true) ∧ valueFrom base high cs = n := by
  induction cs generalizing high with
  | nil => simp [extend?, valueFrom]
  | cons c cs ih =>
    rw [extend?, List.forall_mem_cons]
    cases hc : digit? base c with
    | none => simp [isDigit, hc]
    | some d =>
      have hvalue : (digitValue c).getD 0 = d := by
        rw [(digit?_eq_some_iff.1 hc).1, Option.getD_some]
      simp [isDigit, hc, ih, valueFrom, hvalue]

/-- A numeral is a non-empty text of digits, and it is read as what these stand for. -/
theorem value?_eq_some_iff {base n : Nat} {cs : List Char} :
    value? base cs = some n ↔
      cs ≠ [] ∧ (∀ c ∈ cs, isDigit base c = true) ∧ valueOf base cs = n := by
  cases cs with
  | nil => simp [value?]
  | cons c cs => rw [value?, extend?_eq_some_iff, valueOf]; simp

/-! ## Decimal digits -/

theorem isDigit_iff_le {c : Char} : c.isDigit = true ↔ '0' ≤ c ∧ c ≤ '9' := by
  rw [Char.isDigit, Bool.and_eq_true, decide_eq_true_eq, decide_eq_true_eq]
  exact Iff.rfl

theorem digitValue_of_isDigit {c : Char} (h : c.isDigit = true) :
    digitValue c = some (c.toNat - '0'.toNat) := by
  rw [digitValue, if_pos (isDigit_iff_le.1 h)]

/-- The decimal digits are the ASCII ones. -/
theorem isDigit_ten_iff {c : Char} : isDigit 10 c = true ↔ c.isDigit = true := by
  rw [isDigit, Option.isSome_iff_exists]
  simp only [digit?_eq_some_iff]
  constructor
  · rintro ⟨d, hd, hlt⟩
    rw [digitValue] at hd
    split_ifs at hd with hdecimal hlower hupper
    · exact isDigit_iff_le.2 hdecimal
    · -- A letter digit counts ten or more.
      cases hd
      omega
    · cases hd
      omega
  · intro h
    have hlow := Char.isDigit_iff_toNat.1 h
    refine ⟨_, digitValue_of_isDigit h, ?_⟩
    have hzero : '0'.toNat = 48 := rfl
    have hnine : '9'.toNat = 57 := rfl
    omega

theorem valueFrom_ten {digits : List Char} (h : ∀ c ∈ digits, c.isDigit = true) (high : Nat) :
    valueFrom 10 high digits = Nat.ofDigitChars 10 digits high := by
  induction digits generalizing high with
  | nil => rfl
  | cons c digits ih =>
    obtain ⟨hc, hdigits⟩ := List.forall_mem_cons.1 h
    have hvalue : (digitValue c).getD 0 = c.toNat - '0'.toNat := by
      rw [digitValue_of_isDigit hc, Option.getD_some]
    show valueFrom 10 (10 * high + (digitValue c).getD 0) digits = _
    rw [hvalue, ih hdigits]
    rfl

theorem valueOf_ten {digits : List Char} (h : ∀ c ∈ digits, c.isDigit = true) :
    valueOf 10 digits = Nat.ofDigitChars 10 digits 0 :=
  valueFrom_ten h 0

/-- A decimal numeral is a non-empty text of ASCII digits. -/
theorem value?_ten_eq_some_iff {digits : List Char} {n : Nat} :
    value? 10 digits = some n ↔
      digits ≠ [] ∧ (∀ c ∈ digits, c.isDigit = true) ∧ Nat.ofDigitChars 10 digits 0 = n := by
  simp only [value?_eq_some_iff, isDigit_ten_iff]
  refine and_congr_right fun _ => and_congr_right fun hdigits => ?_
  rw [valueOf_ten hdigits]

/-- A decimal numeral of a word is a non-empty text of ASCII digits of its value. -/
theorem word?_ten_eq_some_iff {digits : List Char} {w : UInt64} :
    word? 10 digits = some w ↔
      digits ≠ [] ∧ (∀ c ∈ digits, c.isDigit = true) ∧
        Nat.ofDigitChars 10 digits 0 = w.toNat := by
  rw [word?_eq_some_iff, value?_ten_eq_some_iff]

/-! ## Hexadecimal digits -/

/-- The hexadecimal digits in the order of their values. -/
def hexadecimalDigits : List Char :=
  ['0', '1', '2', '3', '4', '5', '6', '7', '8', '9', 'a', 'b', 'c', 'd', 'e', 'f']

/-- The number that hexadecimal digits stand for, with letters in either case. -/
def hexadecimalNumber (digits : List Char) : Nat :=
  Nat.ofDigits 16 (digits.reverse.map fun c => hexadecimalDigits.idxOf c.toLower)

theorem toLower_of_not_isUpper {c : Char} (h : ¬c.isUpper = true) : c.toLower = c :=
  dif_neg fun hrange => h (decide_eq_true hrange)

theorem toNat_lt_of_isUpper {c : Char} (h : c.isUpper = true) : c.toNat < 128 := by
  have hrange : c.val ≤ 'Z'.val := (of_decide_eq_true h).2
  exact Nat.lt_of_le_of_lt hrange (by decide)

theorem toLower_toLower (c : Char) : c.toLower.toLower = c.toLower := by
  by_cases h : c.isUpper = true
  · have htable : ∀ n : Fin 128,
        (Char.ofNat n).toLower.toLower = (Char.ofNat n).toLower := by decide
    have hc := htable ⟨c.toNat, toNat_lt_of_isUpper h⟩
    rwa [Char.ofNat_toNat] at hc
  · rw [toLower_of_not_isUpper h, toLower_of_not_isUpper h]

/-- Every digit is an ASCII character. -/
theorem toNat_lt_of_digit? {base d : Nat} {c : Char} (h : digit? base c = some d) :
    c.toNat < 128 := by
  have hvalue := (digit?_eq_some_iff.1 h).1
  have hrange (last : Char) (hlast : last.toNat < 128) (hc : c ≤ last) : c.toNat < 128 :=
    Nat.lt_of_le_of_lt hc hlast
  rw [digitValue] at hvalue
  split_ifs at hvalue with hdecimal hlower hupper
  · exact hrange '9' (by decide) hdecimal.2
  · exact hrange 'f' (by decide) hlower.2
  · exact hrange 'F' (by decide) hupper.2

/-- The value of a hexadecimal digit, in either case, is its place in the table. -/
theorem digit?_sixteen (c : Char) :
    digit? 16 c =
      if c.toLower ∈ hexadecimalDigits then some (hexadecimalDigits.idxOf c.toLower)
      else none := by
  by_cases hascii : c.toNat < 128
  · have htable : ∀ n : Fin 128, digit? 16 (Char.ofNat n) =
        if (Char.ofNat n).toLower ∈ hexadecimalDigits then
          some (hexadecimalDigits.idxOf (Char.ofNat n).toLower)
        else none := by
      decide +kernel
    have hc := htable ⟨c.toNat, hascii⟩
    rwa [Char.ofNat_toNat] at hc
  · have hnone : digit? 16 c = none :=
      Option.eq_none_iff_forall_ne_some.2 fun d hd => hascii (toNat_lt_of_digit? hd)
    have hmem : c.toLower ∉ hexadecimalDigits := by
      have htable : hexadecimalDigits.all (·.toNat < 128) = true := by decide
      rw [toLower_of_not_isUpper fun h => hascii (toNat_lt_of_isUpper h)]
      exact fun h => hascii (of_decide_eq_true (List.all_eq_true.1 htable c h))
    rw [hnone, if_neg hmem]

theorem isDigit_sixteen_iff {c : Char} :
    isDigit 16 c = true ↔ c.toLower ∈ hexadecimalDigits := by
  rw [isDigit, digit?_sixteen]
  split <;> simp_all

theorem valueOf_sixteen {digits : List Char}
    (h : ∀ c ∈ digits, c.toLower ∈ hexadecimalDigits) :
    valueOf 16 digits = hexadecimalNumber digits := by
  have hvalue {c : Char} (hc : c.toLower ∈ hexadecimalDigits) :
      (digitValue c).getD 0 = hexadecimalDigits.idxOf c.toLower := by
    have hdigit := digit?_sixteen c
    rw [if_pos hc] at hdigit
    rw [(digit?_eq_some_iff.1 hdigit).1, Option.getD_some]
  rw [valueOf, valueFrom, hexadecimalNumber, Nat.ofDigits_eq_foldr, List.foldr_map,
    List.foldl_eq_foldr_reverse]
  refine List.foldr_ext _ _ _ fun c hc high => ?_
  rw [hvalue (h c (List.mem_reverse.1 hc)), Nat.add_comm, Nat.cast_id]

/-- A hexadecimal numeral of a word is a non-empty text of such digits of its value. -/
theorem word?_sixteen_eq_some_iff {digits : List Char} {w : UInt64} :
    word? 16 digits = some w ↔
      digits ≠ [] ∧ (∀ c ∈ digits, c.toLower ∈ hexadecimalDigits) ∧
        hexadecimalNumber digits = w.toNat := by
  simp only [word?_eq_some_iff, value?_eq_some_iff, isDigit_sixteen_iff]
  refine and_congr_right fun _ => and_congr_right fun hdigits => ?_
  rw [valueOf_sixteen hdigits]

/-- The case of letters does not matter. -/
theorem word?_map_toLower (digits : List Char) :
    word? 16 (digits.map Char.toLower) = word? 16 digits := by
  have hdigit (c : Char) : digit? 16 c.toLower = digit? 16 c := by
    rw [digit?_sixteen, digit?_sixteen, toLower_toLower]
  have hextend (high : Nat) (cs : List Char) :
      extend? 16 high (cs.map Char.toLower) = extend? 16 high cs := by
    induction cs generalizing high with
    | nil => rfl
    | cons c cs ih => simp only [List.map_cons, extend?, hdigit, ih]
  cases digits with
  | nil => rfl
  | cons c digits => rw [word?, word?, List.map_cons, value?, value?, ← List.map_cons, hextend]

/-! ## What may stand before the digits -/

theorem isDigit_plus (base : Nat) : isDigit base '+' = false := rfl

/-- Of a text with at most one plus sign in front, the rest is read. -/
theorem word?_withoutPlus_eq_some_iff {base : Nat} {text : List Char} {w : UInt64} :
    word? base (withoutPlus text) = some w ↔
      ∃ sign digits, text = sign ++ digits ∧ (sign = [] ∨ sign = ['+']) ∧
        word? base digits = some w := by
  constructor
  · intro h
    unfold withoutPlus at h
    split at h
    · exact ⟨['+'], _, rfl, .inr rfl, h⟩
    · exact ⟨[], text, rfl, .inl rfl, h⟩
  · rintro ⟨sign, digits, rfl, rfl | rfl, hword⟩
    · have hdigits := (value?_eq_some_iff.1 (word?_eq_some_iff.1 hword)).2.1
      rw [List.nil_append]
      unfold withoutPlus
      split
      · -- The digits do not begin with a sign of their own.
        have hplus := hdigits '+' List.mem_cons_self
        rw [isDigit_plus] at hplus
        cases hplus
      · exact hword
    · exact hword

/-- With at most one plus sign in front, a decimal numeral stands for the same word. -/
theorem word?_ten_withoutPlus_eq_some_iff {text : List Char} {w : UInt64} :
    word? 10 (withoutPlus text) = some w ↔
      ∃ sign digits, text = sign ++ digits ∧ (sign = [] ∨ sign = ['+']) ∧ digits ≠ [] ∧
        (∀ c ∈ digits, c.isDigit = true) ∧ Nat.ofDigitChars 10 digits 0 = w.toNat := by
  simp only [word?_withoutPlus_eq_some_iff, word?_ten_eq_some_iff]

/-- Zeros in front do not change the value of a numeral. -/
theorem value?_zeros {base n : Nat} {digits : List Char} (hbase : 0 < base) (zeros : Nat)
    (h : value? base digits = some n) :
    value? base (List.replicate zeros '0' ++ digits) = some n := by
  have hvalue {cs : List Char} (hcs : cs ≠ []) : value? base cs = extend? base 0 cs := by
    cases cs with
    | nil => exact absurd rfl hcs
    | cons c cs => rfl
  have hzero : digit? base '0' = some 0 := digit?_eq_some_iff.2 ⟨rfl, hbase⟩
  have hzeros : extend? base 0 (List.replicate zeros '0') = some 0 := by
    induction zeros with
    | zero => rfl
    | succ zeros ih =>
      rw [List.replicate_succ, extend?, hzero]
      exact ih
  have hne := (value?_eq_some_iff.1 h).1
  rw [hvalue (List.append_ne_nil_of_right_ne_nil _ hne), extend?_append, hzeros,
    Option.bind_some, ← hvalue hne, h]

end RegisterMachine.Numeral
