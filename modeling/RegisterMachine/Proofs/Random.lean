import Mathlib.Data.Finset.Card
import RegisterMachine.Random.Xoshiro

/-!
# Searches that end

A bounded word is drawn by a search that rejects words until one is accepted, and nothing in its
rule says that it ends.  `Xoshiro.Accepts` is this search, with the number of words that it rejects.

The bound of `Xoshiro.search` does not show.  A search that ends never comes to a state twice, since
from either place the same number of words would be rejected (`Accepts.advanced_inj`).  There are
no more states than that bound (`Accepts.rejected_lt`), so wherever the search ends, it ends
with what `search` gives (`search_of_accepts`), and so does the draw (`uniform_of_accepts`).
-/

namespace RegisterMachine.Random.Xoshiro

/-- From the state `g` so many words are rejected, and the next one is accepted.  It gives the
high half of its product with the number of values, and leaves a state. -/
inductive Accepts (values : Nat) : (rejected : Nat) → (g : Xoshiro) → Nat × Xoshiro → Prop where
  | accept {g : Xoshiro} (h : g.next.1.toNat * values % UInt64.size ≤ zone values) :
      Accepts values 0 g (g.next.1.toNat * values / UInt64.size, g.next.2)
  | reject {rejected : Nat} {g : Xoshiro} {outcome : Nat × Xoshiro}
      (h : zone values < g.next.1.toNat * values % UInt64.size)
      (rest : Accepts values rejected g.next.2 outcome) : Accepts values (rejected + 1) g outcome

variable {values rejected attempts : Nat} {g : Xoshiro} {outcome : Nat × Xoshiro}

/-! ## Enough attempts -/

theorem search_succ_of_accepted (h : g.next.1.toNat * values % UInt64.size ≤ zone values) :
    search values (attempts + 1) g =
      (g.next.1.toNat * values / UInt64.size, g.next.2) := by
  rw [search]
  exact if_pos h

theorem search_succ_of_rejected (h : zone values < g.next.1.toNat * values % UInt64.size) :
    search values (attempts + 1) g = search values attempts g.next.2 := by
  rw [search]
  exact if_neg (Nat.not_le_of_lt h)

/-- With an attempt for each rejection, the search ends as `Accepts` says.  A word that is accepted
when no attempt is left is taken without a test. -/
theorem search_of_rejected_le (h : Accepts values rejected g outcome) (hle : rejected ≤ attempts) :
    search values attempts g = outcome := by
  induction h generalizing attempts with
  | accept haccepted =>
    cases attempts with
    | zero => rw [search]
    | succ attempts => exact search_succ_of_accepted haccepted
  | reject hrejected rest ih =>
    obtain ⟨attempts, rfl⟩ := Nat.exists_eq_add_of_le' (Nat.le_trans (Nat.le_add_left 1 _) hle)
    rw [search_succ_of_rejected hrejected]
    exact ih (Nat.le_of_succ_le_succ hle)

/-! ## States along a search -/

/-- The number of words that are rejected depends on the state alone. -/
theorem Accepts.unique {rejected' : Nat} {outcome' : Nat × Xoshiro}
    (h : Accepts values rejected g outcome) (h' : Accepts values rejected' g outcome') :
    rejected = rejected' := by
  induction h generalizing rejected' with
  | accept haccepted =>
    cases h' with
    | accept haccepted' => rfl
    | reject hrejected' rest' => omega
  | reject hrejected rest ih =>
    cases h' with
    | accept haccepted' => omega
    | reject hrejected' rest' => rw [ih rest']

/-- The state after `k` words. -/
def advanced (g : Xoshiro) : (k : Nat) → Xoshiro
  | 0 => g
  | k + 1 => g.next.2.advanced k

/-- Part of the way along a search, the rest of it is ahead. -/
theorem Accepts.advanced {k : Nat} (h : Accepts values rejected g outcome) (hk : k ≤ rejected) :
    Accepts values (rejected - k) (g.advanced k) outcome := by
  induction k generalizing rejected g with
  | zero => exact h
  | succ k ih =>
    cases h with
    | accept haccepted => omega
    | @reject rejected g outcome hrejected rest =>
      rw [Nat.add_sub_add_right]
      exact ih rest (Nat.le_of_succ_le_succ hk)

/-- No state comes twice along a search, since from each a different number of words is rejected. -/
theorem Accepts.advanced_inj {i j : Nat} (h : Accepts values rejected g outcome)
    (hi : i ≤ rejected) (hj : j ≤ rejected) (hsame : g.advanced i = g.advanced j) : i = j := by
  have hfirst := h.advanced hi
  have hsecond := h.advanced hj
  rw [hsame] at hfirst
  have hcount := hfirst.unique hsecond
  omega

/-! ## As many words as states -/

/-- The number that a state has among all states. -/
def number (g : Xoshiro) : Nat :=
  ((g.a.toNat * UInt64.size + g.b.toNat) * UInt64.size + g.c.toNat) * UInt64.size + g.d.toNat

theorem number_lt (g : Xoshiro) : g.number < stateCount := by
  have ha := g.a.toNat_lt_size
  have hb := g.b.toNat_lt_size
  have hc := g.c.toNat_lt_size
  have hd := g.d.toNat_lt_size
  have hcount : stateCount = UInt64.size * UInt64.size * UInt64.size * UInt64.size := by decide
  rw [number, hcount]
  simp only [UInt64.size] at *
  omega

/-- The number of a state, with its four words as digits, tells it from all others. -/
theorem number_inj {g g' : Xoshiro} (h : g.number = g'.number) : g = g' := by
  obtain ⟨a, b, c, d⟩ := g
  obtain ⟨a', b', c', d'⟩ := g'
  have hb := b.toNat_lt_size
  have hb' := b'.toNat_lt_size
  have hc := c.toNat_lt_size
  have hc' := c'.toNat_lt_size
  have hd := d.toNat_lt_size
  have hd' := d'.toNat_lt_size
  simp only [number, UInt64.size] at *
  simp only [mk.injEq, ← UInt64.toNat_inj]
  omega

/-- The states along a search are different, so there are fewer rejections than states. -/
theorem Accepts.rejected_lt (h : Accepts values rejected g outcome) : rejected < stateCount := by
  have hcard := Finset.card_le_card_of_injOn (s := Finset.range (rejected + 1))
    (t := Finset.range stateCount) (fun k => (g.advanced k).number)
    (fun k _ => Finset.mem_coe.2 (Finset.mem_range.2 (number_lt _)))
    (fun i hi j hj hsame =>
      h.advanced_inj (Nat.le_of_lt_succ (Finset.mem_range.1 hi))
        (Nat.le_of_lt_succ (Finset.mem_range.1 hj)) (number_inj hsame))
  rwa [Finset.card_range, Finset.card_range] at hcard

/-- Wherever a search for an accepted word ends, `search` ends with the same value and state. -/
theorem search_of_accepts (h : Accepts values rejected g outcome) :
    search values stateCount g = outcome :=
  search_of_rejected_le h (Nat.le_of_lt h.rejected_lt)

/-- A word up to `max` is the outcome of the search among as many values, wherever that ends.  If
every word is such a value, the search accepts the first one. -/
theorem uniform_of_accepts {max : UInt64} {value : Nat} {after : Xoshiro}
    (h : Accepts (max.toNat + 1) rejected g (value, after)) :
    g.uniform max = (UInt64.ofNat value, after) := by
  rw [uniform]
  dsimp only
  by_cases hall : max.toNat + 1 = UInt64.size
  · rw [if_pos hall]
    rw [hall] at h
    cases h with
    | accept haccepted =>
      rw [Nat.mul_div_cancel _ (by decide), UInt64.ofNat_toNat]
    | reject hrejected rest =>
      rw [Nat.mul_mod_left] at hrejected
      omega
  · rw [if_neg hall, search_of_accepts h]

end RegisterMachine.Random.Xoshiro
