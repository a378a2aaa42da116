/-!
# A pseudorandom generator

The generator xoshiro256++: a state of four words, which one step mixes by
shifts, rotations and sums, giving a word.  A seed of one word is spread over the
state by a linear congruential generator with permuted output.

`uniform` draws a word up to a bound.  It multiplies a word of the generator by
the number of possible values and takes the high half of the product.  The word
is accepted only if the low half of the product is below a certain multiple of
that number, so that each value comes from equally many accepted words.

The generator has 2²⁵⁶ states, so a word that is not accepted among as many is
never accepted.  That bounds the search, and `uniform_le` holds in any case.
-/

namespace RegisterMachine.Random

structure Xoshiro where
  a : UInt64
  b : UInt64
  c : UInt64
  d : UInt64
deriving DecidableEq

/-- A word rotated to the left by less than its width. -/
def rotateLeft (word amount : UInt64) : UInt64 :=
  (word <<< amount) ||| (word >>> (64 - amount))

namespace Xoshiro

/-- One step of the generator: a word, and the state afterwards. -/
def next (g : Xoshiro) : UInt64 × Xoshiro :=
  let word := rotateLeft (g.a + g.d) 23 + g.a
  let c := g.c ^^^ g.a
  let d := g.d ^^^ g.b
  (word, ⟨g.a ^^^ d, g.b ^^^ c, c ^^^ (g.b <<< 17), rotateLeft d 45⟩)

/-! ## Seeding -/

/-- One step of the seeding generator. -/
def seedStep (state : UInt64) : UInt64 := state * 6364136223846793005 + 11634580027462260723

/-- The 32 bits that the seeding generator gives in a state. -/
def seedOutput (state : UInt64) : UInt32 :=
  let bits := (((state >>> 18) ^^^ state) >>> 27).toUInt32
  let amount := (state >>> 59).toUInt32
  (bits >>> amount) ||| (bits <<< ((32 - amount) % 32))

/-- A word of the seeding generator, the low half first, and its state afterwards. -/
def seedWord (state : UInt64) : UInt64 × UInt64 :=
  let low := seedStep state
  let high := seedStep low
  ((seedOutput low).toUInt64 ||| ((seedOutput high).toUInt64 <<< 32), high)

/-- The state that a seed stands for. -/
def ofSeed (seed : UInt64) : Xoshiro :=
  let (a, seed) := seedWord seed
  let (b, seed) := seedWord seed
  let (c, seed) := seedWord seed
  let (d, _) := seedWord seed
  ⟨a, b, c, d⟩

/-! ## Bounded words -/

/-- The largest low half of a product that is accepted, for a number of values below 2⁶⁴: one
less than that number shifted until its highest bit is the highest of a word. -/
def zone (values : Nat) : Nat := values <<< (63 - values.log2) - 1

/-- Searches for an accepted word, at most `attempts` times, and gives the high half of its
product with the number of values. -/
def search (values : Nat) (attempts : Nat) (g : Xoshiro) : Nat × Xoshiro :=
  let (word, g) := g.next
  let product := word.toNat * values
  match attempts with
  | 0 => (product / UInt64.size, g)
  | attempts + 1 =>
    if product % UInt64.size ≤ zone values then (product / UInt64.size, g)
    else search values attempts g

/-- The number of states of the generator. -/
def stateCount : Nat := 1 <<< 256

/-- A word from zero to `max`, and the state afterwards. -/
def uniform (max : UInt64) (g : Xoshiro) : UInt64 × Xoshiro :=
  let values := max.toNat + 1
  if values = UInt64.size then g.next
  else
    let (value, g) := search values stateCount g
    (UInt64.ofNat value, g)

theorem search_lt {values : Nat} (h : 0 < values) (attempts : Nat) (g : Xoshiro) :
    (search values attempts g).1 < values := by
  have bound (word : UInt64) : word.toNat * values / UInt64.size < values := by
    apply Nat.div_lt_of_lt_mul
    exact Nat.mul_lt_mul_of_pos_right word.toNat_lt_size h
  induction attempts generalizing g with
  | zero => exact bound _
  | succ attempts ih =>
    rw [search]
    dsimp only
    split
    · exact bound _
    · exact ih _

theorem uniform_le (max : UInt64) (g : Xoshiro) : (uniform max g).1 ≤ max := by
  have hmax := max.toNat_lt_size
  rw [UInt64.le_iff_toNat_le]
  unfold uniform
  dsimp only
  split
  · have := g.next.1.toNat_lt_size
    omega
  · have := search_lt (by omega : 0 < max.toNat + 1) stateCount g
    rw [UInt64.toNat_ofNat_of_lt' (Nat.lt_of_lt_of_le this hmax)]
    omega

end Xoshiro

end RegisterMachine.Random
