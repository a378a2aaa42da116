import RegisterMachine.Fault

/-!
# The register file

A register file is a fixed number of words.  An access beyond the end is
refused with the index and the number of registers, and then nothing changes.

The view of a register file is `word?`, the word at an index.  `word?_put` and
`word?_zeroed` say what the operations do to it, `count_put` and `count_clear`
that no operation changes the number of registers.
-/

namespace RegisterMachine

structure RegisterFile where
  /-- The words, register 0 first. -/
  words : Array UInt64
deriving DecidableEq

namespace RegisterFile

/-- A file of the given number of registers, all zero. -/
def zeroed (count : Nat) : RegisterFile := ⟨Array.replicate count 0⟩

def count (r : RegisterFile) : Nat := r.words.size

/-- The word in a register, if there is such a register. -/
def word? (r : RegisterFile) (index : UInt64) : Option UInt64 := r.words[index.toNat]?

def get (r : RegisterFile) (index : UInt64) : Except Fault UInt64 :=
  match r.word? index with
  | some word => .ok word
  | none => .error (.registerOutOfBounds index r.count)

/-- Stores a word in a register; a register that does not exist is left alone. -/
def put (r : RegisterFile) (index word : UInt64) : RegisterFile :=
  ⟨r.words.setIfInBounds index.toNat word⟩

/-- Stores a word in a register that has to exist. -/
def set (r : RegisterFile) (index word : UInt64) : Except Fault RegisterFile :=
  if index.toNat < r.count then .ok (r.put index word)
  else .error (.registerOutOfBounds index r.count)

/-- Changes the word in a register that has to exist, and gives the new word too. -/
def update (r : RegisterFile) (index : UInt64) (change : UInt64 → UInt64) :
    Except Fault (UInt64 × RegisterFile) :=
  match r.get index with
  | .ok word => .ok (change word, r.put index (change word))
  | .error fault => .error fault

/-- The same number of registers, all zero. -/
def clear (r : RegisterFile) : RegisterFile := zeroed r.count

/-! ## What the operations do -/

@[simp]
theorem count_zeroed (n : Nat) : (zeroed n).count = n := by simp [zeroed, count]

@[simp]
theorem count_put (r : RegisterFile) (index word : UInt64) :
    (r.put index word).count = r.count := by
  simp [put, count]

@[simp]
theorem count_clear (r : RegisterFile) : r.clear.count = r.count := count_zeroed _

theorem word?_zeroed (n : Nat) (index : UInt64) :
    (zeroed n).word? index = if index.toNat < n then some 0 else none := by
  simp [zeroed, word?, Array.getElem?_replicate]

theorem word?_eq_none_iff {r : RegisterFile} {index : UInt64} :
    r.word? index = none ↔ r.count ≤ index.toNat := by
  simp [word?, count]

theorem word?_put (r : RegisterFile) (index word other : UInt64) :
    (r.put index word).word? other =
      if other = index ∧ index.toNat < r.count then some word else r.word? other := by
  simp only [put, word?, count, Array.getElem?_setIfInBounds]
  by_cases h : other = index
  · subst h
    by_cases hn : other.toNat < r.words.size
    · simp [hn]
    · simp [hn]
  · have hn : index.toNat ≠ other.toNat := fun e => h (UInt64.toNat_inj.1 e.symm)
    simp [h, hn]

theorem get_eq_ok_iff {r : RegisterFile} {index word : UInt64} :
    r.get index = .ok word ↔ r.word? index = some word := by
  unfold get; split <;> simp_all

theorem get_eq_error_iff {r : RegisterFile} {index : UInt64} {fault : Fault} :
    r.get index = .error fault ↔
      r.count ≤ index.toNat ∧ fault = .registerOutOfBounds index r.count := by
  rw [← word?_eq_none_iff]
  unfold get
  cases r.word? index <;> simp [eq_comm]

end RegisterFile

end RegisterMachine
