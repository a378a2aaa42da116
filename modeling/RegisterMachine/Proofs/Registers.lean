import RegisterMachine.Registers

/-!
# Views of a register file

Three ways to look at a register file.  It is a list of words, register 0 first
(`ofList`), which is the form in which a known program is executed.  Two files can hold
the same words in the registers below a bound (`AgreeBelow`), so that a program which
names no other registers cannot tell them apart.  And a file can be what has become of
another one without a change from a bound on (`KeepsFrom`).
-/

namespace RegisterMachine.RegisterFile

/-! ## Lists of words -/

/-- The file of some words, register 0 first. -/
def ofList (words : List UInt64) : RegisterFile := ⟨words.toArray⟩

@[simp]
theorem count_ofList (words : List UInt64) : (ofList words).count = words.length := by
  simp [ofList, count]

@[simp]
theorem ofList_toList (r : RegisterFile) : ofList r.words.toList = r := rfl

/-- A file with at least `k` registers has a list of the first `k` words, and the rest. -/
theorem exists_eq_ofList {r : RegisterFile} {k : Nat} (h : k ≤ r.count) :
    ∃ front rest : List UInt64, front.length = k ∧ r = ofList (front ++ rest) := by
  have hlength : r.words.toList.length = r.count := rfl
  refine ⟨r.words.toList.take k, r.words.toList.drop k, ?_, ?_⟩
  · rw [List.length_take, hlength, Nat.min_eq_left h]
  · rw [List.take_append_drop, ofList_toList]

/-! ## The word of one register -/

/-- There is a word in just the registers that exist. -/
theorem exists_word?_iff {r : RegisterFile} {index : UInt64} :
    (∃ word, r.word? index = some word) ↔ index.toNat < r.count := by
  rw [← Option.ne_none_iff_exists', ne_eq, word?_eq_none_iff, Nat.not_le]

/-- Only the register that is written changes, and only if it exists. -/
theorem getElem?_put (r : RegisterFile) (index word : UInt64) (i : Nat) :
    (r.put index word).words[i]? =
      if i = index.toNat ∧ index.toNat < r.count then some word else r.words[i]? := by
  simp only [put, count, Array.getElem?_setIfInBounds]
  grind

/-- A read after a write, by the number that is read. -/
theorem get_put (r : RegisterFile) (index word other : UInt64) :
    (r.put index word).get other =
      if other = index ∧ index.toNat < r.count then .ok word else r.get other := by
  rw [get, get, word?_put, count_put]
  by_cases h : other = index ∧ index.toNat < r.count
  · rw [if_pos h, if_pos h]
  · rw [if_neg h, if_neg h]

theorem get_zeroed (n : Nat) (index : UInt64) :
    (zeroed n).get index =
      if index.toNat < n then .ok 0 else .error (.registerOutOfBounds index n) := by
  rw [get, word?_zeroed, count_zeroed]
  by_cases h : index.toNat < n
  · rw [if_pos h, if_pos h]
  · rw [if_neg h, if_neg h]

/-! ## Files that agree below a bound -/

/-- The same words in the registers below `k`. -/
def AgreeBelow (k : Nat) (r s : RegisterFile) : Prop := ∀ i < k, r.words[i]? = s.words[i]?

instance (k : Nat) (r s : RegisterFile) : Decidable (AgreeBelow k r s) :=
  inferInstanceAs (Decidable (∀ i < k, r.words[i]? = s.words[i]?))

section AgreeBelow

variable {k : Nat} {r s : RegisterFile}

/-- The same write to both files does not part them, even beyond the bound, if both have the
registers below it. -/
theorem AgreeBelow.put (h : AgreeBelow k r s) (hr : k ≤ r.count) (hs : k ≤ s.count)
    (index word : UInt64) : AgreeBelow k (r.put index word) (s.put index word) := by
  intro i hi
  rw [getElem?_put, getElem?_put, h i hi]
  -- A register below the bound exists in both files or is not the one that is written.
  by_cases hindex : i = index.toNat
  · rw [if_pos ⟨hindex, by omega⟩, if_pos ⟨hindex, by omega⟩]
  · rw [if_neg fun hboth => hindex hboth.1, if_neg fun hboth => hindex hboth.1]

/-- Below the bound both files answer a read alike.  It is not refused, so the numbers of their
registers do not show. -/
theorem AgreeBelow.get_eq (h : AgreeBelow k r s) (hr : k ≤ r.count) {index : UInt64}
    (hindex : index.toNat < k) : r.get index = s.get index := by
  have hword : r.word? index = s.word? index := h index.toNat hindex
  have hexists : r.word? index ≠ none := by
    rw [ne_eq, word?_eq_none_iff]
    omega
  obtain ⟨word, hr⟩ := Option.ne_none_iff_exists'.1 hexists
  rw [get_eq_ok_iff.2 hr, get_eq_ok_iff.2 (hword ▸ hr)]

end AgreeBelow

/-! ## Files that were not changed from a bound on -/

/-- As many registers in `s` as in `r`, and the same words in those from `k` on. -/
structure KeepsFrom (k : Nat) (r s : RegisterFile) : Prop where
  count : s.count = r.count
  words : ∀ i, k ≤ i → s.words[i]? = r.words[i]?

section KeepsFrom

variable {k : Nat} {r s t : RegisterFile}

theorem KeepsFrom.refl (k : Nat) (r : RegisterFile) : KeepsFrom k r r :=
  ⟨rfl, fun _ _ => rfl⟩

theorem KeepsFrom.trans (h₁ : KeepsFrom k r s) (h₂ : KeepsFrom k s t) : KeepsFrom k r t :=
  ⟨h₂.count.trans h₁.count, fun i hi => (h₂.words i hi).trans (h₁.words i hi)⟩

/-- A write below the bound does not reach the registers beyond. -/
theorem keepsFrom_put {index word : UInt64} (h : index.toNat < k) :
    KeepsFrom k r (r.put index word) := by
  refine ⟨count_put r index word, ?_⟩
  intro i hi
  rw [getElem?_put, if_neg]
  rintro ⟨rfl, -⟩
  omega

theorem keepsFrom_ofList {front front' rest : List UInt64} (h : front'.length = front.length) :
    KeepsFrom front.length (ofList (front ++ rest)) (ofList (front' ++ rest)) := by
  refine ⟨by simp [h], ?_⟩
  intro i hi
  simp only [ofList, List.getElem?_toArray]
  rw [List.getElem?_append_right hi, List.getElem?_append_right (h ▸ hi), h]

end KeepsFrom

end RegisterMachine.RegisterFile
