import RegisterMachine.Text.Pieces

/-!
# Texts laid out in lines and words

Lines that are each ended by a line feed are the lines of the whole text
(`lines_flatMap`), provided no line has a line feed of its own.  Words with one
gap between each two are the words of the whole text (`words_intercalate`).

Both are read off `lines_append` and `words_append`, by induction on the list of
lines or words.

In general a text has the words `word :: rest` exactly if it is some gaps, the
word, and a text of the words `rest` that does not go on with the word
(`words_eq_cons_iff`).
-/

namespace RegisterMachine.Text

/-! ## Lines -/

theorem pieces_of_not_mem {line : List Char} (h : '\n' ∉ line) :
    pieces (· = '\n') line = [line] := by
  have hline : ∀ c ∈ line, decide (c = '\n') = false := by
    intro c hc
    simp only [decide_eq_false_iff_not]
    rintro rfl
    exact h hc
  rw [pieces, piecesFrom_of_forall hline]
  rfl

/-- A line without line feeds, ended by one, is the first line. -/
theorem lines_cons {line : List Char} (h : '\n' ∉ line) (rest : List Char) :
    lines (line ++ '\n' :: rest) = line :: lines rest := by
  have hpieces : pieces (· = '\n') (line ++ ['\n']) = [line, []] := by
    rw [pieces_append (by decide), pieces_of_not_mem h]
    rfl
  rw [lines_append, lines, hpieces]
  rfl

/-- A text without line feeds is one line, unless it is empty. -/
theorem lines_of_not_mem {text : List Char} (hne : text ≠ []) (h : '\n' ∉ text) :
    lines text = [text] := by
  rw [lines, pieces_of_not_mem h, dropEmptyLast, if_neg (by simpa using hne)]

/-- Lines that are ended one by one are told apart again. -/
theorem lines_flatMap {texts : List (List Char)} (h : ∀ text ∈ texts, '\n' ∉ text) :
    lines (texts.flatMap (· ++ ['\n'])) = texts := by
  induction texts with
  | nil => rfl
  | cons text texts ih =>
    have htext : '\n' ∉ text := h text (by simp)
    have hrest : ∀ t ∈ texts, '\n' ∉ t := fun t ht => h t (by simp [ht])
    rw [List.flatMap_cons, List.append_assoc, List.singleton_append, lines_cons htext, ih hrest]

/-! ## Words -/

/-- A text laid out in words has no other characters than the gap and those of the words. -/
theorem mem_intercalate {c d : Char} {texts : List (List Char)}
    (h : d ∈ [c].intercalate texts) : d = c ∨ ∃ text ∈ texts, d ∈ text := by
  induction texts with
  | nil => cases h
  | cons text texts ih =>
    by_cases hnil : texts = []
    · subst hnil
      rw [List.intercalate_singleton] at h
      exact Or.inr ⟨text, List.mem_cons_self, h⟩
    · rw [List.intercalate_cons_of_ne_nil hnil, List.mem_append, List.mem_append,
        List.mem_singleton] at h
      rcases h with (h | h) | h
      · exact Or.inr ⟨text, List.mem_cons_self, h⟩
      · exact Or.inl h
      · rcases ih h with h | ⟨t, ht, hd⟩
        · exact Or.inl h
        · exact Or.inr ⟨t, List.mem_cons_of_mem text ht, hd⟩

theorem words_intercalate {gap : Char → Bool} {c : Char} (hgap : gap c = true)
    {texts : List (List Char)} (h : ∀ text ∈ texts, text ≠ [] ∧ ∀ d ∈ text, gap d = false) :
    words gap ([c].intercalate texts) = texts := by
  induction texts with
  | nil => rfl
  | cons text texts ih =>
    obtain ⟨hne, hall⟩ := h text (by simp)
    have hrest : ∀ t ∈ texts, t ≠ [] ∧ ∀ d ∈ t, gap d = false := fun t ht => h t (by simp [ht])
    cases texts with
    | nil => rw [List.intercalate_singleton, words_of_forall hne hall]
    | cons next texts =>
      rw [List.intercalate_cons_cons, List.append_assoc, List.singleton_append,
        words_append hgap, ih hrest, words_of_forall hne hall]
      rfl

/-! ## The longest beginning of one kind -/

section Span

variable {p : Char → Bool} {front back : List Char}

theorem takeWhile_append_of_head? (hfront : ∀ c ∈ front, p c = true)
    (hback : ∀ c, back.head? = some c → p c = false) : (front ++ back).takeWhile p = front := by
  rw [List.takeWhile_append_of_pos hfront]
  cases back with
  | nil => rw [List.takeWhile_nil, List.append_nil]
  | cons c back =>
    rw [List.takeWhile_cons_of_neg (by simp [hback c rfl]), List.append_nil]

theorem dropWhile_append_of_head? (hfront : ∀ c ∈ front, p c = true)
    (hback : ∀ c, back.head? = some c → p c = false) : (front ++ back).dropWhile p = back := by
  rw [List.dropWhile_append_of_pos hfront]
  cases back with
  | nil => rfl
  | cons c back => rw [List.dropWhile_cons_of_neg (by simp [hback c rfl])]

/-- A text is parted in one way into characters of one kind and what does not begin with it. -/
theorem append_inj_of_head? {front' back' : List Char} (hfront : ∀ c ∈ front, p c = true)
    (hback : ∀ c, back.head? = some c → p c = false) (hfront' : ∀ c ∈ front', p c = true)
    (hback' : ∀ c, back'.head? = some c → p c = false) (h : front ++ back = front' ++ back') :
    front = front' ∧ back = back' := by
  constructor
  · rw [← takeWhile_append_of_head? hfront hback, h, takeWhile_append_of_head? hfront' hback']
  · rw [← dropWhile_append_of_head? hfront hback, h, dropWhile_append_of_head? hfront' hback']

theorem exists_append_of_head? (p : Char → Bool) (text : List Char) :
    ∃ front back, text = front ++ back ∧ (∀ c ∈ front, p c = true) ∧
      ∀ c, back.head? = some c → p c = false := by
  refine ⟨text.takeWhile p, text.dropWhile p, List.takeWhile_append_dropWhile.symm,
    List.all_eq_true.1 List.all_takeWhile, fun c hc => ?_⟩
  have hnot := List.head?_dropWhile_not p text
  rw [hc] at hnot
  simpa using hnot

end Span

/-! ## Words in any layout -/

section Words

variable {gap : Char → Bool}

theorem words_cons_of_gap {c : Char} (h : gap c = true) (text : List Char) :
    words gap (c :: text) = words gap text := words_append h [] text

theorem words_append_of_gaps {lead : List Char} (h : ∀ c ∈ lead, gap c = true)
    (text : List Char) : words gap (lead ++ text) = words gap text := by
  induction lead with
  | nil => rfl
  | cons c lead ih =>
    obtain ⟨hc, hlead⟩ := List.forall_mem_cons.1 h
    rw [List.cons_append, words_cons_of_gap hc, ih hlead]

theorem words_of_gaps {text : List Char} (h : ∀ c ∈ text, gap c = true) :
    words gap text = [] := by
  have := words_append_of_gaps h []
  rwa [List.append_nil] at this

/-- A word ends where a gap or the text does. -/
theorem words_append_of_word {word rest : List Char} (hne : word ≠ [])
    (hword : ∀ c ∈ word, gap c = false) (hrest : ∀ c, rest.head? = some c → gap c = true) :
    words gap (word ++ rest) = word :: words gap rest := by
  cases rest with
  | nil =>
    rw [List.append_nil, words_of_forall hne hword]
    rfl
  | cons c rest =>
    have hc : gap c = true := hrest c rfl
    rw [words_append hc, words_of_forall hne hword, words_cons_of_gap hc]
    rfl

/-- A text that begins with no gap begins with its first word. -/
theorem words_cons_of_not_gap {c : Char} (h : gap c = false) (text : List Char) :
    ∃ word others, words gap (c :: text) = (c :: word) :: others := by
  obtain ⟨word, rest, rfl, hword, hrest⟩ := exists_append_of_head? (!gap ·) text
  refine ⟨word, words gap rest, words_append_of_word (List.cons_ne_nil c word) ?_ ?_⟩
  · exact List.forall_mem_cons.2 ⟨h, by simpa using hword⟩
  · simpa using hrest

/-- The ways in which a text can be gaps and words. -/
theorem words_cases (gap : Char → Bool) (text : List Char) :
    (∀ c ∈ text, gap c = true) ∨
      ∃ lead word rest, text = lead ++ (word ++ rest) ∧ (∀ c ∈ lead, gap c = true) ∧
        (word ≠ [] ∧ ∀ c ∈ word, gap c = false) ∧ ∀ c, rest.head? = some c → gap c = true := by
  obtain ⟨lead, behind, rfl, hlead, hbehind⟩ := exists_append_of_head? gap text
  cases behind with
  | nil => exact Or.inl (by simpa using hlead)
  | cons c behind =>
    obtain ⟨word, rest, hsplit, hword, hrest⟩ := exists_append_of_head? (!gap ·) (c :: behind)
    refine Or.inr ⟨lead, word, rest, by rw [hsplit], hlead, ⟨?_, ?_⟩, ?_⟩
    · rintro rfl
      rw [List.nil_append] at hsplit
      have hgap := hrest c (by rw [← hsplit]; rfl)
      simp [hbehind c rfl] at hgap
    · simpa using hword
    · simpa using hrest

theorem words_eq_nil_iff {text : List Char} :
    words gap text = [] ↔ ∀ c ∈ text, gap c = true := by
  refine ⟨fun h => ?_, words_of_gaps⟩
  rcases words_cases gap text with hgaps | ⟨lead, word, rest, rfl, hlead, ⟨hne, hword⟩, hrest⟩
  · exact hgaps
  · rw [words_append_of_gaps hlead, words_append_of_word hne hword hrest] at h
    cases h

theorem words_eq_cons_iff {text word : List Char} {others : List (List Char)} :
    words gap text = word :: others ↔
      ∃ lead rest, text = lead ++ (word ++ rest) ∧ (∀ c ∈ lead, gap c = true) ∧
        (word ≠ [] ∧ ∀ c ∈ word, gap c = false) ∧ (∀ c, rest.head? = some c → gap c = true) ∧
        words gap rest = others := by
  constructor
  · intro h
    rcases words_cases gap text with hgaps | ⟨lead, first, rest, rfl, hlead, hfirst, hrest⟩
    · rw [words_of_gaps hgaps] at h
      cases h
    · rw [words_append_of_gaps hlead, words_append_of_word hfirst.1 hfirst.2 hrest] at h
      obtain ⟨rfl, hothers⟩ := List.cons.inj h
      exact ⟨lead, rest, rfl, hlead, hfirst, hrest, hothers⟩
  · rintro ⟨lead, rest, rfl, hlead, hword, hrest, rfl⟩
    rw [words_append_of_gaps hlead, words_append_of_word hword.1 hword.2 hrest]

/-- A word holds characters of the text, and no gaps. -/
theorem of_mem_words {text word : List Char} (h : word ∈ words gap text) :
    (word ≠ [] ∧ ∀ c ∈ word, gap c = false) ∧ ∀ c ∈ word, c ∈ text := by
  induction hn : text.length using Nat.strongRecOn generalizing text with
  | _ n ih =>
    rcases words_cases gap text with hgaps | ⟨lead, first, rest, rfl, hlead, hfirst, hrest⟩
    · rw [words_of_gaps hgaps] at h
      cases h
    · rw [words_append_of_gaps hlead, words_append_of_word hfirst.1 hfirst.2 hrest] at h
      rcases List.mem_cons.1 h with rfl | h
      · refine ⟨hfirst, fun c hc => ?_⟩
        simp [hc]
      · have hshorter : rest.length < n := by
          have := List.length_pos_iff.2 hfirst.1
          rw [← hn, List.length_append, List.length_append]
          omega
        obtain ⟨hword, hmem⟩ := ih rest.length hshorter h rfl
        refine ⟨hword, fun c hc => ?_⟩
        simp [hmem c hc]

end Words

end RegisterMachine.Text
