import RegisterMachine.Text.Blank

/-!
# Pieces of a text

A text falls into pieces at the characters that satisfy a test, and those
characters are in none of them.  The lines of a text are its pieces at line
feeds, except that a text which ends in a line feed has no empty last line.
Its words are the pieces that are not empty.

Everything else follows from `pieces_append`: a separator between two texts
parts their pieces.  So `words_append` and `lines_append` say the same of words
and of whole lines.
-/

namespace RegisterMachine.Text

/-- The pieces of a text whose first piece goes on from `piece`, which is held backwards. -/
def piecesFrom (stop : Char → Bool) (piece : List Char) : List Char → List (List Char)
  | [] => [piece.reverse]
  | c :: cs =>
    if stop c then piece.reverse :: piecesFrom stop [] cs else piecesFrom stop (c :: piece) cs
termination_by structural cs => cs

/-- The pieces of a text between the characters that satisfy a test. -/
def pieces (stop : Char → Bool) (text : List Char) : List (List Char) :=
  piecesFrom stop [] text

/-- The pieces that are not empty. -/
def words (gap : Char → Bool) (text : List Char) : List (List Char) :=
  (pieces gap text).filter (!·.isEmpty)

/-- A list of pieces without its last one, if that is empty. -/
def dropEmptyLast : List (List Char) → List (List Char)
  | [] => []
  | [piece] => if piece.isEmpty then [] else [piece]
  | piece :: rest => piece :: dropEmptyLast rest

/-- The lines of a text, without their line feeds. -/
def lines (text : List Char) : List (List Char) :=
  dropEmptyLast (pieces (· = '\n') text)

/-! ## Texts side by side -/

theorem piecesFrom_append {stop : Char → Bool} {c : Char} (h : stop c = true)
    (piece s t : List Char) :
    piecesFrom stop piece (s ++ c :: t) = piecesFrom stop piece s ++ pieces stop t := by
  induction s generalizing piece with
  | nil => simp [piecesFrom, h, pieces]
  | cons d s ih =>
    simp only [List.cons_append, piecesFrom]
    split
    · rw [ih, List.cons_append]
    · exact ih _

theorem pieces_append {stop : Char → Bool} {c : Char} (h : stop c = true) (s t : List Char) :
    pieces stop (s ++ c :: t) = pieces stop s ++ pieces stop t :=
  piecesFrom_append h [] s t

theorem words_append {gap : Char → Bool} {c : Char} (h : gap c = true) (s t : List Char) :
    words gap (s ++ c :: t) = words gap s ++ words gap t := by
  simp [words, pieces_append h]

theorem piecesFrom_ne_nil (stop : Char → Bool) (piece s : List Char) :
    piecesFrom stop piece s ≠ [] := by
  induction s generalizing piece with
  | nil => simp [piecesFrom]
  | cons d s ih => rw [piecesFrom]; split <;> simp [ih]

theorem pieces_ne_nil (stop : Char → Bool) (s : List Char) : pieces stop s ≠ [] :=
  piecesFrom_ne_nil stop [] s

theorem dropEmptyLast_append {ps qs : List (List Char)} (h : qs ≠ []) :
    dropEmptyLast (ps ++ qs) = ps ++ dropEmptyLast qs := by
  induction ps with
  | nil => rfl
  | cons p ps ih =>
    cases hr : ps ++ qs with
    | nil => simp at hr; exact absurd hr.2 h
    | cons q rest => rw [List.cons_append, List.cons_append, ← ih, hr]; rfl

/-- Lines that are ended by a line feed do not depend on what follows. -/
theorem lines_append (s t : List Char) :
    lines (s ++ '\n' :: t) = lines (s ++ ['\n']) ++ lines t := by
  have hn : (fun c : Char => decide (c = '\n')) '\n' = true := by decide
  have h (u : List Char) : lines (s ++ '\n' :: u) = pieces (· = '\n') s ++ lines u := by
    rw [lines, pieces_append hn, dropEmptyLast_append (pieces_ne_nil _ _)]
    rfl
  rw [h t, h []]
  simp [lines, pieces, piecesFrom, dropEmptyLast]

/-- A text without separators is one piece. -/
theorem piecesFrom_of_forall {stop : Char → Bool} {s : List Char}
    (h : ∀ c ∈ s, stop c = false) (piece : List Char) :
    piecesFrom stop piece s = [piece.reverse ++ s] := by
  induction s generalizing piece with
  | nil => simp [piecesFrom]
  | cons c s ih =>
    have hc : stop c = false := h c (by simp)
    rw [piecesFrom, hc, if_neg (by decide), ih fun d hd => h d (by simp [hd])]
    simp

theorem words_of_forall {gap : Char → Bool} {s : List Char} (hs : s ≠ [])
    (h : ∀ c ∈ s, gap c = false) : words gap s = [s] := by
  simp [words, pieces, piecesFrom_of_forall h, hs]

end RegisterMachine.Text
