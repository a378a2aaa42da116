import RegisterMachine.Assembly.Statement
import RegisterMachine.Proofs.Assembly.Quotation
import RegisterMachine.Proofs.Numeral
import RegisterMachine.Proofs.Text.Layout

/-!
# The grammar of string literals

`Literal` is what can stand behind the name of a string directive: a sequence of
items between quotes, blanks around it, and a comment.  An item is a character
that stands for itself, an escape of one character, or a code point.

A text is accepted exactly if it is the text of a literal, and is then the string
that the items denote (`literal?_eq_some_iff`).  From right to left the reader is
followed item by item (`body?_text`), from left to right each step of the reader
has read one item (`exists_items_of_body?`).

No item's text is the beginning of another one's, and none begins with a quote, so
a text is the text of one literal only (`Literal.text_inj`).
-/

namespace RegisterMachine.Assembly

/-! ## The grammar -/

/-- The characters that can stand behind a backslash, each with the one that they denote. -/
def escapes : List (Char × Char) :=
  [('n', '\n'), ('t', '\t'), ('r', '\r'), ('0', '\x00'), ('\\', '\\'), ('"', '"'),
    ('\x27', '\x27')]

/-- What stands between the quotes of a literal for one character. -/
inductive LiteralItem where
  /-- A character that denotes itself. -/
  | plain (c : Char) (notQuote : c ≠ '"') (notBackslash : c ≠ '\\')
  /-- A backslash and a mark. -/
  | escape (mark c : Char) (known : (mark, c) ∈ escapes)
  /-- One to six hexadecimal digits, in braces, of a code point that is no surrogate. -/
  | codePoint (digits : List Char) (nonempty : digits ≠ []) (short : digits.length ≤ 6)
      (hexadecimal : ∀ d ∈ digits, Numeral.isDigit 16 d = true)
      (scalar : (Numeral.valueOf 16 digits).isValidChar)

namespace LiteralItem

def text : LiteralItem → List Char
  | plain c _ _ => [c]
  | escape mark _ _ => ['\\', mark]
  | codePoint digits _ _ _ _ => ['\\', 'u', '\x7b'] ++ digits ++ ['\x7d']

def denoted : LiteralItem → Char
  | plain c _ _ => c
  | escape _ c _ => c
  | codePoint digits _ _ _ _ => Char.ofNat (Numeral.valueOf 16 digits)

end LiteralItem

/-- A comment that may stand at the end of a line. -/
def commentText : Option (List Char) → List Char
  | none => []
  | some text => ';' :: text

/-- A string literal with what may stand around it. -/
@[ext]
structure Literal where
  lead : List Char
  items : List LiteralItem
  trail : List Char
  comment : Option (List Char)
  leadBlank : ∀ c ∈ lead, Text.isBlank c = true
  trailBlank : ∀ c ∈ trail, Text.isBlank c = true

namespace Literal

def text (w : Literal) : List Char :=
  w.lead ++ '"' :: (w.items.flatMap LiteralItem.text ++ '"' :: (w.trail ++ commentText w.comment))

def denoted (w : Literal) : String := String.ofList (w.items.map LiteralItem.denoted)

end Literal

/-! ## Items are read -/

theorem scalar?_eq_some_iff {n : Nat} {c : Char} :
    scalar? n = some c ↔ n.isValidChar ∧ c = Char.ofNat n := by
  rw [scalar?]
  split
  · rename_i h
    rw [Option.some.injEq, eq_comm]
    exact ⟨fun hc => ⟨h, hc⟩, And.right⟩
  · rename_i h
    refine ⟨fun hc => ?_, fun hc => absurd hc.1 h⟩
    cases hc

theorem isDigit_of_head?_brace {rest : List Char} :
    ∀ c, ('\x7d' :: rest).head? = some c → Numeral.isDigit 16 c = false := by
  intro c h
  cases h
  decide

/-- A code point is one to six digits and a brace. -/
theorem codePoint?_eq_some_iff {text rest : List Char} {c : Char} :
    codePoint? text = some (c, rest) ↔
      ∃ digits, text = digits ++ '\x7d' :: rest ∧ digits ≠ [] ∧ digits.length ≤ 6 ∧
        (∀ d ∈ digits, Numeral.isDigit 16 d = true) ∧
        (Numeral.valueOf 16 digits).isValidChar ∧ c = Char.ofNat (Numeral.valueOf 16 digits) := by
  constructor
  · intro h
    rw [codePoint?] at h
    split at h
    · rename_i rest' hrest
      split at h
      · rename_i hshort
        obtain ⟨d, hd, hpair⟩ := Option.map_eq_some_iff.1 h
        obtain ⟨rfl, rfl⟩ := Prod.mk.inj hpair
        obtain ⟨n, hn, hscalar⟩ := Option.bind_eq_some_iff.1 hd
        obtain ⟨hne, hdigits, rfl⟩ := Numeral.value?_eq_some_iff.1 hn
        obtain ⟨hvalid, hc⟩ := scalar?_eq_some_iff.1 hscalar
        refine ⟨_, ?_, hne, hshort, hdigits, hvalid, hc⟩
        rw [← hrest, List.takeWhile_append_dropWhile]
      · cases h
    · cases h
  · rintro ⟨digits, rfl, hne, hshort, hdigits, hvalid, rfl⟩
    have hvalue := Numeral.value?_eq_some_iff.2 ⟨hne, hdigits, rfl⟩
    rw [codePoint?, Text.takeWhile_append_of_head? hdigits isDigit_of_head?_brace,
      Text.dropWhile_append_of_head? hdigits isDigit_of_head?_brace, hvalue]
    simp only [if_pos hshort, Option.bind_some, scalar?_eq_some_iff.2 ⟨hvalid, rfl⟩,
      Option.map_some]

/-- An item that is no plain character is a backslash and an escape that denotes its character. -/
theorem escape?_append_of_text {item : LiteralItem} {written : List Char}
    (h : item.text = '\\' :: written) (rest : List Char) :
    escape? (written ++ rest) = some (item.denoted, rest) := by
  cases item with
  | plain c notQuote notBackslash => exact absurd (List.cons.inj h).1 notBackslash
  | escape mark c known =>
    cases h
    have htable : ∀ p ∈ escapes, escape? ([p.1] ++ rest) = some (p.2, rest) := by
      simp [escapes, escape?]
    exact htable (mark, c) known
  | codePoint digits nonempty short hexadecimal scalar =>
    cases h
    have hescape : 'u' :: '\x7b' :: (digits ++ ['\x7d']) ++ rest =
        'u' :: '\x7b' :: (digits ++ '\x7d' :: rest) := by simp
    show escape? ('u' :: '\x7b' :: (digits ++ ['\x7d']) ++ rest) = _
    rw [hescape, escape?]
    exact codePoint?_eq_some_iff.2
      ⟨digits, rfl, nonempty, short, hexadecimal, scalar, rfl⟩

/-- What is read behind a backslash is an item. -/
theorem exists_item_of_escape? {text rest : List Char} {c : Char}
    (h : escape? text = some (c, rest)) :
    ∃ item : LiteralItem, '\\' :: text = item.text ++ rest ∧ item.denoted = c := by
  unfold escape? at h
  split at h
  case h_8 tail =>
    obtain ⟨digits, rfl, hne, hshort, hdigits, hvalid, rfl⟩ := codePoint?_eq_some_iff.1 h
    refine ⟨.codePoint digits hne hshort hdigits hvalid, ?_, rfl⟩
    simp [LiteralItem.text]
  case h_9 => cases h
  all_goals
    cases h
    exact ⟨.escape _ _ (by decide), rfl, rfl⟩

/-! ## The inside of a literal -/

theorem body?_text (item : LiteralItem) (rest : List Char) :
    body? (item.text ++ rest) =
      (body? rest).map fun (denoted, behind) => (item.denoted :: denoted, behind) := by
  cases item with
  | plain c notQuote notBackslash => exact body?_plain notQuote notBackslash rest
  | escape mark c known => exact body?_escape (escape?_append_of_text rfl rest)
  | codePoint digits nonempty short hexadecimal scalar =>
    exact body?_escape (escape?_append_of_text rfl rest)

theorem body?_items (items : List LiteralItem) (behind : List Char) :
    body? (items.flatMap LiteralItem.text ++ '"' :: behind) =
      some (items.map LiteralItem.denoted, behind) := by
  induction items with
  | nil => exact body?_quote behind
  | cons item items ih =>
    rw [List.flatMap_cons, List.append_assoc, body?_text, ih]
    rfl

/-- What is read up to a closing quote is a sequence of items. -/
theorem exists_items_of_body? {text denoted behind : List Char}
    (h : body? text = some (denoted, behind)) :
    ∃ items : List LiteralItem, text = items.flatMap LiteralItem.text ++ '"' :: behind ∧
      denoted = items.map LiteralItem.denoted := by
  induction text using body?.induct generalizing denoted with
  | case1 =>
    rw [body?] at h
    cases h
  | case2 rest =>
    rw [body?_quote] at h
    cases h
    exact ⟨[], rfl, rfl⟩
  | case3 rest c tail hescape hshorter hquote ih =>
    obtain ⟨item, hitem, rfl⟩ := exists_item_of_escape? hescape
    rw [body?_escape hescape] at h
    obtain ⟨⟨denoted', behind'⟩, htail, hpair⟩ := Option.map_eq_some_iff.1 h
    obtain ⟨rfl, rfl⟩ := Prod.mk.inj hpair
    obtain ⟨items, rfl, rfl⟩ := ih htail
    refine ⟨item :: items, ?_, rfl⟩
    rw [hitem, List.flatMap_cons, List.append_assoc]
  | case4 rest hescape hquote =>
    rw [body?, if_neg hquote, if_pos rfl] at h
    split at h
    · rename_i hsome
      rw [hescape] at hsome
      cases hsome
    · cases h
  | case5 c rest hquote hbackslash ih =>
    rw [body?_plain hquote hbackslash] at h
    obtain ⟨⟨denoted', behind'⟩, htail, hpair⟩ := Option.map_eq_some_iff.1 h
    obtain ⟨rfl, rfl⟩ := Prod.mk.inj hpair
    obtain ⟨items, rfl, rfl⟩ := ih htail
    exact ⟨.plain c hquote hbackslash :: items, rfl, rfl⟩

/-! ## Literals are read -/

theorem isComment_iff {text : List Char} :
    isComment text = true ↔ ∃ comment, text = commentText comment := by
  cases text with
  | nil => exact ⟨fun _ => ⟨none, rfl⟩, fun _ => rfl⟩
  | cons c text =>
    constructor
    · intro h
      obtain rfl : c = ';' := of_decide_eq_true h
      exact ⟨some text, rfl⟩
    · rintro ⟨comment, h⟩
      cases comment with
      | none => cases h
      | some text' =>
        cases h
        rfl

theorem isBlank_of_head?_commentText {comment : Option (List Char)} :
    ∀ c, (commentText comment).head? = some c → Text.isBlank c = false := by
  intro c h
  cases comment with
  | none => cases h
  | some text =>
    cases h
    decide

theorem isBlank_of_head?_quote {behind : List Char} :
    ∀ c, ('"' :: behind).head? = some c → Text.isBlank c = false := by
  intro c h
  cases h
  decide

/-- A text is accepted exactly if it is the text of a literal, and it is what its items denote. -/
theorem literal?_eq_some_iff {text : List Char} {s : String} :
    literal? text = some s ↔ ∃ w : Literal, w.text = text ∧ w.denoted = s := by
  constructor
  · intro h
    rw [literal?] at h
    split at h
    · rename_i inside hinside
      split at h
      · rename_i denoted behind hbody
        split at h
        · rename_i hcomment
          cases h
          obtain ⟨items, rfl, rfl⟩ := exists_items_of_body? hbody
          obtain ⟨lead, quoted, rfl, hlead, hquoted⟩ :=
            Text.exists_append_of_head? Text.isBlank text
          obtain ⟨trail, rest, rfl, htrail, hrest⟩ :=
            Text.exists_append_of_head? Text.isBlank behind
          rw [Text.trimStart, Text.dropWhile_append_of_head? hlead hquoted] at hinside
          rw [Text.trimStart, Text.dropWhile_append_of_head? htrail hrest] at hcomment
          obtain ⟨comment, rfl⟩ := isComment_iff.1 hcomment
          exact ⟨⟨lead, items, trail, comment, hlead, htrail⟩, by rw [hinside]; rfl, rfl⟩
        · cases h
      · cases h
    · cases h
  · rintro ⟨⟨lead, items, trail, comment, hlead, htrail⟩, rfl, rfl⟩
    have hcomment : isComment (Text.trimStart (trail ++ commentText comment)) = true := by
      rw [Text.trimStart, Text.dropWhile_append_of_head? htrail isBlank_of_head?_commentText]
      exact isComment_iff.2 ⟨comment, rfl⟩
    rw [literal?, Literal.text, Text.trimStart,
      Text.dropWhile_append_of_head? hlead isBlank_of_head?_quote]
    simp only [body?_items, hcomment, if_true]
    rfl

/-! ## Each text has one reading -/

/-- Items are told apart by how they begin, whatever follows them. -/
theorem LiteralItem.text_append_inj {item item' : LiteralItem} {rest rest' : List Char}
    (h : item.text ++ rest = item'.text ++ rest') : item = item' ∧ rest = rest' := by
  have hmarks : ∀ p ∈ escapes, ∀ q ∈ escapes, p.1 = q.1 → p.2 = q.2 := by decide
  have hnone : ∀ p ∈ escapes, p.1 ≠ 'u' := by decide
  cases item with
  | plain c notQuote notBackslash =>
    cases item' with
    | plain c' notQuote' notBackslash' =>
      obtain ⟨rfl, hrest⟩ := List.cons.inj h
      exact ⟨rfl, hrest⟩
    | escape mark c' known => exact absurd (List.cons.inj h).1 notBackslash
    | codePoint digits => exact absurd (List.cons.inj h).1 notBackslash
  | escape mark c known =>
    cases item' with
    | plain c' notQuote notBackslash => exact absurd (List.cons.inj h).1.symm notBackslash
    | escape mark' c' known' =>
      obtain ⟨rfl, hrest⟩ := List.cons.inj (List.cons.inj h).2
      obtain rfl := hmarks _ known _ known' rfl
      exact ⟨rfl, hrest⟩
    | codePoint digits =>
      obtain ⟨rfl, -⟩ := List.cons.inj (List.cons.inj h).2
      exact absurd rfl (hnone _ known)
  | codePoint digits nonempty short hexadecimal scalar =>
    cases item' with
    | plain c notQuote notBackslash => exact absurd (List.cons.inj h).1.symm notBackslash
    | escape mark c known =>
      obtain ⟨rfl, -⟩ := List.cons.inj (List.cons.inj h).2
      exact absurd rfl (hnone _ known)
    | codePoint digits' nonempty' short' hexadecimal' scalar' =>
      have hsplit : digits ++ '\x7d' :: rest = digits' ++ '\x7d' :: rest' := by
        simpa [text] using h
      obtain ⟨rfl, hrest⟩ := Text.append_inj_of_head? hexadecimal isDigit_of_head?_brace
        hexadecimal' isDigit_of_head?_brace hsplit
      exact ⟨rfl, (List.cons.inj hrest).2⟩

theorem LiteralItem.text_append_ne_quote (item : LiteralItem) (rest behind : List Char) :
    item.text ++ rest ≠ '"' :: behind := by
  intro h
  cases item with
  | plain c notQuote notBackslash => exact notQuote (List.cons.inj h).1
  | escape mark c known => exact absurd (List.cons.inj h).1 (by decide)
  | codePoint digits => exact absurd (List.cons.inj h).1 (by decide)

theorem items_inj {items items' : List LiteralItem} {rest rest' : List Char}
    (h : items.flatMap LiteralItem.text ++ '"' :: rest =
      items'.flatMap LiteralItem.text ++ '"' :: rest') : items = items' ∧ rest = rest' := by
  induction items generalizing items' with
  | nil =>
    cases items' with
    | nil => exact ⟨rfl, (List.cons.inj h).2⟩
    | cons item' items' =>
      rw [List.flatMap_cons, List.append_assoc] at h
      exact absurd h.symm (item'.text_append_ne_quote _ _)
  | cons item items ih =>
    rw [List.flatMap_cons, List.append_assoc] at h
    cases items' with
    | nil => exact absurd h (item.text_append_ne_quote _ _)
    | cons item' items' =>
      rw [List.flatMap_cons, List.append_assoc] at h
      obtain ⟨rfl, hrest⟩ := LiteralItem.text_append_inj h
      obtain ⟨rfl, rfl⟩ := ih hrest
      exact ⟨rfl, rfl⟩

theorem commentText_inj {comment comment' : Option (List Char)}
    (h : commentText comment = commentText comment') : comment = comment' := by
  cases comment with
  | none =>
    cases comment' with
    | none => rfl
    | some text => cases h
  | some text =>
    cases comment' with
    | none => cases h
    | some text' => rw [(List.cons.inj h).2]

/-- A text is the text of one literal only. -/
theorem Literal.text_inj {w w' : Literal} (h : w.text = w'.text) : w = w' := by
  obtain ⟨hlead, hquoted⟩ := Text.append_inj_of_head? w.leadBlank isBlank_of_head?_quote
    w'.leadBlank isBlank_of_head?_quote h
  obtain ⟨hitems, hbehind⟩ := items_inj (List.cons.inj hquoted).2
  obtain ⟨htrail, hcomment⟩ := Text.append_inj_of_head? w.trailBlank
    isBlank_of_head?_commentText w'.trailBlank isBlank_of_head?_commentText hbehind
  exact Literal.ext hlead hitems htrail (commentText_inj hcomment)

/-! ## Directives -/

/-- Behind the name of the directive and a blank there is a literal, or the line is refused. -/
theorem ofDirective_string {blank : Char} (hblank : Text.isBlank blank = true)
    (rest : List Char) :
    Statement.ofDirective ("string".toList ++ blank :: rest) =
      match literal? rest with
      | some s => .ok (.text s)
      | none => .error .malformedString := by
  have hname : ∀ c ∈ "string".toList, (!Text.isBlank c) = true :=
    List.all_eq_true.1 (by decide)
  have hstop : ∀ c, (blank :: rest).head? = some c → (!Text.isBlank c) = false := by
    intro c h
    cases h
    rw [hblank]
    rfl
  have hliteral : literal? (blank :: rest) = literal? rest := by
    rw [literal?, literal?, Text.trimStart, Text.trimStart, List.dropWhile_cons_of_pos hblank]
  rw [Statement.ofDirective, Text.takeWhile_append_of_head? hname hstop,
    Text.dropWhile_append_of_head? hname hstop, hliteral]
  rfl

/-- A string directive is accepted exactly if a well-formed literal stands behind its name, it is
then the string that the literal denotes, and a text is no more than one literal. -/
theorem string_directive_grammar :
    (∀ (rest : List Char) (s : String),
      literal? rest = some s ↔ ∃ w : Literal, w.text = rest ∧ w.denoted = s) ∧
    (∀ (blank : Char) (rest : List Char), Text.isBlank blank = true →
      (∀ s : String, Statement.ofDirective ("string".toList ++ blank :: rest) = .ok (.text s) ↔
        ∃ w : Literal, w.text = rest ∧ w.denoted = s) ∧
      ((¬∃ w : Literal, w.text = rest) →
        Statement.ofDirective ("string".toList ++ blank :: rest) = .error .malformedString)) ∧
    Statement.ofDirective "string".toList = .error .malformedString ∧
    (∀ w w' : Literal, w.text = w'.text → w = w') := by
  refine ⟨fun rest s => literal?_eq_some_iff, fun blank rest hblank => ⟨fun s => ?_, fun h => ?_⟩,
    rfl, fun w w' => Literal.text_inj⟩
  · rw [ofDirective_string hblank, ← literal?_eq_some_iff]
    cases literal? rest <;> simp
  · have hnone : literal? rest = none := by
      cases hsome : literal? rest with
      | none => rfl
      | some s =>
        obtain ⟨w, hw, -⟩ := literal?_eq_some_iff.1 hsome
        exact absurd ⟨w, hw⟩ h
    rw [ofDirective_string hblank, hnone]

/-- A literal with a plain character, a code point and a mark. -/
theorem string_directive_grammar_code_point :
    let w : Literal := ⟨[' '], [.plain 'a' (by decide) (by decide),
      .codePoint ['e', '9'] (by decide) (by decide) (List.all_eq_true.1 (by decide)) (by decide),
      .escape 'n' '\n' (by decide)], [], some [' ', 'x'], List.all_eq_true.1 (by decide),
      List.all_eq_true.1 (by decide)⟩
    Text.isBlank '\t' = true ∧
      w.text = " \"a\\u\x7be9\x7d\\n\"; x".toList ∧
      Statement.ofDirective ("string".toList ++ '\t' :: " \"a\\u\x7be9\x7d\\n\"; x".toList) =
        .ok (.text "aé\n") := by
  intro w
  have hblank : Text.isBlank '\t' = true := by decide
  have htext : w.text = " \"a\\u\x7be9\x7d\\n\"; x".toList := by decide
  have hdenoted : w.denoted = "aé\n" := by decide
  exact ⟨hblank, htext,
    ((string_directive_grammar.2.1 '\t' _ hblank).1 "aé\n").2 ⟨w, htext, hdenoted⟩⟩

end RegisterMachine.Assembly
