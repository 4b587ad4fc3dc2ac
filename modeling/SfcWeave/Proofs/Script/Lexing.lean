import SfcWeave.Proofs.Script.Literal

/-!
# Texts by their lexemes

`Lexes text rest lexeme` says that a text is a lexeme when `rest` follows, and `Shows cursor seen
stop` what a cursor stands on from one place to another: the lexemes, each with whether a line has
ended in front of it. A text that is written as a sequence of lexemes with gaps between them is
shown as these lexemes:

    shows_of_written : Written pieces rest →
      Shows (Cursor.start offset newline (printed pieces ++ rest)) (seen newline pieces) …

The grammar looks at scripts through cursors only, so nothing after this module looks at characters.
-/

namespace SfcWeave.Script

open Text (byteLength byteLength_nil byteLength_cons byteLength_append)

variable {newline : Bool} {c : Char} {gap text word cs rest : List Char} {units : List Nat}
  {lexeme : Lexeme}

/-! ### Gaps -/

/-- A text that only separates lexemes: blanks and line ends. -/
def IsGap (gap : List Char) : Prop := ∀ c ∈ gap, isSpace c || isLineBreak c

instance : DecidablePred IsGap := fun gap =>
  decidable_of_iff (gap.all fun c => isSpace c || isLineBreak c) List.all_eq_true

/-- Neither a blank nor the start of a comment. -/
def endsGap (c : Char) : Bool :=
  !isSpace c && !isLineBreak c && c != '/' && c != '<' && c != '-'

theorem skipGap_append (h : IsGap gap) (offset : Nat) (newline : Bool) :
    skipGap .blank offset newline (gap ++ cs) =
      skipGap .blank (offset + byteLength gap) (newline || gap.any isLineBreak) cs := by
  induction gap generalizing offset newline with
  | nil => simp
  | cons c gap ih =>
    have hgap : IsGap gap := fun d hd => h d (List.mem_cons_of_mem c hd)
    have hc := h c List.mem_cons_self
    rw [List.cons_append, skipGap]
    cases hbreak : isLineBreak c with
    | true => simp [ih hgap, hbreak, Nat.add_assoc]
    | false =>
      rw [hbreak, Bool.or_false] at hc
      simp [ih hgap, hbreak, hc, Nat.add_assoc]

theorem skipGap_cons (h : endsGap c) (offset : Nat) (newline : Bool) :
    skipGap .blank offset newline (c :: cs) = (offset, newline, c :: cs) := by
  simp only [endsGap, Bool.and_eq_true, Bool.not_eq_true', bne_iff_ne] at h
  obtain ⟨⟨⟨⟨hspace, hbreak⟩, hslash⟩, hangle⟩, hminus⟩ := h
  simp [skipGap, hspace, hbreak, hslash, hangle, hminus]

/-! ### Single lexemes -/

/-- The text is this lexeme if `rest` follows. -/
structure Lexes (text rest : List Char) (lexeme : Lexeme) : Prop where
  head : ∃ c tail, text = c :: tail ∧ endsGap c
  lex : ∀ offset, Cursor.lex offset (text ++ rest) = (lexeme, text.length, rest)

/-- A word in front of this text ends there. -/
def EndsWord (rest : List Char) : Prop := ∀ c ∈ rest.head?, !isIdentifierPart c && c != '\\'

instance : DecidablePred EndsWord := fun rest =>
  decidable_of_iff (rest.head?.all fun c => !isIdentifierPart c && c != '\\')
    (Option.all_eq_true ..)

theorem endsWord_cons : EndsWord (c :: rest) ↔ !isIdentifierPart c && c != '\\' := by
  simp [EndsWord]

theorem word?_append (hword : ∀ c ∈ word, isIdentifierPart c && c != '\\') (hrest : EndsWord rest) :
    word? (word ++ rest) = some (word, false, rest) := by
  induction word with
  | nil =>
    cases rest with
    | nil => simp [word?]
    | cons c rest =>
      have hc := hrest c rfl
      simp only [Bool.and_eq_true, Bool.not_eq_true', bne_iff_ne] at hc
      simp [word?, hc]
  | cons c word ih =>
    rw [List.forall_mem_cons] at hword
    obtain ⟨hc, hword⟩ := hword
    simp only [Bool.and_eq_true, bne_iff_ne] at hc
    simp [word?, hc, ih hword]

/-- A word that is written without escapes. -/
def IsWord (word : List Char) : Prop :=
  (∃ c ∈ word.head?, endsGap c && isIdentifierStart c) ∧
    ∀ c ∈ word, isIdentifierPart c && c != '\\'

instance : DecidablePred IsWord := fun word =>
  decidable_of_iff (word.head?.any (fun c => endsGap c && isIdentifierStart c) ∧
      word.all fun c => isIdentifierPart c && c != '\\')
    (and_congr (Option.any_eq_true ..) List.all_eq_true)

theorem lexes_word (hword : IsWord word) (hrest : EndsWord rest) :
    Lexes word rest (.word (String.ofList word) false) := by
  obtain ⟨⟨c, hhead, hc⟩, hparts⟩ := hword
  have hread := word?_append hparts hrest
  obtain ⟨tail, rfl⟩ := List.head?_eq_some_iff.mp hhead
  rw [Bool.and_eq_true] at hc
  refine ⟨⟨c, tail, rfl, hc.1⟩, ?_⟩
  intro offset
  rw [List.cons_append] at *
  simp [Cursor.lex, hc.2, hread]

/-- What stands behind a double quote is a string literal, up to where it ends. -/
theorem lexes_string (h : stringBody? '"' (text ++ rest) = some (units, rest)) :
    Lexes ('"' :: text) rest (.string (String.ofList (ofCodePoints units))) := by
  refine ⟨⟨'"', text, rfl, by decide⟩, ?_⟩
  intro offset
  have hlength : ('"' :: (text ++ rest)).length - rest.length = ('"' :: text).length := by
    simp only [List.length_cons, List.length_append]
    omega
  rw [List.cons_append, ← hlength]
  unfold Cursor.lex
  dsimp only
  rw [if_neg (by decide), if_neg (by simp), if_pos (by decide), h]

/-- The marks that no longer mark starts with. -/
def singleMarks : List Char := ['(', ')', '\x7b', '\x7d', ',', ':']

theorem firstMark?_single (h : c ∈ singleMarks) :
    firstMark? (c :: rest) marks = some ([c], rest) := by
  simp only [singleMarks, List.mem_cons, List.not_mem_nil, or_false] at h
  rcases h with rfl | rfl | rfl | rfl | rfl | rfl <;> rfl

/-- A text that starts with no word, number or string starts with a mark. -/
theorem lex_of_firstMark? (hc : isIdentifierStart c = false ∧ c ∉ ['\\', '.', '"', '\''] ∧
    c.isDigit = false) (h : firstMark? (c :: cs) marks = some (text, rest)) (offset : Nat) :
    Cursor.lex offset (c :: cs) = (.mark (String.ofList text), text.length, rest) := by
  obtain ⟨hstart, hother, hdigit⟩ := hc
  simp only [List.mem_cons, List.not_mem_nil, or_false, not_or] at hother
  simp [Cursor.lex, hstart, hother, hdigit, h]

theorem lexes_singleMark (h : c ∈ singleMarks) : Lexes [c] rest (.mark (String.ofList [c])) := by
  have hmark : firstMark? (c :: rest) marks = some ([c], rest) := firstMark?_single h
  simp only [singleMarks, List.mem_cons, List.not_mem_nil, or_false] at h
  have hc : endsGap c ∧ isIdentifierStart c = false ∧ c ∉ ['\\', '.', '"', '\''] ∧
      c.isDigit = false := by
    rcases h with rfl | rfl | rfl | rfl | rfl | rfl <;> decide
  exact ⟨⟨c, [], rfl, hc.1⟩, lex_of_firstMark? hc.2 hmark⟩

theorem lexes_question (h : ∀ c ∈ rest.head?, c ≠ '?' ∧ c ≠ '.') :
    Lexes ['?'] rest (.mark "?") := by
  have hmark : firstMark? ('?' :: rest) marks = some (['?'], rest) := by
    cases rest with
    | nil => rfl
    | cons c rest =>
      obtain ⟨hquestion, hpoint⟩ := h c rfl
      simp [firstMark?, marks, Text.after?, Ne.symm hquestion, Ne.symm hpoint]
  exact ⟨⟨'?', [], rfl, by decide⟩, lex_of_firstMark? (by decide) hmark⟩

/-! ### Texts as sequences of lexemes -/

theorem start_append (hgap : IsGap gap) (h : Lexes text rest lexeme) (offset : Nat)
    (newline : Bool) :
    Cursor.start offset newline (gap ++ text ++ rest) =
      { lexeme
        span := ⟨offset + byteLength gap, offset + byteLength (gap ++ text)⟩
        newline := newline || gap.any isLineBreak
        here := text ++ rest
        rest } := by
  have hlex := h.lex (offset + byteLength gap)
  obtain ⟨c, tail, rfl, hc⟩ := h.head
  unfold Cursor.start
  rw [List.append_assoc, skipGap_append hgap, List.cons_append, skipGap_cons hc]
  rw [List.cons_append] at hlex
  have htake : (c :: (tail ++ rest)).take (c :: tail).length = c :: tail := by
    rw [← List.cons_append, List.take_left]
  dsimp only
  rw [hlex]
  dsimp only
  rw [htake, byteLength_append, Nat.add_assoc]

/-- From one place of a script to another these lexemes follow each other, each with whether a line
has ended in front of it. -/
inductive Shows : Cursor → List (Lexeme × Bool) → Cursor → Prop
  | done {cursor} : Shows cursor [] cursor
  | step {cursor seen stop} : Shows cursor.next seen stop →
      Shows cursor ((cursor.lexeme, cursor.newline) :: seen) stop

theorem shows_nil_iff {cursor stop : Cursor} : Shows cursor [] stop ↔ cursor = stop := by
  constructor
  · rintro ⟨⟩
    rfl
  · rintro rfl
    exact .done

theorem shows_cons_iff {cursor stop : Cursor} {shown : List (Lexeme × Bool)} :
    Shows cursor ((lexeme, newline) :: shown) stop ↔
      cursor.lexeme = lexeme ∧ cursor.newline = newline ∧ Shows cursor.next shown stop := by
  constructor
  · rintro ⟨⟩
    exact ⟨rfl, rfl, by assumption⟩
  · rintro ⟨rfl, rfl, h⟩
    exact .step h

/-- A lexeme as it is written, with the gap in front of it. -/
structure Piece where
  gap : List Char
  text : List Char
  lexeme : Lexeme

/-- The text of a sequence of lexemes. -/
def printed (pieces : List Piece) : List Char := pieces.flatMap fun p => p.gap ++ p.text

/-- Each piece is what it says, before the ones that follow and `rest`. -/
inductive Written : List Piece → (rest : List Char) → Prop
  | nil {rest : List Char} : Written [] rest
  | cons {piece : Piece} {pieces : List Piece} {rest : List Char} : IsGap piece.gap →
      Lexes piece.text (printed pieces ++ rest) piece.lexeme → Written pieces rest →
      Written (piece :: pieces) rest

/-- A word behind a gap. -/
def wordPiece (gap : List Char) (word : String) : Piece := ⟨gap, word.toList, .word word false⟩

/-- A mark of one character behind a gap. -/
def markPiece (gap : List Char) (c : Char) : Piece := ⟨gap, [c], .mark (String.singleton c)⟩

theorem printed_append (xs ys : List Piece) : printed (xs ++ ys) = printed xs ++ printed ys :=
  List.flatMap_append

section

variable {pieces : List Piece} (hgap : IsGap gap) (h : Written pieces rest)

include hgap h

theorem written_wordPiece {word : String} (hword : IsWord word.toList)
    (hnext : EndsWord (printed pieces ++ rest)) : Written (wordPiece gap word :: pieces) rest := by
  have hlexes := lexes_word hword hnext
  rw [String.ofList_toList] at hlexes
  exact .cons hgap hlexes h

theorem written_markPiece (hc : c ∈ singleMarks) : Written (markPiece gap c :: pieces) rest :=
  .cons hgap (lexes_singleMark hc) h

theorem written_questionPiece (hnext : ∀ c ∈ (printed pieces ++ rest).head?, c ≠ '?' ∧ c ≠ '.') :
    Written (markPiece gap '?' :: pieces) rest :=
  .cons hgap (lexes_question hnext) h

end

/-- The lexemes of pieces, when the first stands on a new line as `newline` says. -/
def seen (newline : Bool) : List Piece → List (Lexeme × Bool)
  | [] => []
  | piece :: pieces =>
    (piece.lexeme, newline || piece.gap.any isLineBreak) :: seen false pieces

/-- A text that is written as pieces is shown as their lexemes. -/
theorem shows_of_written {pieces : List Piece} (h : Written pieces rest) (offset : Nat)
    (newline : Bool) :
    Shows (Cursor.start offset newline (printed pieces ++ rest)) (seen newline pieces)
      (Cursor.start (offset + byteLength (printed pieces)) (pieces.isEmpty && newline) rest) := by
  induction h generalizing offset newline with
  | nil => exact .done
  | @cons piece pieces rest hgap hlexes _ ih =>
    have hprinted : printed (piece :: pieces) = piece.gap ++ piece.text ++ printed pieces := rfl
    rw [hprinted, List.append_assoc, start_append hgap hlexes, byteLength_append _ (printed pieces),
      ← Nat.add_assoc]
    -- behind the first piece no line has ended yet
    apply Shows.step
    simpa [Cursor.next] using ih _ false

end SfcWeave.Script
