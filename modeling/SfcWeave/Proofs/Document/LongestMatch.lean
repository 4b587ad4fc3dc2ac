import SfcWeave.Proofs.Document.Token

/-!
# Tokens are longest matches

`Matches kind text` says what a token of a kind may look like, without regard to what follows it. Of
all texts at the front of a source that match some kind a token is the longest, unless it is a quote
without a partner, where nothing matches:

    isLexeme_iff : IsLexeme kind text rest ↔
      IsLongestMatch kind text (text ++ rest) ∨ kind = .invalid ∧ rest = [] ∧ IsUnpaired text

The token at the front of a text is the only one with this property, so that this is all there is to
say of it.
-/

namespace SfcWeave.Token

/-- The texts that are tokens of a kind by themselves. -/
inductive Matches : TokenKind → List Char → Prop
  | tagOpen : Matches .tagOpen ['<']
  | closingOpen : Matches .closingOpen ['<', '/']
  | commentOpen : Matches .commentOpen ['<', '!', '-', '-']
  | tagEnd : Matches .tagEnd ['>']
  | emptyEnd : Matches .emptyEnd ['/', '>']
  | slash : Matches .slash ['/']
  | equals : Matches .equals ['=']
  | name {text} : IsName text → Matches .name text
  | doubleQuoted {text} : '"' ∉ text → Matches .doubleQuoted ('"' :: text ++ ['"'])
  | singleQuoted {text} : '\'' ∉ text → Matches .singleQuoted ('\'' :: text ++ ['\''])

/-- The text matches a kind, and nothing else at the front of `cs` that matches any kind is
longer. -/
structure IsLongestMatch (kind : TokenKind) (text cs : List Char) : Prop where
  isMatch : Matches kind text
  isFront : text <+: cs
  longest : ∀ kind' text', Matches kind' text' → text' <+: cs → text'.length ≤ text.length

/-- A text that starts with a quote, which does not come again. -/
def IsUnpaired (cs : List Char) : Prop :=
  ∃ quote text, (quote = '"' ∨ quote = '\'') ∧ cs = quote :: text ∧ quote ∉ text

variable {kind kind' : TokenKind} {c : Char} {text text' rest cs : List Char}

/-! ### Matches -/

/-- What matches is a token when nothing follows. -/
theorem Matches.isLexeme (h : Matches kind text) : IsLexeme kind text [] := by
  cases h with
  | tagOpen => exact .tagOpen (by simp) (by simp)
  | closingOpen => exact .closingOpen
  | commentOpen => exact .commentOpen
  | tagEnd => exact .tagEnd
  | emptyEnd => exact .emptyEnd
  | slash => exact .slash (by simp)
  | equals => exact .equals
  | name hname => exact .name hname endsName_nil
  | doubleQuoted hvalue => exact .doubleQuoted hvalue
  | singleQuoted hvalue => exact .singleQuoted hvalue

/-- A text matches one kind only. -/
theorem Matches.kind_eq (h : Matches kind text) (h' : Matches kind' text) : kind = kind' := by
  obtain ⟨c, tail, rfl, -⟩ := h.isLexeme.exists_cons
  have hread := lexeme_of_isLexeme h.isLexeme
  rw [lexeme_of_isLexeme h'.isLexeme] at hread
  exact (Prod.mk.inj hread).1.symm

/-- What is read from a text is at least as long as anything at its front that matches. -/
theorem Matches.length_le (h : Matches kind text) (hfront : text <+: c :: cs) :
    text.length ≤ (lexeme c cs).2.1.length := by
  have hpos := List.length_pos_iff.mpr (lexeme_ne_nil c cs)
  obtain ⟨rest, hrest⟩ := hfront
  have hread (h : IsLexeme kind text rest) : text.length ≤ (lexeme c cs).2.1.length := by
    obtain ⟨d, tail, rfl, -⟩ := h.exists_cons
    rw [List.cons_append, List.cons.injEq] at hrest
    obtain ⟨rfl, rfl⟩ := hrest
    exact Nat.le_of_eq (congrArg (fun read => read.2.1.length) (lexeme_of_isLexeme h).symm)
  cases h with
  | tagOpen | slash => exact hpos
  -- what these are does not depend on what follows them
  | closingOpen => exact hread .closingOpen
  | commentOpen => exact hread .commentOpen
  | tagEnd => exact hread .tagEnd
  | emptyEnd => exact hread .emptyEnd
  | equals => exact hread .equals
  | doubleQuoted hvalue => exact hread (.doubleQuoted hvalue)
  | singleQuoted hvalue => exact hread (.singleQuoted hvalue)
  | name hname =>
    obtain ⟨d, tail, rfl⟩ := List.exists_cons_of_ne_nil hname.1
    rw [List.cons_append, List.cons.injEq] at hrest
    obtain ⟨rfl, rfl⟩ := hrest
    obtain ⟨h₁, h₂, h₃, h₄, h₅, h₆⟩ := ne_of_isNameChar (hname.2 d List.mem_cons_self)
    have htail : ∀ c ∈ tail, isNameChar c := fun c hc => hname.2 c (List.mem_cons_of_mem d hc)
    unfold lexeme
    rw [if_neg h₃, if_neg h₄, if_neg h₅, if_neg h₆, if_neg h₁, if_neg h₂,
      List.takeWhile_append_of_pos htail]
    simp

/-- Nothing matches at a quote without a partner. -/
theorem IsUnpaired.not_prefix (hcs : IsUnpaired cs) (h : Matches kind text) : ¬ text <+: cs := by
  obtain ⟨quote, behind, hquote, rfl, hpartner⟩ := hcs
  rintro ⟨rest, hrest⟩
  cases h with
  | name hname =>
    obtain ⟨d, tail, rfl⟩ := List.exists_cons_of_ne_nil hname.1
    obtain ⟨rfl, -⟩ := List.cons.inj hrest
    obtain ⟨hdouble, hsingle, -⟩ := ne_of_isNameChar (hname.2 d List.mem_cons_self)
    exact hquote.elim hdouble hsingle
  | doubleQuoted hvalue | singleQuoted hvalue =>
    obtain ⟨rfl, rfl⟩ := List.cons.inj hrest
    simp at hpartner
  | _ =>
    obtain ⟨rfl, -⟩ := List.cons.inj hrest
    revert hquote
    decide

/-! ### Tokens -/

/-- A token either matches its kind or is a quote without a partner. -/
theorem IsLexeme.matches_or (h : IsLexeme kind text rest) :
    Matches kind text ∨ kind = .invalid ∧ rest = [] ∧ IsUnpaired text := by
  cases h with
  | commentOpen => exact .inl .commentOpen
  | closingOpen => exact .inl .closingOpen
  | tagOpen => exact .inl .tagOpen
  | tagEnd => exact .inl .tagEnd
  | emptyEnd => exact .inl .emptyEnd
  | slash => exact .inl .slash
  | equals => exact .inl .equals
  | name hname _ => exact .inl (.name hname)
  | doubleQuoted hvalue => exact .inl (.doubleQuoted hvalue)
  | singleQuoted hvalue => exact .inl (.singleQuoted hvalue)
  | unclosedDouble hvalue => exact .inr ⟨rfl, rfl, _, _, .inl rfl, rfl, hvalue⟩
  | unclosedSingle hvalue => exact .inr ⟨rfl, rfl, _, _, .inr rfl, rfl, hvalue⟩

/-- A token that matches is the longest one to do so. -/
theorem IsLexeme.isLongestMatch (h : IsLexeme kind text rest) (hmatch : Matches kind text) :
    IsLongestMatch kind text (text ++ rest) := by
  refine ⟨hmatch, List.prefix_append text rest, ?_⟩
  intro kind' text' hmatch' hfront
  obtain ⟨c, tail, rfl, -⟩ := h.exists_cons
  rw [List.cons_append] at hfront
  have hle := hmatch'.length_le hfront
  rwa [lexeme_of_isLexeme h] at hle

theorem isLexeme_of_isUnpaired (h : IsUnpaired text) : IsLexeme .invalid text [] := by
  obtain ⟨quote, value, rfl | rfl, rfl, hpartner⟩ := h
  · exact .unclosedDouble hpartner
  · exact .unclosedSingle hpartner

/-- The longest match is the token that is read. -/
theorem IsLongestMatch.isLexeme (h : IsLongestMatch kind text (text ++ rest)) :
    IsLexeme kind text rest := by
  obtain ⟨c, tail, rfl, hc⟩ := h.isMatch.isLexeme.exists_cons
  have hread := isLexeme_lexeme hc (tail ++ rest)
  have hparts := lexeme_append c (tail ++ rest)
  have hfront := h.isFront
  rw [List.cons_append] at hfront
  have hle := h.isMatch.length_le hfront
  generalize lexeme c (tail ++ rest) = read at hread hparts hle
  obtain ⟨found, foundText, foundRest⟩ := read
  rcases hread.matches_or with hmatch | ⟨-, rfl, hunpaired⟩
  · -- neither of the two is longer than the other, and both stand at the front
    have hge := h.longest found foundText hmatch ⟨foundRest, hparts⟩
    obtain ⟨rfl, rfl⟩ := List.append_inj hparts (Nat.le_antisymm hge hle)
    rw [h.isMatch.kind_eq hmatch]
    exact hread
  · rw [List.append_nil] at hparts
    rw [hparts] at hunpaired
    exact absurd hfront (hunpaired.not_prefix h.isMatch)

/-- The token at the front of a text is the longest match there, and where nothing matches a quote
without a partner. -/
theorem isLexeme_iff : IsLexeme kind text rest ↔
    IsLongestMatch kind text (text ++ rest) ∨ kind = .invalid ∧ rest = [] ∧ IsUnpaired text := by
  constructor
  · intro h
    exact h.matches_or.imp_left h.isLongestMatch
  · rintro (h | ⟨rfl, rfl, h⟩)
    · exact h.isLexeme
    · exact isLexeme_of_isUnpaired h

end SfcWeave.Token
