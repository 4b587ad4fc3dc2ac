import SfcWeave.Document.Token

/-!
# What counts as a token

`IsLexeme kind text rest` says which texts are tokens of a kind when `rest` follows. What follows
matters where one token could have been longer: a name ends where no name character follows, a
slash alone is not followed by `>`. The reader of tokens is characterised by it,

    next?_eq_some_iff : next? offset cs = some (token, rest) ↔
      ∃ gap, IsGap gap ∧ cs = gap ++ token.text ++ rest ∧ IsLexeme token.kind token.text rest ∧ …

and nothing after this module looks at how tokens are read.
-/

namespace SfcWeave.Token

open Text (byteLength)

/-- A run of separators, which may be empty. -/
def IsGap (gap : List Char) : Prop := ∀ c ∈ gap, isSeparator c

/-- A run of name characters, at least one. -/
def IsName (name : List Char) : Prop := name ≠ [] ∧ ∀ c ∈ name, isNameChar c

instance (name : List Char) : Decidable (IsName name) :=
  decidable_of_iff (name ≠ [] ∧ name.all isNameChar) (by rw [List.all_eq_true]; rfl)

/-- A name in front of this text ends there. -/
def EndsName (rest : List Char) : Prop := ∀ c ∈ rest.head?, isNameChar c = false

/-- The texts that are tokens of a kind when `rest` follows. -/
inductive IsLexeme : TokenKind → (text rest : List Char) → Prop
  | commentOpen {rest} : IsLexeme .commentOpen ['<', '!', '-', '-'] rest
  | closingOpen {rest} : IsLexeme .closingOpen ['<', '/'] rest
  | tagOpen {rest} : ¬ ['!', '-', '-'] <+: rest → ¬ ['/'] <+: rest → IsLexeme .tagOpen ['<'] rest
  | tagEnd {rest} : IsLexeme .tagEnd ['>'] rest
  | emptyEnd {rest} : IsLexeme .emptyEnd ['/', '>'] rest
  | slash {rest} : ¬ ['>'] <+: rest → IsLexeme .slash ['/'] rest
  | equals {rest} : IsLexeme .equals ['='] rest
  | name {text rest} : IsName text → EndsName rest → IsLexeme .name text rest
  | doubleQuoted {text rest} : '"' ∉ text → IsLexeme .doubleQuoted ('"' :: text ++ ['"']) rest
  | singleQuoted {text rest} : '\'' ∉ text → IsLexeme .singleQuoted ('\'' :: text ++ ['\'']) rest
  | unclosedDouble {text} : '"' ∉ text → IsLexeme .invalid ('"' :: text) []
  | unclosedSingle {text} : '\'' ∉ text → IsLexeme .invalid ('\'' :: text) []

/-! ### Runs of characters -/

theorem dropWhile_eq_nil {test : Char → Bool} {cs : List Char} (h : ∀ c ∈ cs, test c) :
    cs.dropWhile test = [] := by
  have hdrop : (cs ++ []).dropWhile test = [] := List.dropWhile_append_of_pos h
  rwa [List.append_nil] at hdrop

theorem endsName_nil : EndsName [] := by
  intro c hc
  cases hc

theorem endsName_cons {c : Char} {cs : List Char} :
    EndsName (c :: cs) ↔ isNameChar c = false := by
  simp [EndsName]

theorem endsName_append {text rest : List Char} (h : text ≠ []) :
    EndsName (text ++ rest) ↔ EndsName text := by
  cases text with
  | nil => exact absurd rfl h
  | cons c text => rw [List.cons_append, endsName_cons, endsName_cons]

theorem endsName_dropWhile (cs : List Char) : EndsName (cs.dropWhile isNameChar) := by
  intro c hc
  have h := List.head?_dropWhile_not isNameChar cs
  rw [Option.mem_def] at hc
  rw [hc] at h
  simpa using h

theorem takeWhile_name {name rest : List Char} (hname : ∀ c ∈ name, isNameChar c)
    (hrest : EndsName rest) : (name ++ rest).takeWhile isNameChar = name := by
  rw [List.takeWhile_append_of_pos hname]
  cases rest with
  | nil => simp
  | cons c rest => simp [endsName_cons.mp hrest]

theorem dropWhile_name {name rest : List Char} (hname : ∀ c ∈ name, isNameChar c)
    (hrest : EndsName rest) : (name ++ rest).dropWhile isNameChar = rest := by
  rw [List.dropWhile_append_of_pos hname]
  cases rest with
  | nil => simp
  | cons c rest => simp [endsName_cons.mp hrest]

theorem takeWhile_name_eq_nil_iff {cs : List Char} :
    cs.takeWhile isNameChar = [] ↔ EndsName cs := by
  cases cs with
  | nil => simp [endsName_nil]
  | cons c cs => cases hc : isNameChar c <;> simp [endsName_cons, hc]

theorem isName_takeWhile {cs : List Char} (h : cs.takeWhile isNameChar ≠ []) :
    IsName (cs.takeWhile isNameChar) := by
  refine ⟨h, ?_⟩
  intro c hc
  exact List.all_eq_true.mp List.all_takeWhile c hc

/-- Name characters at the front of a text stand in the name there. -/
theorem prefix_of_prefix_name {mark name rest : List Char} (hmark : mark.all isNameChar)
    (hrest : EndsName rest) (h : mark <+: name ++ rest) : mark <+: name := by
  rcases List.prefix_or_prefix_of_prefix h (List.prefix_append name rest) with h' | h'
  · exact h'
  · obtain ⟨beyond, rfl⟩ := h'
    rw [List.prefix_append_right_inj] at h
    cases beyond with
    | nil => simp
    | cons c beyond =>
      obtain ⟨more, rfl⟩ := h
      have hc := List.all_eq_true.mp hmark c (by simp)
      rw [endsName_cons.mp hrest] at hc
      cases hc

theorem isGap_nil : IsGap [] := by
  intro c hc
  cases hc

theorem isGap_takeWhile (cs : List Char) : IsGap (cs.takeWhile isSeparator) := by
  intro c hc
  exact List.all_eq_true.mp List.all_takeWhile c hc

/-- Separators are no name characters. -/
theorem isNameChar_of_isSeparator {c : Char} (h : isSeparator c) : isNameChar c = false := by
  simp [isNameChar, h]

theorem not_isSeparator_of_isNameChar {c : Char} (h : isNameChar c) : isSeparator c = false := by
  cases hc : isSeparator c with
  | false => rfl
  | true =>
    rw [isNameChar_of_isSeparator hc] at h
    cases h

/-- The characters that are tokens, or start one that is no name, do not stand in names. -/
theorem ne_of_isNameChar {c : Char} (h : isNameChar c) :
    c ≠ '"' ∧ c ≠ '\'' ∧ c ≠ '<' ∧ c ≠ '>' ∧ c ≠ '/' ∧ c ≠ '=' := by
  simp only [isNameChar, Bool.and_eq_true, bne_iff_ne] at h
  obtain ⟨⟨⟨⟨⟨⟨_, h₁⟩, h₂⟩, h₃⟩, h₄⟩, h₅⟩, h₆⟩ := h
  exact ⟨h₁, h₂, h₃, h₄, h₅, h₆⟩

theorem isNameChar_of_ne {c : Char} (hsep : isSeparator c = false) (h₁ : c ≠ '"') (h₂ : c ≠ '\'')
    (h₃ : c ≠ '<') (h₄ : c ≠ '>') (h₅ : c ≠ '/') (h₆ : c ≠ '=') : isNameChar c := by
  simp [isNameChar, hsep, h₁, h₂, h₃, h₄, h₅, h₆]

/-! ### The token at the front of a text -/

theorem bne_of_not_mem {quote : Char} {text : List Char} (h : quote ∉ text) :
    ∀ c ∈ text, (c != quote) = true := by
  intro c hc
  rw [bne_iff_ne]
  rintro rfl
  exact h hc

/-- A quote, the text up to its partner, and the partner. -/
theorem quoted_closed {kind : TokenKind} {quote : Char} {text rest : List Char}
    (h : quote ∉ text) :
    quoted kind quote (text ++ quote :: rest) = (kind, quote :: text ++ [quote], rest) := by
  have hall := bne_of_not_mem h
  unfold quoted
  rw [List.dropWhile_append_of_pos hall, List.takeWhile_append_of_pos hall]
  simp

theorem quoted_unclosed {kind : TokenKind} {quote : Char} {text : List Char} (h : quote ∉ text) :
    quoted kind quote text = (.invalid, quote :: text, []) := by
  unfold quoted
  rw [dropWhile_eq_nil (bne_of_not_mem h)]

/-- Either a quote has a partner, and what it quotes is found, or it has none. -/
theorem quoted_cases (kind : TokenKind) (quote : Char) (cs : List Char) :
    (∃ text rest, cs = text ++ quote :: rest ∧ quote ∉ text ∧
      quoted kind quote cs = (kind, quote :: text ++ [quote], rest)) ∨
    (quote ∉ cs ∧ quoted kind quote cs = (.invalid, quote :: cs, [])) := by
  by_cases h : quote ∈ cs
  · obtain ⟨text, rest, rfl, hfirst⟩ := List.eq_append_cons_of_mem h
    exact .inl ⟨text, rest, rfl, hfirst, quoted_closed hfirst⟩
  · exact .inr ⟨h, quoted_unclosed h⟩

/-- What is taken from the front of a text is a token, and the text is not changed. -/
theorem isLexeme_lexeme {c : Char} (hc : isSeparator c = false) (cs : List Char) :
    IsLexeme (lexeme c cs).1 (lexeme c cs).2.1 (lexeme c cs).2.2 := by
  -- the cases are those of `lexeme`: one character each, and what may follow it
  unfold lexeme
  split
  · split
    · exact .commentOpen
    · exact .closingOpen
    · next hcomment hclosing =>
      apply IsLexeme.tagOpen
      · rintro ⟨rest, rfl⟩
        exact hcomment rest rfl
      · rintro ⟨rest, rfl⟩
        exact hclosing rest rfl
  · next hopen =>
    split
    · exact .tagEnd
    · next hend =>
      split
      · split
        · exact .emptyEnd
        · next hempty =>
          apply IsLexeme.slash
          rintro ⟨rest, rfl⟩
          exact hempty rest rfl
      · next hslash =>
        split
        · exact .equals
        · next hequals =>
          split
          · rcases quoted_cases .doubleQuoted '"' cs with ⟨_, _, _, h, heq⟩ | ⟨h, heq⟩
            · rw [heq]; exact .doubleQuoted h
            · rw [heq]; exact .unclosedDouble h
          · next hdouble =>
            split
            · rcases quoted_cases .singleQuoted '\'' cs with ⟨_, _, _, h, heq⟩ | ⟨h, heq⟩
              · rw [heq]; exact .singleQuoted h
              · rw [heq]; exact .unclosedSingle h
            · next hsingle =>
              -- every other character that does not separate tokens starts a name
              have hname := isNameChar_of_ne hc hdouble hsingle hopen hend hslash hequals
              refine .name ⟨List.cons_ne_nil _ _, ?_⟩ (endsName_dropWhile cs)
              intro d hd
              rcases List.mem_cons.mp hd with rfl | hd
              · exact hname
              · exact List.all_eq_true.mp List.all_takeWhile d hd

/-- A token at the front of a text is taken. -/
theorem lexeme_of_isLexeme {kind : TokenKind} {c : Char} {text rest : List Char}
    (h : IsLexeme kind (c :: text) rest) : lexeme c (text ++ rest) = (kind, c :: text, rest) := by
  cases h with
  | commentOpen | closingOpen | tagEnd | emptyEnd | equals => rfl
  | tagOpen hcomment hclosing =>
    unfold lexeme
    rw [if_pos rfl]
    split
    · next r h => exact absurd ⟨r, h.symm⟩ hcomment
    · next r h => exact absurd ⟨r, h.symm⟩ hclosing
    · rfl
  | slash hempty =>
    unfold lexeme
    rw [if_neg (by decide), if_neg (by decide), if_pos rfl]
    split
    · next r h => exact absurd ⟨r, h.symm⟩ hempty
    · rfl
  | name hname hrest =>
    obtain ⟨h₁, h₂, h₃, h₄, h₅, h₆⟩ := ne_of_isNameChar (hname.2 c (by simp))
    have hall : ∀ d ∈ text, isNameChar d := fun d hd => hname.2 d (by simp [hd])
    unfold lexeme
    rw [if_neg h₃, if_neg h₄, if_neg h₅, if_neg h₆, if_neg h₁, if_neg h₂,
      takeWhile_name hall hrest, dropWhile_name hall hrest]
  -- no character before a quote in `lexeme` is one, so the choice is made by computing
  | @doubleQuoted value _ hvalue =>
    show quoted .doubleQuoted '"' (value ++ ['"'] ++ rest) = _
    rw [List.append_assoc]
    exact quoted_closed hvalue
  | @singleQuoted value _ hvalue =>
    show quoted .singleQuoted '\'' (value ++ ['\''] ++ rest) = _
    rw [List.append_assoc]
    exact quoted_closed hvalue
  | unclosedDouble hvalue =>
    show quoted .doubleQuoted '"' (text ++ []) = _
    rw [List.append_nil]
    exact quoted_unclosed hvalue
  | unclosedSingle hvalue =>
    show quoted .singleQuoted '\'' (text ++ []) = _
    rw [List.append_nil]
    exact quoted_unclosed hvalue

/-- A token starts with a character that does not separate tokens. -/
theorem IsLexeme.exists_cons {kind : TokenKind} {text rest : List Char}
    (h : IsLexeme kind text rest) : ∃ c tail, text = c :: tail ∧ isSeparator c = false := by
  cases h with
  | name hname _ =>
    cases text with
    | nil => exact absurd rfl hname.1
    | cons c tail =>
      have hc := hname.2 c List.mem_cons_self
      exact ⟨c, tail, rfl, not_isSeparator_of_isNameChar hc⟩
  | _ => exact ⟨_, _, rfl, by decide⟩

/-! ### The first token of a text -/

/-- The first token of a text is the one that stands behind its separators. -/
theorem next?_eq_some_iff {offset : Nat} {cs rest : List Char} {token : Token} :
    next? offset cs = some (token, rest) ↔
      ∃ gap, IsGap gap ∧ cs = gap ++ token.text ++ rest ∧ IsLexeme token.kind token.text rest ∧
        token.span =
          ⟨offset + byteLength gap, offset + byteLength gap + byteLength token.text⟩ := by
  constructor
  · intro h
    have hsplit := List.takeWhile_append_dropWhile (p := isSeparator) (l := cs)
    unfold next? at h
    split at h
    · cases h
    · next c tail hcs =>
      have hc : isSeparator c = false := by
        have := List.head?_dropWhile_not isSeparator cs
        rw [hcs] at this
        simpa using this
      have hlexeme := isLexeme_lexeme hc tail
      have happend := lexeme_append c tail
      rcases lexeme c tail with ⟨kind, text, after⟩
      simp only [Option.some.injEq, Prod.mk.injEq] at h
      obtain ⟨rfl, rfl⟩ := h
      refine ⟨cs.takeWhile isSeparator, isGap_takeWhile cs, ?_, hlexeme, rfl⟩
      rw [List.append_assoc, happend, ← hcs, hsplit]
  · rintro ⟨gap, hgap, rfl, hlexeme, hspan⟩
    obtain ⟨kind, text, span⟩ := token
    -- the token starts with no separator, so the separators in front are `gap`
    obtain ⟨c, tail, rfl, hc⟩ := hlexeme.exists_cons
    have hdrop : (gap ++ (c :: tail) ++ rest).dropWhile isSeparator = c :: (tail ++ rest) := by
      rw [List.append_assoc, List.dropWhile_append_of_pos hgap]
      simp [hc]
    have htake : (gap ++ (c :: tail) ++ rest).takeWhile isSeparator = gap := by
      rw [List.append_assoc, List.takeWhile_append_of_pos hgap]
      simp [hc]
    unfold next?
    rw [hdrop, htake]
    simp only [lexeme_of_isLexeme hlexeme]
    rw [← hspan]

theorem next?_append {offset : Nat} {kind : TokenKind} {gap text rest : List Char}
    (hgap : IsGap gap) (h : IsLexeme kind text rest) :
    next? offset (gap ++ text ++ rest) =
      some (⟨kind, text, ⟨offset + byteLength gap, offset + byteLength gap + byteLength text⟩⟩,
        rest) :=
  next?_eq_some_iff.mpr ⟨gap, hgap, rfl, h, rfl⟩

/-- There is no token in a text of separators only. -/
theorem next?_eq_none_iff {offset : Nat} {cs : List Char} : next? offset cs = none ↔ IsGap cs := by
  unfold next?
  constructor
  · intro h
    split at h
    · next hnil =>
      have hsplit := List.takeWhile_append_dropWhile (p := isSeparator) (l := cs)
      rw [hnil, List.append_nil] at hsplit
      rw [← hsplit]
      exact isGap_takeWhile cs
    · cases h
  · intro hgap
    rw [dropWhile_eq_nil hgap]

end SfcWeave.Token
