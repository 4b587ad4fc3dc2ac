import SfcWeave.Text.Span

/-!
# Tokens of a block header

A header such as `<style lang="scss" scoped>` is read token by token. A token is the longest text
at its place that has a kind; space, tab, line feed, carriage return and form feed separate tokens.

`Token.lexeme` reads the token that starts with a given character. What it takes and what it
leaves is the text it was given (`lexeme_append`).
-/

namespace SfcWeave

/-- The kinds of tokens in a header. -/
inductive TokenKind where
  /-- `<` -/
  | tagOpen
  /-- `</` -/
  | closingOpen
  /-- `<!--` -/
  | commentOpen
  /-- `>` -/
  | tagEnd
  /-- `/>` -/
  | emptyEnd
  /-- `/` -/
  | slash
  /-- `=` -/
  | equals
  /-- A tag, an attribute's name or a value without quotes. -/
  | name
  | doubleQuoted
  | singleQuoted
  | endOfFile
  /-- A quote without a partner. -/
  | invalid
deriving DecidableEq, Repr, Inhabited

namespace TokenKind

/-- How error messages call tokens of a kind. -/
def describe : TokenKind → String
  | tagOpen => "'<'"
  | closingOpen => "'</'"
  | commentOpen => "'<!--'"
  | tagEnd => "'>'"
  | emptyEnd => "'/>'"
  | slash => "'/'"
  | equals => "'='"
  | name => "name"
  | doubleQuoted | singleQuoted => "quoted value"
  | endOfFile => "end of file"
  | invalid => "invalid token"

end TokenKind

/-- A token, its text and where it stands in the source. -/
structure Token where
  kind : TokenKind
  text : List Char
  span : Span
deriving DecidableEq, Repr, Inhabited

namespace Token

/-- Separates tokens. -/
def isSeparator (c : Char) : Bool :=
  c == ' ' || c == '\t' || c == '\r' || c == '\n' || c == '\x0c'

/-- May stand in a name. -/
def isNameChar (c : Char) : Bool :=
  !isSeparator c && c != '"' && c != '\'' && c != '<' && c != '>' && c != '/' && c != '='

/-- The text from a quote to its partner, both included, and what follows; without a partner all
of the text is taken. -/
def quoted (kind : TokenKind) (quote : Char) (cs : List Char) : TokenKind × List Char × List Char :=
  match cs.dropWhile (· != quote) with
  | [] => (.invalid, quote :: cs, [])
  | _ :: rest => (kind, quote :: cs.takeWhile (· != quote) ++ [quote], rest)

/-- The kind and the text of the token that starts with `c`, and what follows it. -/
def lexeme (c : Char) (cs : List Char) : TokenKind × List Char × List Char :=
  if c = '<' then
    match cs with
    | '!' :: '-' :: '-' :: rest => (.commentOpen, ['<', '!', '-', '-'], rest)
    | '/' :: rest => (.closingOpen, ['<', '/'], rest)
    | _ => (.tagOpen, ['<'], cs)
  else if c = '>' then (.tagEnd, ['>'], cs)
  else if c = '/' then
    match cs with
    | '>' :: rest => (.emptyEnd, ['/', '>'], rest)
    | _ => (.slash, ['/'], cs)
  else if c = '=' then (.equals, ['='], cs)
  else if c = '"' then quoted .doubleQuoted '"' cs
  else if c = '\'' then quoted .singleQuoted '\'' cs
  else (.name, c :: cs.takeWhile isNameChar, cs.dropWhile isNameChar)

theorem quoted_append (kind : TokenKind) (quote : Char) (cs : List Char) :
    (quoted kind quote cs).2.1 ++ (quoted kind quote cs).2.2 = quote :: cs := by
  unfold quoted
  split
  · simp
  · rename_i d rest h
    have hd : d = quote := by
      have := List.head?_dropWhile_not (· != quote) cs
      simpa [h] using this
    have := List.takeWhile_append_dropWhile (p := (· != quote)) (l := cs)
    rw [h, hd] at this
    simp [this]

/-- A token and what follows it make up the text. -/
theorem lexeme_append (c : Char) (cs : List Char) :
    (lexeme c cs).2.1 ++ (lexeme c cs).2.2 = c :: cs := by
  unfold lexeme
  split
  · split <;> simp_all
  · split
    · simp_all
    · split
      · split <;> simp_all
      · split
        · simp_all
        · split
          · rename_i h; rw [quoted_append, h]
          · split
            · rename_i h; rw [quoted_append, h]
            · simp

theorem lexeme_ne_nil (c : Char) (cs : List Char) : (lexeme c cs).2.1 ≠ [] := by
  unfold lexeme quoted
  repeat' split
  all_goals simp

/-- The first token at or after `offset`, where `cs` is the text from there on, and the text that
follows it. There is none at the end of the text. -/
def next? (offset : Nat) (cs : List Char) : Option (Token × List Char) :=
  match cs.dropWhile isSeparator with
  | [] => none
  | c :: rest =>
    let start := offset + Text.byteLength (cs.takeWhile isSeparator)
    let (kind, text, after) := lexeme c rest
    some (⟨kind, text, ⟨start, start + Text.byteLength text⟩⟩, after)

theorem length_dropWhile_le (p : Char → Bool) (cs : List Char) :
    (cs.dropWhile p).length ≤ cs.length := by
  have := congrArg List.length (List.takeWhile_append_dropWhile (p := p) (l := cs))
  simp only [List.length_append] at this
  omega

/-- Reading a token shortens the text. -/
theorem length_of_next? {offset : Nat} {cs rest : List Char} {token : Token}
    (h : next? offset cs = some (token, rest)) : rest.length < cs.length := by
  unfold next? at h
  split at h
  · simp at h
  · rename_i c r hr
    have hle := length_dropWhile_le isSeparator cs
    rw [hr] at hle
    have happ := congrArg List.length (lexeme_append c r)
    have hpos := List.length_pos_iff.2 (lexeme_ne_nil c r)
    obtain ⟨_, rfl⟩ : _ ∧ (lexeme c r).2.2 = rest := by simpa using h
    simp only [List.length_append, List.length_cons] at happ hle
    omega

/-- All tokens of a text that starts at `offset`, closed by one for the end of the file. -/
def all (offset : Nat) (cs : List Char) : List Token :=
  match _h : next? offset cs with
  | none => [⟨.endOfFile, [], Span.empty (offset + Text.byteLength cs)⟩]
  | some (token, rest) => token :: all token.span.stop rest
termination_by cs.length
decreasing_by exact length_of_next? _h

end Token

end SfcWeave
