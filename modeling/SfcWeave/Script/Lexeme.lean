import SfcWeave.Script.Identifier
import SfcWeave.Script.Tree
import SfcWeave.Text.Search

/-!
# Lexemes of a script

A `Cursor` stands on one lexeme of a script, and `Cursor.next` moves to the next. What a slash or
a closing brace begins depends on the grammar, so the grammar asks for regular expressions
(`Cursor.asPattern`) and for the parts of template literals (`templatePart`) where it needs them.
A `>` is always a lexeme of its own; `Cursor.joinGreater` joins those of an operator.
-/

namespace SfcWeave.Script

open Text (byteLength after?)

/-- The unit of a script's grammar. -/
inductive Lexeme where
  /-- A name or a keyword; `escaped` if it is written with escapes. -/
  | word (text : String) (escaped : Bool)
  | string (value : String)
  | number
  | bigint
  /-- Punctuation and operators. -/
  | mark (text : String)
  | endOfText
  | invalid (error : SyntaxError)
deriving DecidableEq, Repr, Inhabited

/-! ### Blanks and comments -/

/-- Ends a line. -/
def isLineBreak (c : Char) : Bool := c == '\n' || c == '\r' || c == '\u2028' || c == '\u2029'

/-- Blank between lexemes, line breaks aside. -/
def isSpace (c : Char) : Bool :=
  c == ' ' || c == '\t' || c == '\x0b' || c == '\x0c' || c == '\u00a0' || c == '\ufeff' ||
    c == '\u1680' || ('\u2000' ≤ c && c ≤ '\u200a') || c == '\u202f' || c == '\u205f' ||
    c == '\u3000'

/-- Where in the text between two lexemes a character stands. -/
inductive Gap where
  | blank
  | lineComment
  /-- At the second character of the mark that opens a comment. -/
  | blockStart
  | block
  /-- At the second character of the mark that closes a comment. -/
  | blockEnd

/-- Skips blanks and comments; `newline` tells whether a line has ended. The result is the offset
of the next lexeme, whether a line ended before it, and the text from there on. -/
def skipGap (gap : Gap) (offset : Nat) (newline : Bool) : List Char → Nat × Bool × List Char
  | [] => (offset, newline, [])
  | c :: cs =>
    let next := offset + c.utf8Size
    match gap with
    | .lineComment =>
      if isLineBreak c then skipGap .blank next true cs else skipGap .lineComment next newline cs
    | .blockStart => skipGap .block next newline cs
    | .block =>
      let newline := newline || isLineBreak c
      if c == '*' && cs.head? == some '/' then skipGap .blockEnd next newline cs
      else skipGap .block next newline cs
    | .blockEnd => skipGap .blank next newline cs
    | .blank =>
      if isLineBreak c then skipGap .blank next true cs
      else if isSpace c then skipGap .blank next newline cs
      else if c == '/' && cs.head? == some '/' then skipGap .lineComment next newline cs
      else if c == '/' && cs.head? == some '*' then skipGap .blockStart next newline cs
      else if c == '<' && (after? ['!', '-', '-'] cs).isSome then
        skipGap .lineComment next newline cs
      else if c == '-' && newline && (after? ['-', '>'] cs).isSome then
        skipGap .lineComment next newline cs
      else (offset, newline, c :: cs)

/-! ### Escapes -/

/-- The value of a hexadecimal digit. -/
def hexValue? (c : Char) : Option Nat :=
  if '0' ≤ c && c ≤ '9' then some (c.toNat - '0'.toNat)
  else if 'a' ≤ c && c ≤ 'f' then some (c.toNat - 'a'.toNat + 10)
  else if 'A' ≤ c && c ≤ 'F' then some (c.toNat - 'A'.toNat + 10)
  else none

/-- The value of exactly `count` hexadecimal digits. -/
def hexDigits? (count value : Nat) (cs : List Char) : Option (Nat × List Char) :=
  match count, cs with
  | 0, cs => some (value, cs)
  | _ + 1, [] => none
  | count + 1, c :: cs => do hexDigits? count (16 * value + (← hexValue? c)) cs

/-- The value of the hexadecimal digits up to a closing brace. -/
def bracedDigits? (value : Nat) : List Char → Option (Nat × List Char)
  | [] => none
  | c :: cs =>
    if c == '}' then some (value, cs) else do bracedDigits? (16 * value + (← hexValue? c)) cs

/-- The code point of a Unicode escape, after its `u`. -/
def codePoint? (cs : List Char) : Option (Nat × List Char) :=
  match cs with
  | '{' :: cs => bracedDigits? 0 cs
  | cs => hexDigits? 4 0 cs

theorem length_of_hexDigits? {count value n : Nat} {cs rest : List Char}
    (h : hexDigits? count value cs = some (n, rest)) : rest.length ≤ cs.length := by
  induction count generalizing value cs with
  | zero =>
    cases cs <;> simp_all [hexDigits?]
  | succ count ih =>
    cases cs with
    | nil => simp [hexDigits?] at h
    | cons c cs =>
      obtain ⟨d, _, hd⟩ := Option.bind_eq_some_iff.1 (show (hexValue? c).bind _ = _ from h)
      have := ih hd
      simp only [List.length_cons]
      omega

theorem length_of_bracedDigits? {value n : Nat} {cs rest : List Char}
    (h : bracedDigits? value cs = some (n, rest)) : rest.length ≤ cs.length := by
  induction cs generalizing value with
  | nil => simp [bracedDigits?] at h
  | cons c cs ih =>
    rw [bracedDigits?] at h
    split at h
    · simp only [Option.some.injEq, Prod.mk.injEq] at h
      rw [← h.2]; simp
    · obtain ⟨d, _, hd⟩ := Option.bind_eq_some_iff.1 (show (hexValue? c).bind _ = _ from h)
      have := ih hd
      simp only [List.length_cons]
      omega

theorem length_of_codePoint? {n : Nat} {cs rest : List Char}
    (h : codePoint? cs = some (n, rest)) : rest.length ≤ cs.length := by
  unfold codePoint? at h
  split at h
  · have := length_of_bracedDigits? h
    simp only [List.length_cons]
    omega
  · exact length_of_hexDigits? h

/-- The characters of a list of code points; the halves of a surrogate pair make one character,
and half a pair by itself becomes the replacement character. -/
def ofCodePoints : List Nat → List Char
  | [] => []
  | [n] => [if n.isValidChar then Char.ofNat n else '\ufffd']
  | high :: low :: rest =>
    if 0xD800 ≤ high && high < 0xDC00 && 0xDC00 ≤ low && low < 0xE000 then
      Char.ofNat (0x10000 + (high - 0xD800) * 0x400 + (low - 0xDC00)) :: ofCodePoints rest
    else (if high.isValidChar then Char.ofNat high else '\ufffd') :: ofCodePoints (low :: rest)

/-! ### Words, numbers and strings -/

/-- The characters of a word, whether it has escapes, and the text after it; `none` if an escape
is not valid. -/
def word? (cs : List Char) : Option (List Char × Bool × List Char) :=
  match cs with
  | '\\' :: 'u' :: inner =>
    match _h : codePoint? inner with
    | some (n, rest) => (word? rest).map fun (text, _, after) => (Char.ofNat n :: text, true, after)
    | none => none
  | '\\' :: _ => none
  | c :: rest =>
    if isIdentifierPart c then
      (word? rest).map fun (text, escaped, after) => (c :: text, escaped, after)
    else some ([], false, c :: rest)
  | [] => some ([], false, [])
termination_by cs.length
decreasing_by
  · have := length_of_codePoint? _h
    simp only [List.length_cons]
    omega
  · simp

/-- A digit, or a separator between digits. -/
def isDigitPart (c : Char) : Bool := c.isDigit || c == '_'

/-- Drops the exponent of a number. -/
def dropExponent (cs : List Char) : List Char :=
  match cs with
  | e :: rest =>
    if e == 'e' || e == 'E' then
      let digits := match rest with
        | s :: more => if s == '+' || s == '-' then more else rest
        | [] => rest
      if (digits.head?.map Char.isDigit).getD false then digits.dropWhile isDigitPart else cs
    else cs
  | [] => []

/-- The number at the start of `cs`, and the text after it. -/
def number (cs : List Char) : Lexeme × List Char :=
  let radix := match cs with
    | '0' :: x :: _ => x == 'x' || x == 'X' || x == 'o' || x == 'O' || x == 'b' || x == 'B'
    | _ => false
  if radix then
    match (cs.drop 2).dropWhile fun c => (hexValue? c).isSome || c == '_' with
    | 'n' :: rest => (.bigint, rest)
    | rest => (.number, rest)
  else match cs.dropWhile isDigitPart with
    | 'n' :: rest => (.bigint, rest)
    | '.' :: rest => (.number, dropExponent (rest.dropWhile isDigitPart))
    | rest => (.number, dropExponent rest)

/-- The code points that an escape in a string stands for, and the text after it; `cs` is the text
after the backslash. -/
def stringEscape? (cs : List Char) : Option (List Nat × List Char) :=
  match cs with
  | [] => some ([], [])
  | c :: rest =>
    match c with
    | 'n' => some ([0x0A], rest)
    | 't' => some ([0x09], rest)
    | 'r' => some ([0x0D], rest)
    | 'b' => some ([0x08], rest)
    | 'v' => some ([0x0B], rest)
    | 'f' => some ([0x0C], rest)
    | 'x' => (hexDigits? 2 0 rest).map fun (n, after) => ([n], after)
    | 'u' => (codePoint? rest).map fun (n, after) => ([n], after)
    | '\r' => some ([], (after? ['\n'] rest).getD rest)
    | '\n' | '\u2028' | '\u2029' => some ([], rest)
    | c =>
      if '0' ≤ c && c ≤ '7' then
        let digits := rest.take (if c ≤ '3' then 2 else 1) |>.takeWhile fun d => '0' ≤ d && d ≤ '7'
        some ([digits.foldl (fun n d => 8 * n + (d.toNat - '0'.toNat)) (c.toNat - '0'.toNat)],
          rest.drop digits.length)
      else some ([c.toNat], rest)

theorem length_of_stringEscape? {cs rest : List Char} {units : List Nat}
    (h : stringEscape? cs = some (units, rest)) : rest.length ≤ cs.length := by
  have drop_le (n : Nat) (xs : List Char) : (xs.drop n).length ≤ xs.length + 1 := by
    simp only [List.length_drop]; omega
  unfold stringEscape? at h
  split at h
  · simp_all
  · rename_i c tail
    have crlf : ((after? ['\n'] tail).getD tail).length ≤ tail.length := by
      cases ha : after? ['\n'] tail with
      | none => simp
      | some r =>
        have := Text.length_of_after? ha
        simp only [Option.getD_some]
        simp at this
        omega
    split at h
    case h_7 =>
      obtain ⟨⟨n, r⟩, hx, heq⟩ := Option.map_eq_some_iff.1 h
      have := length_of_hexDigits? hx
      simp only [Prod.mk.injEq] at heq
      rw [← heq.2]; simp only [List.length_cons]; omega
    case h_8 =>
      obtain ⟨⟨n, r⟩, hx, heq⟩ := Option.map_eq_some_iff.1 h
      have := length_of_codePoint? hx
      simp only [Prod.mk.injEq] at heq
      rw [← heq.2]; simp only [List.length_cons]; omega
    case h_9 =>
      simp only [Option.some.injEq, Prod.mk.injEq] at h
      rw [← h.2]; simp only [List.length_cons]; omega
    case h_13 =>
      split at h
      · simp only [Option.some.injEq, Prod.mk.injEq] at h
        rw [← h.2]; simp only [List.length_cons]; exact drop_le _ _
      · simp only [Option.some.injEq, Prod.mk.injEq] at h
        rw [← h.2]; simp
    all_goals
      simp only [Option.some.injEq, Prod.mk.injEq] at h
      rw [← h.2]; simp

/-- The code points of a string literal after its opening quote, and the text after its closing
quote. A literal that is not closed ends with its line. -/
def stringBody? (quote : Char) (cs : List Char) : Option (List Nat × List Char) :=
  match cs with
  | [] => some ([], [])
  | c :: rest =>
    if c == quote then some ([], rest)
    else if c == '\n' || c == '\r' then some ([], c :: rest)
    else if c == '\\' then
      match _h : stringEscape? rest with
      | some (units, after) =>
        (stringBody? quote after).map fun (value, left) => (units ++ value, left)
      | none => none
    else (stringBody? quote rest).map fun (value, left) => (c.toNat :: value, left)
termination_by cs.length
decreasing_by
  · have := length_of_stringEscape? _h
    simp only [List.length_cons]
    omega
  · simp

/-! ### Marks -/

/-- Punctuation and operators, each before those that are shorter and start alike. -/
def marks : List (List Char) :=
  ["...", "<<=", "**=", "&&=", "||=", "??=", "===", "!==", "=>", "==", "!=", "<=", "<<", "++",
    "--", "+=", "-=", "*=", "/=", "%=", "&=", "|=", "^=", "**", "&&", "||", "??", "?.", "\x7b",
    "\x7d", "(", ")", "[", "]", ";", ",", "<", ">", "+", "-", "*", "/", "%", "&", "|", "^", "!",
    "~", "?", ":", "=", ".", "@", "#", "`"].map String.toList

/-- The first of `candidates` that the text starts with, and the text after it. A question mark
and a point are one mark only if no digit follows. -/
def firstMark? (cs : List Char) : List (List Char) → Option (List Char × List Char)
  | [] => none
  | m :: rest =>
    match after? m cs with
    | some after =>
      if m == ['?', '.'] && (after.head?.map Char.isDigit).getD false then firstMark? cs rest
      else some (m, after)
    | none => firstMark? cs rest

/-! ### The cursor -/

/-- A lexeme in its place. -/
structure Cursor where
  lexeme : Lexeme
  /-- The extent of the lexeme. -/
  span : Span
  /-- Has a line ended between the lexeme before and this one? -/
  newline : Bool
  /-- The text from the lexeme on. -/
  here : List Char
  /-- The text after the lexeme. -/
  rest : List Char

namespace Cursor

/-- The lexeme at the start of a text without a gap, the number of its characters, and the text
after it. -/
def lex (offset : Nat) (cs : List Char) : Lexeme × Nat × List Char :=
  let fault (kind : SyntaxFault) (span : Span) := (Lexeme.invalid ⟨kind, span⟩, cs.length, [])
  let upTo (lexeme : Lexeme) (after : List Char) := (lexeme, cs.length - after.length, after)
  match cs with
  | [] => (.endOfText, 0, [])
  | c :: rest =>
    if isIdentifierStart c || c == '\\' then
      match word? (c :: rest) with
      | some (text, true, after) => upTo (.word (String.ofList text) true) after
      | some (text, false, after) => (.word (String.ofList text) false, text.length, after)
      | none => fault .invalidEscape ⟨offset, offset + 1⟩
    else if c.isDigit || (c == '.' && (rest.head?.map Char.isDigit).getD false) then
      let (value, after) := number (c :: rest)
      if (after.head?.map isIdentifierStart).getD false then
        fault .nameAfterNumber (Span.empty (offset + (byteLength cs - byteLength after)))
      else upTo value after
    else if c == '"' || c == '\'' then
      match stringBody? c rest with
      | some (value, after) => upTo (.string (String.ofList (ofCodePoints value))) after
      | none => fault .invalidEscape ⟨offset, offset + 1⟩
    else match firstMark? (c :: rest) marks with
      | some (text, after) => (.mark (String.ofList text), text.length, after)
      | none => fault .unexpectedCharacter (Span.empty offset)

/-- The cursor on the first lexeme of the text at `offset`. -/
def start (offset : Nat) (newline : Bool) (cs : List Char) : Cursor :=
  let (offset, newline, here) := skipGap .blank offset newline cs
  let (lexeme, count, rest) := lex offset here
  { lexeme, span := ⟨offset, offset + byteLength (here.take count)⟩, newline, here, rest }

/-- The cursor on the next lexeme. -/
def next (cursor : Cursor) : Cursor := start cursor.span.stop false cursor.rest

/-- The same place with another extent of the lexeme. -/
def retake (cursor : Cursor) (lexeme : Lexeme) (count : Nat) : Cursor :=
  { cursor with
    lexeme
    span := ⟨cursor.span.start, cursor.span.start + byteLength (cursor.here.take count)⟩
    rest := cursor.here.drop count }

/-- A `>` joined with those that follow it directly, and an equals sign after them. -/
def joinGreater (cursor : Cursor) : Cursor :=
  if cursor.lexeme = .mark ">" then
    let angles := min 3 (cursor.here.takeWhile (· == '>')).length
    let sign := if (cursor.here.drop angles).head? == some '=' then 1 else 0
    cursor.retake (.mark (String.ofList (cursor.here.take (angles + sign)))) (angles + sign)
  else cursor

/-- A `<<` cut down to its first angle. -/
def cutShift (cursor : Cursor) : Cursor :=
  if cursor.lexeme = .mark "<<" then cursor.retake (.mark "<") 1 else cursor

/-- The number of characters of a regular expression after its first slash, up to its last one;
none if it is not closed on its line. -/
def patternLength? (inClass : Bool) : List Char → Option Nat
  | [] => none
  | c :: cs =>
    if isLineBreak c then none
    else if c == '\\' then
      match cs with
      | d :: cs => if isLineBreak d then none else (patternLength? inClass cs).map (· + 2)
      | [] => none
    else if c == '/' && !inClass then some 1
    else
      let inClass := if c == '[' then true else if c == ']' then false else inClass
      (patternLength? inClass cs).map (· + 1)

/-- The slash under the cursor taken as the start of a regular expression. -/
def asPattern (cursor : Cursor) : Cursor :=
  let body := cursor.here.drop 1
  match patternLength? false body with
  | some count =>
    let flags := ((body.drop count).takeWhile isIdentifierPart).length
    cursor.retake .number (1 + count + flags)
  | none =>
    let line := 1 + (body.takeWhile fun c => !isLineBreak c).length
    let stop := cursor.span.start + byteLength (cursor.here.take line)
    cursor.retake (.invalid ⟨.unterminatedPattern, ⟨cursor.span.start, stop⟩⟩) line

end Cursor

/-- How a part of a template literal ends. -/
inductive TemplateEnd where
  | closed
  | substitution
deriving DecidableEq

/-- The offset after the part of a template literal that starts `cs`, how it ends, and the text
after it; none if the literal is not closed. -/
def templatePart? (offset : Nat) : List Char → Option (Nat × TemplateEnd × List Char)
  | [] => none
  | c :: cs =>
    if c == '`' then some (offset + 1, .closed, cs)
    else if c == '\\' then
      match cs with
      | d :: cs => templatePart? (offset + 1 + d.utf8Size) cs
      | [] => none
    else match c, cs with
      | '$', '{' :: cs => some (offset + 2, .substitution, cs)
      | _, _ => templatePart? (offset + c.utf8Size) cs

end SfcWeave.Script
