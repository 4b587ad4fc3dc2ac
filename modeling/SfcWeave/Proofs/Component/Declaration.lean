import SfcWeave.Component.Target
import SfcWeave.Proofs.Script.Signature

/-!
# The declaration of child tags is read back

The tags of child components become string literals in the overloads that are declared for them. A
literal is read as its tag exactly if no line ends in the tag, and the whole declaration is read as
one member of its class, with an overload for each tag, exactly if no line ends in any:

    childDeclaration_overloads : DeclaresOverloads depth s (Cursor.start …) (types of tags) stop ↔
      (∀ tag ∈ tags, IsUnbroken tag) ∧ stop = …

For quotes and backslashes are escaped and line ends are not, and a line end closes a literal. The
text of the declaration is taken apart into lexemes once (`toList_childDeclaration`), and one
overload is read from its lexemes (`overloads_cons_iff`).
-/

namespace SfcWeave

open Script
open Text (byteLength byteLength_nil byteLength_cons byteLength_append)

variable {text : String} {c : Char} {cs : List Char}

/-! ### Literals -/

/-- A text without the characters that end a string literal with its line. -/
def IsUnbroken (text : String) : Prop := '\n' ∉ text.toList ∧ '\r' ∉ text.toList

instance : DecidablePred IsUnbroken := fun _ => inferInstanceAs (Decidable (_ ∧ _))

/-- How a character stands in a literal. -/
def escapedChar (c : Char) : List Char :=
  if c = '\\' then ['\\', '\\'] else if c = '"' then ['\\', '"'] else [c]

theorem toList_escapeQuoted (text : String) :
    (escapeQuoted text).toList = text.toList.flatMap escapedChar := by
  rw [escapeQuoted, String.toList_ofList]
  rfl

theorem stringBody?_escape {units : List Nat} {after : List Char}
    (h : stringEscape? cs = some (units, after)) :
    stringBody? '"' ('\\' :: cs) =
      (stringBody? '"' after).map fun (value, left) => (units ++ value, left) := by
  rw [stringBody?, if_neg (by decide), if_neg (by decide), if_pos (by decide)]
  split
  · next units' after' hread =>
    rw [h] at hread
    cases hread
    rfl
  · next hread =>
    rw [h] at hread
    cases hread

theorem stringBody?_cons (hquote : c ≠ '"') (hslash : c ≠ '\\') (hfeed : c ≠ '\n')
    (hreturn : c ≠ '\r') :
    stringBody? '"' (c :: cs) =
      (stringBody? '"' cs).map fun (value, left) => (c.toNat :: value, left) := by
  rw [stringBody?]
  simp [hquote, hslash, hfeed, hreturn]

/-- A character that does not end its line is read back. -/
theorem stringBody?_escapedChar (hfeed : c ≠ '\n') (hreturn : c ≠ '\r') :
    stringBody? '"' (escapedChar c ++ cs) =
      (stringBody? '"' cs).map fun (value, left) => (c.toNat :: value, left) := by
  by_cases hslash : c = '\\'
  · subst hslash
    have hescape : stringEscape? ('\\' :: cs) = some (['\\'.toNat], cs) := rfl
    exact stringBody?_escape hescape
  · by_cases hquote : c = '"'
    · subst hquote
      have hescape : stringEscape? ('"' :: cs) = some (['"'.toNat], cs) := rfl
      exact stringBody?_escape hescape
    · rw [escapedChar, if_neg hslash, if_neg hquote]
      exact stringBody?_cons hquote hslash hfeed hreturn

/-- Up to the end of a line a text is read back. -/
theorem stringBody?_escaped (h : '\n' ∉ cs ∧ '\r' ∉ cs) (rest : List Char) :
    stringBody? '"' (cs.flatMap escapedChar ++ rest) =
      (stringBody? '"' rest).map fun (units, left) => (cs.map Char.toNat ++ units, left) := by
  induction cs with
  | nil => simp
  | cons c cs ih =>
    simp only [List.mem_cons, not_or] at h
    obtain ⟨⟨hfeed, hfeeds⟩, hreturn, hreturns⟩ := h
    rw [List.flatMap_cons, List.append_assoc,
      stringBody?_escapedChar (Ne.symm hfeed) (Ne.symm hreturn), ih ⟨hfeeds, hreturns⟩,
      Option.map_map]
    rfl

theorem stringBody?_escapeQuoted (h : IsUnbroken text) (rest : List Char) :
    stringBody? '"' ((escapeQuoted text).toList ++ '"' :: rest) =
      some (text.toList.map Char.toNat, rest) := by
  rw [toList_escapeQuoted, stringBody?_escaped h]
  simp [stringBody?]

/-- A line that ends in a literal ends the literal. -/
theorem stringBody?_break (h : '\n' ∉ cs ∧ '\r' ∉ cs) (hc : c = '\n' ∨ c = '\r')
    (rest : List Char) :
    stringBody? '"' (cs.flatMap escapedChar ++ c :: rest) =
      some (cs.map Char.toNat, c :: rest) := by
  have hstop : stringBody? '"' (c :: rest) = some ([], c :: rest) := by
    rcases hc with rfl | rfl
    · simp [stringBody?]
    · simp [stringBody?]
  rw [stringBody?_escaped h, hstop]
  simp

/-- Where the first line of a text ends, and how the literal goes on from there. -/
theorem exists_break (h : ¬ IsUnbroken text) :
    ∃ before c after, (escapeQuoted text).toList = before.flatMap escapedChar ++ c :: after ∧
      String.ofList before ≠ text ∧ ('\n' ∉ before ∧ '\r' ∉ before) ∧ (c = '\n' ∨ c = '\r') := by
  have hmem : ∃ c ∈ text.toList, c == '\n' || c == '\r' := by
    rw [IsUnbroken, Classical.not_and_iff_not_or_not, Classical.not_not, Classical.not_not] at h
    rcases h with h | h
    · exact ⟨'\n', h, rfl⟩
    · exact ⟨'\r', h, rfl⟩
  obtain ⟨c, hfind⟩ := Option.isSome_iff_exists.mp (List.find?_isSome.mpr hmem)
  obtain ⟨hc, before, after, htext, hbefore⟩ := List.find?_eq_some_iff_append.mp hfind
  have hbreak : c = '\n' ∨ c = '\r' := by simpa using hc
  have hescaped : escapedChar c = [c] := by
    rcases hbreak with rfl | rfl <;> rfl
  refine ⟨before, c, after.flatMap escapedChar, ?_, ?_, ⟨?_, ?_⟩, hbreak⟩
  · rw [toList_escapeQuoted, htext, List.flatMap_append, List.flatMap_cons, hescaped]
    rfl
  · rintro rfl
    simp at htext
  · intro hfeed
    exact absurd (hbefore '\n' hfeed) (by decide)
  · intro hreturn
    exact absurd (hbefore '\r' hreturn) (by decide)

/-- Where a line ends, the literal is not closed. -/
theorem not_decodesTo_of_not_isUnbroken {value : String} (h : ¬ IsUnbroken text) :
    ¬ DecodesTo (escapeQuoted text) value := by
  obtain ⟨before, c, after, htext, -, hbefore, hc⟩ := exists_break h
  rintro ⟨units, hbody, -⟩
  have hread := hbody []
  rw [htext, List.append_assoc, List.cons_append, stringBody?_break hbefore hc] at hread
  simp at hread

/-- A text without line ends comes back from its literal, and any other literal is not closed. -/
theorem decodesTo_escapeQuoted_iff {value : String} :
    DecodesTo (escapeQuoted text) value ↔ IsUnbroken text ∧ value = text := by
  have hback : IsUnbroken text → DecodesTo (escapeQuoted text) text := by
    intro h
    refine ⟨_, stringBody?_escapeQuoted h, ?_⟩
    rw [ofCodePoints_map_toNat, String.ofList_toList]
  constructor
  · intro h
    have hunbroken : IsUnbroken text :=
      Decidable.of_not_not fun hbroken => not_decodesTo_of_not_isUnbroken hbroken h
    exact ⟨hunbroken, eq_of_decodesTo h (hback hunbroken)⟩
  · rintro ⟨hunbroken, rfl⟩
    exact hback hunbroken

/-! ### The text of the declaration -/

/-- An overload for tags of a type, from the line end in front of it on. -/
def overloadPieces (type : Piece) : List Piece :=
  [markPiece "\n    ".toList '(', wordPiece [] "tag", markPiece [] ':', type, markPiece [] ',',
    wordPiece [' '] "data", markPiece [] '?', markPiece [] ':', wordPiece [' '] "any",
    markPiece [] ',', wordPiece [' '] "children", markPiece [] '?', markPiece [] ':',
    wordPiece [' '] "any", markPiece [] ')', markPiece [] ':', wordPiece [' '] "any"]

/-- The literal of a tag. -/
def literalPiece (tag : String) : Piece :=
  ⟨[' '], '"' :: (escapeQuoted tag).toList ++ ['"'], .string tag⟩

/-- The declaration up to its opening brace. -/
def openingPieces : List Piece :=
  [wordPiece "\n  ".toList "declare", wordPiece [' '] "_c", markPiece [] ':',
    markPiece [' '] '\x7b']

/-- The types of the tags: one literal for each child, and the name of the reserved tags. -/
def tagTypes (tags : List String) : List Piece :=
  tags.map literalPiece ++ [wordPiece [' '] "ReservedTag"]

/-- The brace that closes the declaration. -/
def closingPiece : Piece := markPiece "\n  ".toList '\x7d'

/-- The declaration up to its closing brace. -/
def declarationPieces (tags : List String) : List Piece :=
  openingPieces ++ ((tagTypes tags).flatMap overloadPieces ++ [closingPiece])

theorem printed_overloadPieces (type : Piece) :
    printed (overloadPieces type) =
      "\n    (tag:".toList ++ (type.gap ++ type.text) ++
        ", data?: any, children?: any): any".toList := by
  simp [printed, overloadPieces, markPiece, wordPiece]

/-- The line of an overload, with the line end that the code puts behind it in front. -/
theorem toList_tagOverload (tag : String) :
    '\n' :: (tagOverload tag).toList = printed (overloadPieces (literalPiece tag)) ++ ['\n'] := by
  rw [printed_overloadPieces]
  simp [tagOverload, literalPiece]

theorem toList_join_tagOverload (tags : List String) :
    '\n' :: (String.join (tags.map tagOverload)).toList =
      printed ((tags.map literalPiece).flatMap overloadPieces) ++ ['\n'] := by
  induction tags with
  | nil => rfl
  | cons tag tags ih =>
    rw [List.map_cons, String.join_cons, String.toList_append, ← List.cons_append,
      toList_tagOverload, List.append_assoc, List.singleton_append, ih, List.map_cons,
      List.flatMap_cons, printed_append, List.append_assoc]

/-- The text is what the pieces say, and one more line end. -/
theorem toList_childDeclaration (tags : List String) :
    (childDeclaration tags).toList = printed (declarationPieces tags) ++ ['\n'] := by
  have hopening : "\n  declare _c: \x7b\n".toList = printed openingPieces ++ ['\n'] := by
    simp [printed, openingPieces, wordPiece, markPiece]
  have hclosing :
      '\n' :: "    (tag: ReservedTag, data?: any, children?: any): any\n  \x7d\n".toList =
        printed (overloadPieces (wordPiece [' '] "ReservedTag")) ++ printed [closingPiece] ++
          ['\n'] := by
    simp only [printed_overloadPieces]
    simp [printed, wordPiece, markPiece, closingPiece]
  have hjoin := toList_join_tagOverload tags
  have htypes : printed ((tagTypes tags).flatMap overloadPieces) =
      printed ((tags.map literalPiece).flatMap overloadPieces) ++
        printed (overloadPieces (wordPiece [' '] "ReservedTag")) := by
    simp [tagTypes, printed_append]
  unfold childDeclaration declarationPieces
  simp only [String.toList_append, printed_append, hopening, htypes]
  -- the line end of each part is in front of the next one in the pieces
  generalize "    (tag: ReservedTag, data?: any, children?: any): any\n  \x7d\n".toList = last at *
  generalize (String.join (tags.map tagOverload)).toList = lines at *
  calc
    _ = printed openingPieces ++ '\n' :: lines ++ last := by simp
    _ = printed openingPieces ++ printed ((tags.map literalPiece).flatMap overloadPieces) ++
        '\n' :: last := by rw [hjoin]; simp
    _ = _ := by rw [hclosing]; simp

theorem isGap_nil : IsGap [] := by decide

theorem isGap_space : IsGap [' '] := by decide

variable {rest : List Char} {tags : List String}

/-- An overload is written as its pieces, if the type of tags is a lexeme in front of a comma. -/
theorem written_overloadPieces {type : Piece} (hgap : IsGap type.gap)
    (htype : ∀ rest, Lexes type.text (',' :: rest) type.lexeme) (hrest : EndsWord rest) :
    Written (overloadPieces type) rest := by
  have hcolon : ∀ cs, EndsWord (':' :: cs) := fun cs => endsWord_cons.mpr (by decide)
  have hquestion : ∀ cs, EndsWord ('?' :: cs) := fun cs => endsWord_cons.mpr (by decide)
  have hcomma : ∀ cs, EndsWord (',' :: cs) := fun cs => endsWord_cons.mpr (by decide)
  have hclose : ∀ cs, EndsWord (')' :: cs) := fun cs => endsWord_cons.mpr (by decide)
  -- lexeme by lexeme, each with the character that ends it
  refine written_markPiece (by decide) ?_ (by decide)
  refine written_wordPiece isGap_nil ?_ (by decide) (hcolon _)
  refine written_markPiece isGap_nil ?_ (by decide)
  refine .cons hgap (htype _) ?_
  refine written_markPiece isGap_nil ?_ (by decide)
  refine written_wordPiece isGap_space ?_ (by decide) (hquestion _)
  refine written_questionPiece isGap_nil ?_ (by simp [printed, markPiece])
  refine written_markPiece isGap_nil ?_ (by decide)
  refine written_wordPiece isGap_space ?_ (by decide) (hcomma _)
  refine written_markPiece isGap_nil ?_ (by decide)
  refine written_wordPiece isGap_space ?_ (by decide) (hquestion _)
  refine written_questionPiece isGap_nil ?_ (by simp [printed, markPiece])
  refine written_markPiece isGap_nil ?_ (by decide)
  refine written_wordPiece isGap_space ?_ (by decide) (hclose _)
  refine written_markPiece isGap_nil ?_ (by decide)
  refine written_markPiece isGap_nil ?_ (by decide)
  exact written_wordPiece isGap_space .nil (by decide) hrest

/-! ### What is read of the declaration -/

variable {c d stop : Cursor} {types : List Lexeme} {offset depth : Nat} {newline : Bool}
  {s : Surroundings}

theorem isMark_of_markPiece {gap : List Char} {m : Char} (h : c.lexeme = (markPiece gap m).lexeme)
    (htext : String.singleton m = text) : c.isMark text = true := by
  simp [Cursor.isMark, h, markPiece, htext]

/-- The lexemes of an overload are one, and nothing else. -/
theorem overloads_cons_iff {type : Piece} {other : Lexeme}
    (h : Shows c (seen newline (overloadPieces type)) d) (htype : IsPlainType type.lexeme) :
    Overloads 3 c (other :: types) stop ↔ other = type.lexeme ∧ Overloads 3 d types stop := by
  simp only [overloadPieces, seen, shows_cons_iff, shows_nil_iff] at h
  obtain ⟨hopen, hnewline, htag, -, hcolon₁, -, htype₁, -, hcomma₁, -, hdata, -, hquestion₂, -,
    hcolon₂, -, htype₂, -, hcomma₂, -, hchildren, -, hquestion₃, -, hcolon₃, -, htype₃, -,
    hclose, -, hcolon, -, hresult, -, rfl⟩ := h
  have hfirst : TypedParameter c.next c.next.next.next.next :=
    .required ⟨htag, by decide⟩ (isMark_of_markPiece hcolon₁ (by decide)) (by rwa [htype₁])
      ⟨_, by decide, hcomma₁⟩
  have hsecond := TypedParameter.optional ⟨hdata, by decide⟩
    (isMark_of_markPiece hquestion₂ (by decide)) (isMark_of_markPiece hcolon₂ (by decide))
    (by rw [htype₂]; exact .any) ⟨_, by decide, hcomma₂⟩
  have hthird := TypedParameter.optional ⟨hchildren, by decide⟩
    (isMark_of_markPiece hquestion₃ (by decide)) (isMark_of_markPiece hcolon₃ (by decide))
    (by rw [htype₃]; exact .any) ⟨_, by decide, hclose⟩
  have hparameters := TypedParameters.more hfirst (isMark_of_markPiece hcomma₁ (by decide)) <|
    .more hsecond (isMark_of_markPiece hcomma₂ (by decide)) <|
    .last hthird (isMark_of_markPiece hclose (by decide))
  have hbreak : c.newline = true := by
    rw [hnewline, show (markPiece "\n    ".toList '(').gap.any isLineBreak = true by decide,
      Bool.or_true]
  rw [← htype₁]
  constructor
  · intro hoverloads
    cases hoverloads with
    | more _ _ hother _ _ _ hrest =>
      obtain rfl := hparameters.unique hother
      exact ⟨rfl, hrest⟩
  · rintro ⟨rfl, hrest⟩
    refine .more (isMark_of_markPiece hopen (by decide)) hbreak hparameters
      (isMark_of_markPiece hcolon₁ (by decide)) (isMark_of_markPiece hcolon (by decide)) ?_ hrest
    rw [hresult]
    exact .any

/-- A type that stands in front of the comma behind the tag of an overload. -/
structure IsTagType (type : Piece) : Prop where
  gap : IsGap type.gap
  lexes : ∀ rest, Lexes type.text (',' :: rest) type.lexeme
  plain : IsPlainType type.lexeme

theorem isTagType_literalPiece {tag : String} (h : IsUnbroken tag) :
    IsTagType (literalPiece tag) := by
  refine ⟨isGap_space, ?_, .string⟩
  intro rest
  have hbody : stringBody? '"' ((escapeQuoted tag).toList ++ ['"'] ++ ',' :: rest) =
      some (tag.toList.map Char.toNat, ',' :: rest) := by
    rw [List.append_assoc, List.singleton_append]
    exact stringBody?_escapeQuoted h (',' :: rest)
  have hlexes := lexes_string hbody
  rwa [ofCodePoints_map_toNat, String.ofList_toList] at hlexes

theorem isTagType_reserved : IsTagType (wordPiece [' '] "ReservedTag") := by
  refine ⟨isGap_space, ?_, .name (by decide)⟩
  intro rest
  have hword : IsWord "ReservedTag".toList := by decide
  have hlexes := lexes_word hword (endsWord_cons.mpr (by decide) : EndsWord (',' :: rest))
  rwa [String.ofList_toList] at hlexes

theorem isTagType_of_mem_tagTypes (h : ∀ tag ∈ tags, IsUnbroken tag) :
    ∀ type ∈ tagTypes tags, IsTagType type := by
  intro type htype
  simp only [tagTypes, List.mem_append, List.mem_map, List.mem_singleton] at htype
  rcases htype with ⟨tag, htag, rfl⟩ | rfl
  · exact isTagType_literalPiece (h tag htag)
  · exact isTagType_reserved

theorem start_closingPiece (offset : Nat) (newline : Bool) (rest : List Char) :
    (Cursor.start offset newline (printed [closingPiece] ++ rest)).isMark "\x7d" = true ∧
      (Cursor.start offset newline (printed [closingPiece] ++ rest)).newline = true ∧
      (Cursor.start offset newline (printed [closingPiece] ++ rest)).next =
        Cursor.start (offset + byteLength (printed [closingPiece])) false rest := by
  have hgap : IsGap closingPiece.gap := by decide
  have hbrace : '\x7d' ∈ singleMarks := by decide
  have hbreak : closingPiece.gap.any isLineBreak = true := by decide
  have hprinted : printed [closingPiece] = closingPiece.gap ++ ['\x7d'] := by
    simp [printed, closingPiece, markPiece]
  rw [hprinted, start_append hgap (lexes_singleMark hbrace)]
  exact ⟨rfl, by simp [hbreak], rfl⟩

theorem start_lineFeed (offset : Nat) (newline : Bool) (rest : List Char) :
    Cursor.start offset newline ('\n' :: rest) = Cursor.start (offset + 1) true rest := by
  have hskip := @skipGap_append ['\n'] rest (by decide) offset newline
  rw [List.singleton_append, show ['\n'].any isLineBreak = true by decide, Bool.or_true] at hskip
  unfold Cursor.start
  rw [hskip]
  rfl

theorem isMark_start_brace (offset : Nat) (newline : Bool) (rest : List Char) :
    (Cursor.start offset newline ('\x7d' :: rest)).isMark "\x7d" = true := by
  have hlexes : Lexes ['\x7d'] rest _ := lexes_singleMark (by decide)
  have hstart := start_append isGap_nil hlexes offset newline
  rw [List.nil_append, List.singleton_append] at hstart
  rw [hstart]
  rfl

theorem endsWord_closingPiece (rest : List Char) : EndsWord (printed [closingPiece] ++ rest) :=
  endsWord_cons.mpr (by decide)

/-- Overloads start with a line end, so that none goes on in the word in front of it. -/
theorem endsWord_overloads (types : List Piece) (hrest : EndsWord rest) :
    EndsWord (printed (types.flatMap overloadPieces) ++ rest) := by
  cases types with
  | nil => exact hrest
  | cons => exact endsWord_cons.mpr (by decide)

/-- Overloads are read from their text, up to the brace behind them. -/
theorem overloads_start {types : List Piece} (h : ∀ type ∈ types, IsTagType type) (offset : Nat)
    (newline : Bool) (rest : List Char) :
    Overloads 3
      (Cursor.start offset newline
        (printed (types.flatMap overloadPieces) ++ (printed [closingPiece] ++ rest)))
      (types.map (·.lexeme))
      (Cursor.start (offset + byteLength (printed (types.flatMap overloadPieces)))
        (types.isEmpty && newline) (printed [closingPiece] ++ rest)) := by
  induction types generalizing offset newline with
  | nil =>
    obtain ⟨hmark, hnewline, -⟩ := start_closingPiece offset newline rest
    exact .close hmark hnewline
  | cons type types ih =>
    rw [List.forall_mem_cons] at h
    obtain ⟨htype, htypes⟩ := h
    have hwritten := written_overloadPieces htype.gap htype.lexes
      (endsWord_overloads types (endsWord_closingPiece rest))
    have hshows := shows_of_written hwritten offset newline
    rw [List.flatMap_cons, printed_append, List.append_assoc, byteLength_append, ← Nat.add_assoc]
    exact (overloads_cons_iff hshows htype.plain).mpr ⟨rfl, ih htypes _ _⟩

/-- An overload up to where a line ends in the literal of its tag. -/
def brokenPieces (before : List Char) : List Piece :=
  [markPiece "\n    ".toList '(', wordPiece [] "tag", markPiece [] ':',
    ⟨[' '], '"' :: before.flatMap escapedChar, .string (String.ofList before)⟩]

/-- The type of an overload for a tag in which a line ends is another literal. -/
theorem lexeme_of_not_isUnbroken {tag : String} (h : ¬ IsUnbroken tag) (offset : Nat)
    (newline : Bool) (rest : List Char) :
    (Cursor.start offset newline
      (printed (overloadPieces (literalPiece tag)) ++ rest)).next.next.next.lexeme ≠
        .string tag := by
  obtain ⟨before, c, after, htext, hne, hbefore, hc⟩ := exists_break h
  -- up to the end of the line the literal is read as what stands before it
  have hlexes := fun rest => lexes_string (stringBody?_break hbefore hc rest)
  simp only [ofCodePoints_map_toNat] at hlexes
  have hcut : ∃ more, printed (overloadPieces (literalPiece tag)) ++ rest =
      printed (brokenPieces before) ++ c :: more := by
    refine ⟨after ++ '"' :: ", data?: any, children?: any): any".toList ++ rest, ?_⟩
    rw [printed_overloadPieces]
    simp [literalPiece, htext, printed, brokenPieces, markPiece, wordPiece]
  obtain ⟨more, hmore⟩ := hcut
  have hwritten : Written (brokenPieces before) (c :: more) := by
    refine written_markPiece (by decide) ?_ (by decide)
    refine written_wordPiece isGap_nil ?_ (by decide) (endsWord_cons.mpr (by decide))
    refine written_markPiece isGap_nil ?_ (by decide)
    exact .cons isGap_space (hlexes more) .nil
  have hshows := shows_of_written hwritten offset newline
  rw [hmore]
  generalize Cursor.start offset newline (printed (brokenPieces before) ++ c :: more) = start at *
  simp only [seen, brokenPieces, shows_cons_iff] at hshows
  obtain ⟨-, -, -, -, -, -, hlexeme, -⟩ := hshows
  rw [hlexeme]
  intro heq
  exact hne (Lexeme.string.inj heq)

/-- If overloads are read as those of tags, no line ends in any of the tags. -/
theorem isUnbroken_of_overloads (hrest : EndsWord rest)
    (h : Overloads 3
      (Cursor.start offset newline (printed ((tagTypes tags).flatMap overloadPieces) ++ rest))
      (tags.map .string ++ types) stop) : ∀ tag ∈ tags, IsUnbroken tag := by
  induction tags generalizing offset newline with
  | nil => exact List.forall_mem_nil _
  | cons tag tags ih =>
    have htypes : tagTypes (tag :: tags) = literalPiece tag :: tagTypes tags := rfl
    rw [htypes, List.flatMap_cons, printed_append, List.append_assoc] at h
    by_cases hunbroken : IsUnbroken tag
    · obtain ⟨hgap, hlexes, hplain⟩ := isTagType_literalPiece hunbroken
      have hwritten := written_overloadPieces hgap hlexes (endsWord_overloads (tagTypes tags) hrest)
      have hshows := shows_of_written hwritten offset newline
      obtain ⟨-, hmore⟩ := (overloads_cons_iff hshows hplain).mp h
      exact List.forall_mem_cons.mpr ⟨hunbroken, ih hmore⟩
    · have hother := lexeme_of_not_isUnbroken hunbroken offset newline
        (printed ((tagTypes tags).flatMap overloadPieces) ++ rest)
      exact absurd h.head_eq hother

theorem length_le_byteLength_overloads (types : List Piece) :
    10 * types.length ≤ byteLength (printed (types.flatMap overloadPieces)) := by
  induction types with
  | nil => exact Nat.zero_le _
  | cons type types ih =>
    have hopening : byteLength "\n    (tag:".toList = 10 := by decide
    rw [List.flatMap_cons, printed_append, byteLength_append, printed_overloadPieces,
      byteLength_append, byteLength_append, hopening, List.length_cons]
    omega

theorem written_openingPieces (rest : List Char) : Written openingPieces rest := by
  refine written_wordPiece (by decide) ?_ (by decide) (endsWord_cons.mpr (by decide))
  refine written_wordPiece isGap_space ?_ (by decide) (endsWord_cons.mpr (by decide))
  refine written_markPiece isGap_nil ?_ (by decide)
  exact written_markPiece isGap_space .nil (by decide)

/-- The cursor stands on `declare _c: \{`, and `inner` behind it. -/
structure OpensDeclaration (c inner : Cursor) : Prop where
  keyword : c.lexeme = .word "declare" false
  name : IsMemberName c.next "_c"
  colon : c.next.next.isMark ":" = true
  brace : c.next.next.next.isMark "\x7b" = true
  inner : c.next.next.next.next = inner

theorem opensDeclaration_start (offset : Nat) (newline : Bool) (rest : List Char) :
    OpensDeclaration (Cursor.start offset newline (printed openingPieces ++ rest))
      (Cursor.start (offset + byteLength (printed openingPieces)) false rest) := by
  have hshows := shows_of_written (written_openingPieces rest) offset newline
  generalize Cursor.start offset newline (printed openingPieces ++ rest) = c at *
  simp only [openingPieces, seen, shows_cons_iff, shows_nil_iff] at hshows
  obtain ⟨hdeclare, -, hname, hsame, hcolon, -, hopen, -, hinner⟩ := hshows
  exact ⟨hdeclare, ⟨hname, by decide, by rw [hsame]; decide⟩,
    isMark_of_markPiece hcolon (by decide), isMark_of_markPiece hopen (by decide), hinner⟩

/-- From this cursor a script declares overloads of `_c` whose tags have these types: they are one
member of a class, and its type has one member for each of them. -/
structure DeclaresOverloads (depth : Nat) (s : Surroundings) (c : Cursor) (types : List Lexeme)
    (stop : Cursor) : Prop where
  member : Reads (Grammar.classMember (Grammar.ofDepth (depth + 6))) s c () stop
  overloads : ∃ inner close, OpensDeclaration c inner ∧ Overloads 3 inner types close ∧
    close.next = stop ∧
    Reads (Reader.whileHolds (return !(← Reader.atMark "\x7d"))
      (Grammar.typeMember (Grammar.ofDepth (depth + 3)))) s inner
        (List.replicate types.length ()) close

/-- Overloads behind the opening of a declaration, in front of the brace that closes a class. -/
theorem declaresOverloads_of_overloads {inner close : Cursor} (hopens : OpensDeclaration c inner)
    (h : Overloads 3 inner types close) (harity : 3 ≤ s.size) (hsize : types.length ≤ s.size)
    (hstop : close.next.isMark "\x7d" = true) :
    DeclaresOverloads depth s c types close.next := by
  refine ⟨?_, inner, close, hopens, h, rfl, reads_overloads h harity hsize⟩
  obtain ⟨hkeyword, hname, hcolon, hbrace, rfl⟩ := hopens
  exact reads_classMember hkeyword hname hcolon hbrace h harity hsize hstop

theorem lexeme_tagTypes (tags : List String) :
    (tagTypes tags).map (·.lexeme) = tags.map .string ++ [.word "ReservedTag" false] := by
  simp [tagTypes, literalPiece, wordPiece]

theorem byteLength_childDeclaration (tags : List String) :
    byteLength (childDeclaration tags).toList = byteLength (printed openingPieces) +
      byteLength (printed ((tagTypes tags).flatMap overloadPieces)) +
        byteLength (printed [closingPiece]) + 1 := by
  have hfeed : byteLength ['\n'] = 1 := by decide
  rw [toList_childDeclaration, declarationPieces, printed_append, printed_append, byteLength_append,
    byteLength_append, byteLength_append, hfeed]
  omega

/-- A declaration in front of the brace that closes a class, in its three parts. -/
theorem childDeclaration_append (tags : List String) (rest : List Char) :
    (childDeclaration tags).toList ++ '\x7d' :: rest = printed openingPieces ++
      (printed ((tagTypes tags).flatMap overloadPieces) ++
        (printed [closingPiece] ++ '\n' :: '\x7d' :: rest)) := by
  rw [toList_childDeclaration, declarationPieces, printed_append, printed_append]
  simp

/-- The declaration of tags in which no line ends is read as it is meant, up to the brace that
closes the class. -/
theorem declaresOverloads_childDeclaration (h : ∀ tag ∈ tags, IsUnbroken tag) (depth offset : Nat)
    (newline : Bool) (rest : List Char)
    (hsize : byteLength (childDeclaration tags).toList ≤ s.size) :
    DeclaresOverloads depth s
      (Cursor.start offset newline ((childDeclaration tags).toList ++ '\x7d' :: rest))
      (tags.map .string ++ [.word "ReservedTag" false])
      (Cursor.start (offset + byteLength (childDeclaration tags).toList) true
        ('\x7d' :: rest)) := by
  have hlength := byteLength_childDeclaration tags
  have hopens := opensDeclaration_start offset newline
    (printed ((tagTypes tags).flatMap overloadPieces) ++
      (printed [closingPiece] ++ '\n' :: '\x7d' :: rest))
  have hoverloads := overloads_start (isTagType_of_mem_tagTypes h)
    (offset + byteLength (printed openingPieces)) false ('\n' :: '\x7d' :: rest)
  rw [lexeme_tagTypes] at hoverloads
  -- behind the declaration its line ends, and then the class is closed
  obtain ⟨-, -, hnext⟩ := start_closingPiece
    (offset + byteLength (printed openingPieces) +
      byteLength (printed ((tagTypes tags).flatMap overloadPieces)))
    ((tagTypes tags).isEmpty && false) ('\n' :: '\x7d' :: rest)
  rw [start_lineFeed] at hnext
  have hstop : offset + byteLength (printed openingPieces) +
      byteLength (printed ((tagTypes tags).flatMap overloadPieces)) +
        byteLength (printed [closingPiece]) + 1 =
      offset + byteLength (childDeclaration tags).toList := by omega
  rw [hstop] at hnext
  have hmany := length_le_byteLength_overloads (tagTypes tags)
  have hcount : (tagTypes tags).length =
      (tags.map Lexeme.string ++ [Lexeme.word "ReservedTag" false]).length := by
    rw [← lexeme_tagTypes, List.length_map]
  have hpositive : 0 < (tagTypes tags).length := by simp [tagTypes]
  rw [childDeclaration_append, ← hnext]
  refine declaresOverloads_of_overloads hopens hoverloads (by omega) (by omega) ?_
  rw [hnext]
  exact isMark_start_brace _ _ rest

/-- If the declaration is read as it is meant, no line ends in any tag. -/
theorem isUnbroken_of_declaresOverloads
    (h : DeclaresOverloads depth s
      (Cursor.start offset newline ((childDeclaration tags).toList ++ '\x7d' :: rest))
      (tags.map .string ++ types) stop) : ∀ tag ∈ tags, IsUnbroken tag := by
  obtain ⟨-, inner, close, ⟨-, -, -, -, hinner⟩, hoverloads, -, -⟩ := h
  rw [childDeclaration_append] at hinner
  obtain ⟨-, -, -, -, hstart⟩ := opensDeclaration_start offset newline
    (printed ((tagTypes tags).flatMap overloadPieces) ++
      (printed [closingPiece] ++ '\n' :: '\x7d' :: rest))
  rw [← hinner, hstart] at hoverloads
  exact isUnbroken_of_overloads (endsWord_closingPiece _) hoverloads

/-- The literal of a tag is read as the tag exactly if no line ends in it, and otherwise as nothing.
The declaration in front of the brace that closes a class is one member, with an overload for each
tag and one for the reserved tags, exactly if no line ends in any tag. -/
theorem childDeclaration_overloads (tags : List String) :
    (∀ tag ∈ tags, ∀ value, DecodesTo (escapeQuoted tag) value ↔ IsUnbroken tag ∧ value = tag) ∧
    ∀ (depth : Nat) (s : Surroundings) (offset : Nat) (newline : Bool) (rest : List Char)
      (stop : Cursor), byteLength (childDeclaration tags).toList ≤ s.size →
      (DeclaresOverloads depth s
          (Cursor.start offset newline ((childDeclaration tags).toList ++ '\x7d' :: rest))
          (tags.map .string ++ [.word "ReservedTag" false]) stop ↔
        (∀ tag ∈ tags, IsUnbroken tag) ∧
          stop = Cursor.start (offset + byteLength (childDeclaration tags).toList) true
            ('\x7d' :: rest)) := by
  refine ⟨?_, ?_⟩
  · intro tag _ value
    exact decodesTo_escapeQuoted_iff
  · intro depth s offset newline rest stop hsize
    constructor
    · intro hdeclares
      have hunbroken := isUnbroken_of_declaresOverloads hdeclares
      have hmeant := declaresOverloads_childDeclaration hunbroken depth offset newline rest hsize
      exact ⟨hunbroken, (hdeclares.member.unique hmeant.member).2⟩
    · rintro ⟨hunbroken, rfl⟩
      exact declaresOverloads_childDeclaration hunbroken depth offset newline rest hsize

/-- Quotes, backslashes and control characters come back. -/
theorem childDeclaration_overloads_escaped :
    (∀ value, DecodesTo "a\\\"b\\\\\u2028" value ↔ value = "a\"b\\\u2028") ∧
    DeclaresOverloads 0 { size := 200 }
      (Cursor.start 0 false ((childDeclaration ["a\"b\\\u2028", "c\td"]).toList ++ ['\x7d']))
      [.string "a\"b\\\u2028", .string "c\td", .word "ReservedTag" false]
      (Cursor.start (byteLength (childDeclaration ["a\"b\\\u2028", "c\td"]).toList) true
        ['\x7d']) := by
  obtain ⟨hliterals, hdeclares⟩ := childDeclaration_overloads ["a\"b\\\u2028", "c\td"]
  have hunbroken : ∀ tag ∈ ["a\"b\\\u2028", "c\td"], IsUnbroken tag := by decide +kernel
  refine ⟨?_, ?_⟩
  · intro value
    have hliteral := hliterals "a\"b\\\u2028" (by decide) value
    rw [show escapeQuoted "a\"b\\\u2028" = "a\\\"b\\\\\u2028" by decide +kernel] at hliteral
    simpa [hunbroken] using hliteral
  · have hsize : byteLength (childDeclaration ["a\"b\\\u2028", "c\td"]).toList ≤ 200 := by
      decide +kernel
    apply (hdeclares 0 { size := 200 } 0 false [] _ hsize).mpr
    exact ⟨hunbroken, by rw [Nat.zero_add]⟩

/-- A class that registers a component under a key in which a line ends, up to the brace that closes
it. -/
def brokenKeySample : String :=
  "@Component(\x7b components: \x7b 'a\\nb': B \x7d \x7d)\nexport default class A \x7b"

theorem childDeclaration_overloads_lineFeed :
    (Snapshot.ofText Script.parse (brokenKeySample ++ "\x7d")).toOption.bind
        (fun script => (locate "A.vue" script).first) =
      some (.component (.cls ⟨"A", ⟨57, 67⟩, 66, ["a\nb"]⟩)) ∧
    ¬ DecodesTo (escapeQuoted "a\nb") "a\nb" ∧
    (Script.parse (brokenKeySample ++ childDeclaration ["a\nb"] ++ "\x7d")).toOption.isNone := by
  refine ⟨by decide +kernel, ?_, by decide +kernel⟩
  exact not_decodesTo_of_not_isUnbroken (by decide)

end SfcWeave
