import SfcWeave.Proofs.Script.Lexing
import SfcWeave.Proofs.Script.Reading
import SfcWeave.Script.Parser

/-!
# Signatures are read

Call signatures whose parameters have plain types, and the members of classes whose type is made of
such signatures. `Overloads arity c types stop` says that signatures follow each other from one
place of a script to another, and the grammar reads them, one member of an object type for each:

    reads_overloads : Overloads arity c types stop → … →
      Reads (whileHolds … (typeMember …)) s c (List.replicate types.length ()) stop

In braces they are the type of a property, which is one member of its class (`reads_classMember`).

The predicates are about lexemes, so that a production is followed once, whatever the names and the
types are.
-/

namespace SfcWeave.Script

open Reader Grammar

variable {s : Surroundings} {c d e : Cursor} {depth : Nat} {text : String} {texts : List String}

/-! ### What ends a type -/

/-- The marks behind which no type goes on. -/
def typeEnds : List String := [",", ")", "(", "\x7d"]

/-- The cursor stands on a mark that ends a type. -/
def EndsType (c : Cursor) : Prop := ∃ mark ∈ typeEnds, c.lexeme = .mark mark

theorem EndsType.isMark_eq_false (h : EndsType c) (htext : text ∉ typeEnds) :
    c.isMark text = false := by
  obtain ⟨mark, hmark, hlexeme⟩ := h
  simp only [Cursor.isMark, hlexeme, beq_eq_false_iff_ne]
  rintro rfl
  exact htext hmark

theorem EndsType.isOneOf_eq_false (h : EndsType c) (htexts : ∀ text ∈ texts, text ∉ typeEnds) :
    c.isOneOf texts = false := by
  obtain ⟨mark, hmark, hlexeme⟩ := h
  simp only [Cursor.isOneOf, hlexeme, List.contains_eq_mem, decide_eq_false_iff_not]
  intro hmem
  exact htexts mark hmem hmark

theorem EndsType.isWord_eq_false (h : EndsType c) : c.isWord text = false := by
  obtain ⟨mark, -, hlexeme⟩ := h
  simp [Cursor.isWord, hlexeme]

/-! ### Types -/

/-- The cursor stands on nothing that a type with operators, a function type or a predicate starts
with. -/
structure StartsSimply (c : Cursor) : Prop where
  marks : ∀ text ∈ ["<", "(", "|", "&"], c.isMark text = false
  words : ∀ text ∈ ["keyof", "unique", "readonly", "infer", "new", "abstract", "asserts"],
    c.isWord text = false

theorem reads_joinedTypes {mark : String} {part : Reader Unit} (hstart : c.isMark mark = false)
    (hpart : Reads part s c () d) (hstop : d.isMark mark = false) :
    Reads (joinedTypes mark part) s c () d :=
  .bind (reads_accept_not hstart) <| .bind hpart <|
    .bind (reads_whileHolds_not (reads_accept_not hstop)) .pure

/-- A type without operators is a type, if it ends there. -/
theorem reads_type (hstart : StartsSimply c) (hends : EndsType d)
    (hsimple : Reads (simpleType (ofDepth depth)) s c () d) :
    Reads (ofDepth (depth + 3)).type s c () d := by
  have harray : Reads (arrayType (ofDepth depth)) s c () d := by
    refine .bind hsimple (.bind (reads_whileHolds_not ?_) .pure)
    exact reads_onSameLine_not (reads_accept_not (hends.isMark_eq_false (by decide)))
  have hoperator : Reads (ofDepth (depth + 1)).typeOperator s c () d := by
    refine .bind reads_cursor ?_
    rw [hstart.words "keyof" (by decide), hstart.words "unique" (by decide),
      hstart.words "readonly" (by decide), hstart.words "infer" (by decide)]
    exact harray
  have hfunction : Reads (atFunctionType (ofDepth (depth + 1))) s c false c := by
    refine .bind reads_atMark ?_
    rw [hstart.marks "<" (by decide)]
    refine .bind reads_atMark ?_
    rw [hstart.marks "(" (by decide)]
    exact .pure
  have hplain : Reads (ofDepth (depth + 2)).plainType s c () d := by
    refine .bind reads_cursor (.bind hfunction ?_)
    rw [hstart.words "new" (by decide), hstart.words "abstract" (by decide)]
    apply reads_joinedTypes (hstart.marks "|" (by decide)) _ (hends.isMark_eq_false (by decide))
    apply reads_joinedTypes (hstart.marks "&" (by decide)) _ (hends.isMark_eq_false (by decide))
    exact hoperator
  have hextends : Reads (onSameLine (acceptWord "extends")) s d false d :=
    reads_onSameLine_not (reads_acceptWord_not hends.isWord_eq_false)
  refine .bind hplain (.bind .read ?_)
  cases s.conditionalTypes with
  | true => exact .bind hextends .pure
  | false => exact .bind .pure .pure

/-- The words that mean something in types, so that no type is called by them. -/
def typeWords : List String :=
  keywords ++ ["asserts", "keyof", "unique", "readonly", "infer", "abstract", "public", "protected",
    "private", "any", "boolean", "bigint", "never", "number", "object", "string", "symbol",
    "unknown", "undefined", "intrinsic"]

/-- A type that is a single lexeme: a string literal, `any`, or the name of a type. -/
inductive IsPlainType : Lexeme → Prop
  | string {value : String} : IsPlainType (.string value)
  | any : IsPlainType (.word "any" false)
  | name {text : String} : text ∉ typeWords → IsPlainType (.word text false)

theorem isWord_eq_false {name : String} (hlexeme : c.lexeme = .word name false)
    (hname : name ∉ texts) (htext : text ∈ texts) : c.isWord text = false := by
  simp only [Cursor.isWord, hlexeme, Bool.not_false, Bool.and_true, beq_eq_false_iff_ne]
  rintro rfl
  exact hname htext

theorem startsSimply_of_isPlainType (h : IsPlainType c.lexeme) : StartsSimply c := by
  generalize hlexeme : c.lexeme = lexeme at h
  cases h with
  | string =>
    exact ⟨by simp [Cursor.isMark, hlexeme], by simp [Cursor.isWord, hlexeme]⟩
  | any =>
    exact ⟨by simp [Cursor.isMark, hlexeme], by simp [Cursor.isWord, hlexeme]⟩
  | name hname =>
    refine ⟨by simp [Cursor.isMark, hlexeme], ?_⟩
    intro text htext
    apply isWord_eq_false hlexeme hname
    revert text
    decide

/-- A name that is not followed by a point is a qualified name. -/
theorem reads_qualifiedName {name : String} (h : c.word? = some name)
    (hnext : c.next.isMark "." = false) : Reads qualifiedName s c () c.next := by
  refine .bind (reads_name h) (.bind (reads_repeatUntil_stop (a := ()) ?_) .pure)
  exact .bind (reads_accept_not hnext) .pure

theorem reads_skipAccessModifier_not
    (h : ∀ text ∈ ["public", "protected", "private", "readonly"], c.isWord text = false) :
    Reads skipAccessModifier s c false c := by
  have hnone : ["public", "protected", "private", "readonly"].any c.isWord = false := by
    rw [List.any_eq_false]
    intro text htext
    simp [h text htext]
  refine .bind reads_cursor ?_
  dsimp only
  rw [hnone, Bool.false_and, if_neg Bool.false_ne_true]
  exact .pure

theorem basic_subset : ∀ {text : String},
    text ∈ ["void", "null", "any", "boolean", "bigint", "never", "number", "object", "string",
      "symbol", "unknown", "undefined", "intrinsic"] → text ∈ typeWords := by
  decide

theorem reads_simpleType {g : Grammar} (h : IsPlainType c.lexeme) (hnext : EndsType c.next) :
    Reads (simpleType g) s c () c.next := by
  refine .bind reads_cursor ?_
  generalize hlexeme : c.lexeme = lexeme at h
  cases h with
  | string => exact reads_advance
  | any =>
    simp only [Cursor.isWord, hlexeme]
    rw [hnext.isMark_eq_false (by decide)]
    exact reads_advance
  | @name text hname =>
    have hword : ∀ other ∈ typeWords, c.isWord other = false := fun other hother =>
      isWord_eq_false hlexeme hname hother
    have hbasic : isBasicType text = false := by
      unfold isBasicType
      rw [List.contains_eq_mem, decide_eq_false_iff_not]
      intro hmem
      exact hname (basic_subset hmem)
    have hkeyword : keywords.contains text = false := by
      rw [List.contains_eq_mem, decide_eq_false_iff_not]
      intro hmem
      exact hname (List.mem_append_left _ hmem)
    have hmodifier : ∀ other ∈ ["public", "protected", "private", "readonly"],
        c.isWord other = false := by
      intro other hother
      apply hword
      revert other
      decide
    have hangle : c.next.isOneOf ["<", "<<"] = false := hnext.isOneOf_eq_false (by decide)
    dsimp only
    rw [hword "true" (by decide), hword "false" (by decide), hword "import" (by decide),
      hword "this" (by decide), hword "typeof" (by decide), hword "asserts" (by decide), hbasic,
      hkeyword]
    refine .bind (reads_skipAccessModifier_not hmodifier) ?_
    have hname? : c.word? = some text := by simp [Cursor.word?, hlexeme]
    refine .bind (reads_qualifiedName hname? (hnext.isMark_eq_false (by decide))) ?_
    refine .bind reads_cursor (.bind (.bind reads_cursor .pure) ?_)
    rw [hangle, Bool.and_false]
    exact .pure

/-- A type of one lexeme is read, in front of a mark that ends it. -/
theorem reads_plainType (h : IsPlainType c.lexeme) (hnext : EndsType c.next) :
    Reads (fullType (ofDepth (depth + 3))) s c () c.next :=
  .withReader (reads_type (startsSimply_of_isPlainType h) hnext (reads_simpleType h hnext))

/-! ### Parameters -/

/-- The cursor stands on a word that names a variable. -/
structure IsName (c : Cursor) (text : String) : Prop where
  lexeme : c.lexeme = .word text false
  free : text ∉ keywords ++ moduleWords ++ ["readonly"]

theorem reads_identifier {allowYield : Bool} (h : IsName c text) :
    Reads (identifier allowYield) s c text c.next := by
  obtain ⟨hlexeme, hfree⟩ := h
  simp only [List.mem_append, not_or] at hfree
  obtain ⟨⟨hkeyword, hmodule⟩, -⟩ := hfree
  have hthis : (text == "this") = false := by
    rw [beq_eq_false_iff_ne]
    rintro rfl
    exact hkeyword (by decide)
  have hawait : (text == "await") = false := by
    rw [beq_eq_false_iff_ne]
    rintro rfl
    exact hmodule (by decide)
  have hyield : (text == "yield") = false := by
    rw [beq_eq_false_iff_ne]
    rintro rfl
    exact hmodule (by decide)
  have hcontains : keywords.contains text = false := by
    rw [List.contains_eq_mem, decide_eq_false_iff_not]
    exact hkeyword
  refine .bind reads_cursor ?_
  simp only [Cursor.word?, hlexeme]
  refine .bind reads_advance (.bind .read ?_)
  simp only [hthis, hawait, hyield, hcontains]
  exact .pure

theorem reads_typeIfAny (hcolon : c.isMark ":" = true) (htype : IsPlainType c.next.lexeme)
    (hends : EndsType c.next.next) :
    Reads ( annotation (ofDepth (depth + 3))) s c () c.next.next := by
  refine .bind (reads_accept hcolon) ?_
  exact reads_plainType htype hends

theorem reads_bindingElement (h : IsName c text) (hnext : c.next.isMark "=" = false) :
    Reads (bindingElement (ofDepth (depth + 1))) s c (some .name) c.next := by
  have hbinding : Reads (ofDepth (depth + 1)).binding s c .name c.next := by
    refine .bind reads_cursor ?_
    rw [h.lexeme]
    exact .bind (reads_identifier h) .pure
  refine .bind hbinding (.bind (reads_accept_not hnext) ?_)
  exact .pure

theorem IsName.reads_skipAccessModifier (h : IsName c text) :
    Reads skipAccessModifier s c false c := by
  apply reads_skipAccessModifier_not
  intro other hother
  apply isWord_eq_false h.lexeme h.free
  revert other
  decide

/-- A parameter with a type, which may be optional, in front of the mark that ends its type. -/
inductive TypedParameter : Cursor → Cursor → Prop
  | required {c : Cursor} {text : String} : IsName c text → c.next.isMark ":" = true →
      IsPlainType c.next.next.lexeme → EndsType c.next.next.next →
      TypedParameter c c.next.next.next
  | optional {c : Cursor} {text : String} : IsName c text → c.next.isMark "?" = true →
      c.next.next.isMark ":" = true → IsPlainType c.next.next.next.lexeme →
      EndsType c.next.next.next.next → TypedParameter c c.next.next.next.next

/-- A cursor stands on one mark only. -/
theorem isMark_eq_false_of_isMark {other : String} (h : c.isMark text = true)
    (hother : text ≠ other) : c.isMark other = false := by
  unfold Cursor.isMark at *
  split at h
  · rw [beq_iff_eq] at h
    rw [beq_eq_false_iff_ne, h]
    exact hother
  · cases h

theorem reads_parameter (h : TypedParameter c d) :
    Reads (parameter (ofDepth (depth + 3))) s c (some .name) d := by
  cases h with
  | required hname hcolon htype hends =>
    have hsign : ∀ other, ":" ≠ other → c.next.isMark other = false := fun other hother =>
      isMark_eq_false_of_isMark hcolon hother
    refine .bind hname.reads_skipAccessModifier ?_
    refine .bind (reads_bindingElement hname (hsign "=" (by decide))) ?_
    refine .bind reads_atMark ?_
    rw [hsign "?" (by decide)]
    refine .bind (reads_typeIfAny hcolon htype hends) ?_
    refine .bind (reads_accept_not (hends.isMark_eq_false (by decide))) ?_
    exact .pure
  | optional hname hquestion hcolon htype hends =>
    have hsign : c.next.isMark "=" = false := isMark_eq_false_of_isMark hquestion (by decide)
    refine .bind hname.reads_skipAccessModifier ?_
    refine .bind (reads_bindingElement hname hsign) ?_
    refine .bind reads_atMark ?_
    rw [hquestion]
    refine .bind .read (.bind reads_advance ?_)
    refine .bind (reads_typeIfAny hcolon htype hends) ?_
    refine .bind (reads_accept_not (hends.isMark_eq_false (by decide))) ?_
    exact .pure

/-- A parameter is one with a question mark or one without. -/
theorem TypedParameter.unique (h : TypedParameter c d) (hother : TypedParameter c e) : d = e := by
  have habsurd : c.next.isMark ":" = true → c.next.isMark "?" = true → False := by
    intro hcolon hquestion
    rw [isMark_eq_false_of_isMark hcolon (by decide)] at hquestion
    cases hquestion
  cases h with
  | required _ hcolon =>
    cases hother with
    | required => rfl
    | optional _ hquestion => exact (habsurd hcolon hquestion).elim
  | optional _ hquestion =>
    cases hother with
    | required _ hcolon => exact (habsurd hcolon hquestion).elim
    | optional => rfl

theorem TypedParameter.isMark_eq_false (h : TypedParameter c d) : c.isMark text = false := by
  cases h with
  | required hname | optional hname => simp [Cursor.isMark, hname.lexeme]

theorem TypedParameter.isEnd_eq_false (h : TypedParameter c d) : c.isEnd = false := by
  cases h with
  | required hname | optional hname => simp [Cursor.isEnd, hname.lexeme]

/-- Parameters with commas between them, up to the parenthesis that closes them. -/
inductive TypedParameters : Cursor → Nat → Cursor → Prop
  | last {c d : Cursor} : TypedParameter c d → d.isMark ")" = true → TypedParameters c 1 d
  | more {c d stop : Cursor} {n : Nat} : TypedParameter c d → d.isMark "," = true →
      TypedParameters d.next n stop → TypedParameters c (n + 1) stop

theorem TypedParameters.isMark_stop {n : Nat} (h : TypedParameters c n d) :
    d.isMark ")" = true := by
  induction h with
  | last _ hclose => exact hclose
  | more _ _ _ ih => exact ih

theorem TypedParameters.unique {n m : Nat} (h : TypedParameters c n d)
    (hother : TypedParameters c m e) : d = e := by
  have habsurd : ∀ {c : Cursor}, c.isMark ")" = true → c.isMark "," = true → False := by
    intro c hclose hcomma
    rw [isMark_eq_false_of_isMark hclose (by decide)] at hcomma
    cases hcomma
  induction h generalizing m with
  | last hparameter hclose =>
    cases hother with
    | last hparameter' => exact hparameter.unique hparameter'
    | more hparameter' hcomma =>
      obtain rfl := hparameter.unique hparameter'
      exact (habsurd hclose hcomma).elim
  | more hparameter hcomma _ ih =>
    cases hother with
    | last hparameter' hclose =>
      obtain rfl := hparameter.unique hparameter'
      exact (habsurd hclose hcomma).elim
    | more hparameter' _ hmore =>
      obtain rfl := hparameter.unique hparameter'
      exact ih hmore

theorem reads_parameters {n : Nat} (h : TypedParameters c n d) (hsize : n ≤ s.size) :
    Reads (parameters (ofDepth (depth + 3))) s c (List.replicate n (some .name)) d := by
  have hbefore : ∀ {c d}, TypedParameter c d → Reads (before ")") s c true c := by
    intro c d hparameter
    refine .bind reads_cursor ?_
    rw [hparameter.isEnd_eq_false, hparameter.isMark_eq_false]
    exact .pure
  have helement : ∀ {c d}, TypedParameter c d →
      Reads (do
        let _ ← (ofDepth (depth + 3)).decorators
        if ← accept "..." then
          (ofDepth (depth + 3)).restParameter
          return some Binding.pattern
        else (ofDepth (depth + 3)).parameter) s c (some .name) d := by
    intro c d hparameter
    have hat : Reads (atMark "@") s c false c := by
      rw [← hparameter.isMark_eq_false]
      exact reads_atMark
    refine .bind (reads_whileHolds_not hat) ?_
    refine .bind (reads_accept_not hparameter.isMark_eq_false) ?_
    exact reads_parameter hparameter
  apply Repeats.reads_whileHolds _ (by simpa using hsize)
  clear hsize
  induction h with
  | @last c d hparameter hclose =>
    have hstop : Reads (before ")") s d false d := by
      refine .bind reads_cursor ?_
      rw [hclose, Bool.not_true, Bool.and_false]
      exact .pure
    refine .turn (hbefore hparameter) ?_ (.done hstop)
    refine .bind (helement hparameter) (.bind reads_atMark ?_)
    rw [hclose]
    exact .pure
  | more hparameter hcomma _ ih =>
    have hopen := isMark_eq_false_of_isMark hcomma (show "," ≠ ")" by decide)
    refine .turn (hbefore hparameter) ?_ ih
    refine .bind (helement hparameter) (.bind reads_atMark ?_)
    rw [hopen]
    exact .bind (reads_expect hcomma) .pure

/-- A type behind its mark that is no predicate. -/
theorem reads_resultType {mark : String} (hmark : c.isMark mark = true)
    (htype : IsPlainType c.next.lexeme) (hends : EndsType c.next.next) :
    Reads (resultType (ofDepth (depth + 3)) mark) s c () c.next.next := by
  have hasserts : c.next.isWord "asserts" = false :=
    (startsSimply_of_isPlainType htype).words "asserts" (by decide)
  have his : c.next.next.isWord "is" = false := hends.isWord_eq_false
  refine .bind (reads_expect hmark) ?_
  refine .bind reads_cursor (.bind reads_peek (.bind reads_peek ?_))
  rw [hasserts]
  refine .bind reads_peek (.bind reads_cursor ?_)
  rw [his, Bool.and_false, Bool.false_and]
  exact reads_plainType htype hends

/-- The parameters and the result of a signature without type parameters. -/
theorem reads_signature {n : Nat} (hopen : c.isMark "(" = true)
    (hparameters : TypedParameters c.next n d) (hsize : n ≤ s.size)
    (hcolon : d.next.isMark ":" = true) (hresult : IsPlainType d.next.next.lexeme)
    (hends : EndsType d.next.next.next) :
    Reads (signature (ofDepth (depth + 3))) s c () d.next.next.next := by
  have hangle := isMark_eq_false_of_isMark hopen (show "(" ≠ "<" by decide)
  have hnone : (List.replicate n (some Binding.name)).any Option.isNone = false := by simp
  have htypeParameters : Reads (typeParametersIfAny (ofDepth (depth + 3))) s c () c := by
    refine .bind reads_atMark ?_
    rw [hangle]
    exact .pure
  have hlist : Reads (signatureParameters (ofDepth (depth + 3))) s c.next
      (List.replicate n (some .name)) d.next := by
    refine .bind (reads_parameters hparameters hsize) ?_
    rw [hnone]
    exact .bind (reads_expect hparameters.isMark_stop) .pure
  have htype : Reads (resultTypeIfAny (ofDepth (depth + 3))) s d.next () d.next.next.next := by
    refine .bind reads_atMark ?_
    rw [hcolon]
    exact reads_resultType hcolon hresult hends
  exact .bind htypeParameters (.bind (reads_expect hopen) (.bind hlist htype))

/-! ### Overloads -/

/-- Call signatures with `arity` parameters, each on a line of its own, up to the brace that closes
them; `types` are the types of their first parameters. -/
inductive Overloads (arity : Nat) : Cursor → (types : List Lexeme) → Cursor → Prop
  | close {c : Cursor} : c.isMark "\x7d" = true → c.newline = true → Overloads arity c [] c
  | more {c d stop : Cursor} {types : List Lexeme} : c.isMark "(" = true → c.newline = true →
      TypedParameters c.next arity d → c.next.next.isMark ":" = true → d.next.isMark ":" = true →
      IsPlainType d.next.next.lexeme → Overloads arity d.next.next.next types stop →
      Overloads arity c (c.next.next.next.lexeme :: types) stop

variable {arity : Nat} {types : List Lexeme}

theorem lexeme_of_isMark (h : c.isMark text = true) : c.lexeme = .mark text := by
  unfold Cursor.isMark at h
  split at h
  · next other hlexeme =>
    rw [beq_iff_eq] at h
    rw [hlexeme, h]
  · cases h

/-- Overloads start on a new line, where a type ends. -/
theorem Overloads.starts (h : Overloads arity c types d) :
    c.newline = true ∧ EndsType c ∧ c.isMark "," = false ∧ c.isMark ";" = false := by
  cases h with
  | close hmark hnewline | more hmark hnewline =>
    exact ⟨hnewline, ⟨_, by decide, lexeme_of_isMark hmark⟩,
      isMark_eq_false_of_isMark hmark (by decide), isMark_eq_false_of_isMark hmark (by decide)⟩

theorem Overloads.isMark_stop (h : Overloads arity c types d) : d.isMark "\x7d" = true := by
  induction h with
  | close hmark => exact hmark
  | more _ _ _ _ _ _ _ ih => exact ih

theorem Overloads.head_eq {type : Lexeme} (h : Overloads arity c (type :: types) d) :
    c.next.next.next.lexeme = type := by
  cases h with
  | more => rfl

theorem reads_overload (hmark : c.isMark "(" = true) (hparameters : TypedParameters c.next arity d)
    (harity : arity ≤ s.size) (hcolon : d.next.isMark ":" = true)
    (hresult : IsPlainType d.next.next.lexeme)
    (hrest : Overloads arity d.next.next.next types e) :
    Reads (typeMember (ofDepth (depth + 3))) s c () d.next.next.next := by
  obtain ⟨hbreak, hends, hcomma, hsemicolon⟩ := hrest.starts
  have hopen : c.isOneOf ["(", "<"] = true := by
    simp [Cursor.isOneOf, lexeme_of_isMark hmark]
  have hend : Reads memberEnd s d.next.next.next () d.next.next.next := by
    refine .bind (reads_accept_not hcomma) ?_
    apply reads_expectEnd _ hsemicolon
    simp [Cursor.endsStatement, hbreak]
  refine .bind reads_cursor ?_
  rw [hopen]
  exact .bind (reads_signature hmark hparameters harity hcolon hresult hends) hend

/-- The members of an object type are its overloads. -/
theorem reads_overloads (h : Overloads arity c types d) (harity : arity ≤ s.size)
    (hsize : types.length ≤ s.size) :
    Reads (whileHolds (return !(← atMark "\x7d")) (typeMember (ofDepth (depth + 3)))) s c
      (List.replicate types.length ()) d := by
  apply Repeats.reads_whileHolds _ (by simpa using hsize)
  clear hsize
  induction h with
  | @close c hmark =>
    have hstop : Reads (do return !(← atMark "\x7d")) s c false c := by
      refine .bind reads_atMark ?_
      rw [hmark]
      exact .pure
    exact .done hstop
  | @more c d stop types hmark hnewline hparameters _ hcolon hresult hrest ih =>
    have htest : Reads (do return !(← atMark "\x7d")) s c true c := by
      refine .bind reads_atMark ?_
      rw [isMark_eq_false_of_isMark hmark (by decide)]
      exact .pure
    exact .turn htest (reads_overload hmark hparameters harity hcolon hresult hrest) ih

/-- Overloads in braces are an object type. -/
theorem reads_objectType (hopen : c.isMark "\x7b" = true) (h : Overloads arity c.next types d)
    (harity : arity ≤ s.size) (hsize : types.length ≤ s.size) :
    Reads (objectType (ofDepth (depth + 3))) s c () d.next :=
  .bind (reads_expect hopen) (.bind (reads_overloads h harity hsize) (reads_expect h.isMark_stop))

theorem startsSimply_of_isMark (h : c.isMark "\x7b" = true) : StartsSimply c := by
  refine ⟨?_, by simp [Cursor.isWord, lexeme_of_isMark h]⟩
  intro text htext
  apply isMark_eq_false_of_isMark h
  rintro rfl
  revert htext
  decide

/-- Overloads in braces are a type, in front of a mark that ends it. -/
theorem reads_objectType_fullType (hopen : c.isMark "\x7b" = true)
    (h : Overloads arity c.next types d) (harity : arity ≤ s.size) (hsize : types.length ≤ s.size)
    (hends : EndsType d.next) : Reads (fullType (ofDepth (depth + 6))) s c () d.next := by
  have hfirst : c.next.isOneOf ["+", "-"] = false ∧ c.next.isWord "readonly" = false ∧
      c.next.isMark "[" = false := by
    obtain ⟨-, hends, -, -⟩ := h.starts
    exact ⟨hends.isOneOf_eq_false (by decide), hends.isWord_eq_false,
      hends.isMark_eq_false (by decide)⟩
  -- neither a sign nor a bracket starts a mapped type here
  have hmapped : ∀ s, Reads atMappedType s c false c := by
    intro s
    apply reads_lookAhead_not
    refine (reads_expect hopen).refuses_bind (reads_cursor.refuses_bind ?_)
    rw [hfirst.1]
    refine (reads_acceptWord_not hfirst.2.1).refuses_bind ?_
    exact (refuses_expect hfirst.2.2).bind
  apply Reads.withReader
  apply reads_type (startsSimply_of_isMark hopen) hends
  refine .bind reads_cursor ?_
  rw [lexeme_of_isMark hopen]
  refine .bind (hmapped _) ?_
  exact reads_objectType hopen h harity hsize

/-! ### Members of classes -/

theorem reads_modifier?_none {allowed : List String} {keepStaticBlock : Bool}
    (h : ∀ text ∈ allowed, c.isWord text = false) :
    Reads (modifier? allowed keepStaticBlock) s c none c := by
  have hnone : allowed.find? c.isWord = none := by
    rw [List.find?_eq_none]
    intro text htext
    simp [h text htext]
  refine .bind reads_cursor ?_
  dsimp only
  rw [hnone]
  exact .pure

/-- The words that mean something in front of the name of a member. -/
def memberWords : List String :=
  ["public", "protected", "private", "in", "out", "abstract", "readonly", "override", "static",
    "accessor", "get", "set", "async", "constructor"]

/-- The cursor stands on the name of a member, on the line of the word before it. -/
structure IsMemberName (c : Cursor) (name : String) : Prop where
  lexeme : c.lexeme = .word name false
  plain : name ∉ memberWords
  sameLine : c.newline = false

variable {name : String}

theorem IsMemberName.isWord_eq_false (h : IsMemberName c name) (htext : text ∈ memberWords) :
    c.isWord text = false :=
  Script.isWord_eq_false h.lexeme h.plain htext

theorem IsMemberName.isMark_eq_false (h : IsMemberName c name) : c.isMark text = false := by
  simp [Cursor.isMark, h.lexeme]

theorem IsMemberName.isOneOf_eq_false (h : IsMemberName c name) : c.isOneOf texts = false := by
  simp [Cursor.isOneOf, h.lexeme]

/-- A name that stands where a modifier may stand is none. -/
theorem reads_memberNamedByModifier_not {g : Grammar} (h : IsMemberName c name) :
    Reads (memberNamedByModifier g true) s c false c := by
  have hends : c.endsStatement = false := by
    simp [Cursor.endsStatement, h.isMark_eq_false, h.sameLine, Cursor.isEnd, h.lexeme]
  refine .bind (.bind reads_cursor .pure) ?_
  rw [h.isOneOf_eq_false]
  refine .bind (.bind reads_cursor .pure) (.bind reads_atMark ?_)
  rw [h.isOneOf_eq_false, hends, h.isMark_eq_false]
  exact .pure

/-- What stands between the name of a property and the brace that closes its class. -/
theorem reads_property (hcolon : c.isMark ":" = true)
    (htype : Reads (fullType (ofDepth depth)) s c.next () d) (hstop : d.isMark "\x7d" = true) :
    Reads (property (ofDepth depth)) s c () d := by
  refine .bind (reads_accept_not (isMark_eq_false_of_isMark hcolon (by decide))) ?_
  refine .bind (.bind (reads_accept hcolon) htype) ?_
  refine .bind (reads_accept_not (isMark_eq_false_of_isMark hstop (by decide))) ?_
  refine .bind (reads_acceptEnd ?_ (isMark_eq_false_of_isMark hstop (by decide))) .pure
  simp [Cursor.endsStatement, hstop]

theorem reads_memberRest (h : IsMemberName c name) (hcolon : c.next.isMark ":" = true)
    (htype : Reads (fullType (ofDepth depth)) s c.next.next () d) (hstop : d.isMark "\x7d" = true) :
    Reads (memberRest (ofDepth depth) false false) s c () d := by
  have hmodifiers : ∀ text ∈ ["abstract", "readonly", "override", "static"],
      c.isWord text = false := by
    intro text htext
    apply h.isWord_eq_false
    revert text
    decide
  have hsignature : Reads (indexSignature? (ofDepth depth)) s c false c := by
    refine .bind (reads_lookAhead_not (refuses_expect h.isMark_eq_false).bind) ?_
    exact .pure
  have hkey : Reads (propertyKey (ofDepth depth)) s c (.name name) c.next := by
    refine .bind reads_cursor ?_
    rw [h.lexeme]
    exact .bind reads_advance .pure
  have hsign : ∀ text, ":" ≠ text → c.next.isMark text = false := fun text htext =>
    isMark_eq_false_of_isMark hcolon htext
  have hnotMethod : c.next.isOneOf ["(", "<"] = false := by
    simp [Cursor.isOneOf, lexeme_of_isMark hcolon]
  have hproperty : c.next.isOneOf ["!", ":", "=", "\x7d", ";"] = true := by
    simp [Cursor.isOneOf, lexeme_of_isMark hcolon]
  refine .bind (reads_repeatUntil_stop (.bind (reads_modifier?_none hmodifiers) .pure)) ?_
  refine .bind reads_cursor ?_
  rw [h.isWord_eq_false (show "accessor" ∈ memberWords by decide)]
  refine .bind reads_atMark (.bind reads_atWord (.bind reads_peek ?_))
  rw [h.isWord_eq_false (show "static" ∈ memberWords by decide)]
  refine .bind hsignature (.bind (reads_accept_not h.isMark_eq_false) ?_)
  -- the key, behind which neither a question mark nor a method follows
  refine .bind reads_cursor (.bind hkey (.bind (reads_accept_not (hsign "?" (by decide))) ?_))
  refine .bind (.bind reads_cursor .pure) ?_
  rw [hnotMethod]
  refine .bind reads_cursor (.bind (.bind reads_cursor .pure) (.bind (.bind reads_cursor .pure) ?_))
  simp only [hproperty, Bool.true_or, Bool.not_true, Bool.and_false, Bool.false_and, Bool.not_false,
    Bool.and_true, if_true]
  exact reads_property hcolon htype hstop

/-- A member `declare name: \{ … }` whose type is overloads is read up to the brace that closes its
class. -/
theorem reads_classMember (hdeclare : c.lexeme = .word "declare" false)
    (hname : IsMemberName c.next name) (hcolon : c.next.next.isMark ":" = true)
    (hopen : c.next.next.next.isMark "\x7b" = true)
    (h : Overloads arity c.next.next.next.next types d) (harity : arity ≤ s.size)
    (hsize : types.length ≤ s.size) (hstop : d.next.isMark "\x7d" = true) :
    Reads (classMember (ofDepth (depth + 6))) s c () d.next := by
  have hends : EndsType d.next := ⟨_, by decide, lexeme_of_isMark hstop⟩
  have htype : Reads (fullType (ofDepth (depth + 6))) s c.next.next.next () d.next :=
    reads_objectType_fullType hopen h harity hsize hends
  have hmark : ∀ text, c.isMark text = false := by simp [Cursor.isMark, hdeclare]
  have hat : Reads (atMark "@") s c false c := by
    rw [← hmark "@"]
    exact reads_atMark
  have hmodifiers : ∀ text ∈ ["public", "protected", "private", "in", "out"],
      c.next.isWord text = false := by
    intro text htext
    apply hname.isWord_eq_false
    revert text
    decide
  refine .bind (reads_accept_not (hmark ";")) ?_
  refine .bind (reads_whileHolds_not hat) ?_
  refine .bind (reads_acceptWord (by simp [Cursor.isWord, hdeclare])) ?_
  refine .bind (reads_modifier?_none hmodifiers) ?_
  refine .bind .pure ?_
  refine .bind (reads_memberNamedByModifier_not hname) ?_
  refine .bind (reads_acceptWord_not (hname.isWord_eq_false (by decide))) ?_
  exact reads_memberRest hname hcolon htype hstop

end SfcWeave.Script
