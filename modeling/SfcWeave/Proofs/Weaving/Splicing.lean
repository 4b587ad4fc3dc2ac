import SfcWeave.Proofs.Weaving.Insertion

/-!
# Scripts with insertions

While functions are given to a component, the script is read again after every insertion. What is
read then consists of fragments, which have been there or have been put in: `Splicing` lists them
for every place at which an edit can stop (`exists_splicing_of_error`). An offset of such a text
belongs to a character of the script, unless that has been put in: `Fragment.origin?` gives the
offset which the same character has in the script (`Fragment.stoodAt_of_origin?`).
-/

namespace SfcWeave

open Script Text

variable {parse : Parser} {script : Snapshot parse} {options : WeavingOptions}
  {functions : RenderFunctions} {target : Target} {text more : String} {cause : SyntaxError}

/-! ### Fragments -/

/-- A part of a text with insertions: one that has been there before, or one that has been put
in. -/
inductive Fragment where
  | kept (text : String)
  | added (text : String)
deriving DecidableEq, Repr

namespace Fragment

variable {fragments : List Fragment} {offset origin : Nat}

/-- The text that fragments make. -/
def join : List Fragment → String
  | [] => ""
  | kept text :: rest => text ++ join rest
  | added text :: rest => text ++ join rest

/-- The text without what has been put in. -/
def original : List Fragment → String
  | [] => ""
  | kept text :: rest => text ++ original rest
  | added _ :: rest => original rest

/-- The offset that the character at an offset has had before; a character that has been put in has
had none. The end is that of the text before. -/
def origin? : List Fragment → Nat → Option Nat
  | [], 0 => some 0
  | [], _ + 1 => none
  | kept text :: rest, offset =>
    if offset < text.utf8ByteSize then some offset
    else (origin? rest (offset - text.utf8ByteSize)).map (text.utf8ByteSize + ·)
  | added text :: rest, offset =>
    if offset < text.utf8ByteSize then none else origin? rest (offset - text.utf8ByteSize)

/-- The character at an offset of the text has been at `origin` in the text before. -/
def StoodAt (fragments : List Fragment) (offset origin : Nat) : Prop :=
  ∀ front c back, (join fragments).toList = front ++ c :: back → byteLength front = offset →
    ∃ before after, (original fragments).toList = before ++ c :: after ∧
      byteLength before = origin

/-- A character of a text stands in its first part if its offset does. -/
theorem exists_of_byteLength_lt {first rest front back : List Char} {c : Char}
    (h : first ++ rest = front ++ c :: back) (hlt : byteLength front < byteLength first) :
    ∃ between, first = front ++ c :: between := by
  rcases List.append_eq_append_iff.mp h with ⟨more, rfl, -⟩ | ⟨more, rfl, hmore⟩
  · rw [byteLength_append] at hlt
    omega
  · cases more with
    | nil => simp at hlt
    | cons d more =>
      obtain ⟨rfl, -⟩ := List.cons.inj hmore
      exact ⟨more, rfl⟩

theorem exists_of_byteLength_le {first rest front back : List Char} {c : Char}
    (h : first ++ rest = front ++ c :: back) (hle : byteLength first ≤ byteLength front) :
    ∃ behind, front = first ++ behind ∧ rest = behind ++ c :: back := by
  rcases List.append_eq_append_iff.mp h with ⟨more, rfl, hmore⟩ | ⟨more, rfl, hmore⟩
  · exact ⟨more, rfl, hmore⟩
  · rw [byteLength_append] at hle
    have hlength := length_le_byteLength more
    obtain rfl : more = [] := List.length_eq_zero_iff.mp (by omega)
    exact ⟨[], by simp, hmore.symm⟩

/-- A character of a fragment that has been there before. -/
theorem stoodAt_kept (hlt : offset < text.utf8ByteSize) (rest : List Fragment) :
    StoodAt (kept text :: rest) offset offset := by
  intro front c back htext hoffset
  rw [join, String.toList_append] at htext
  rw [← byteLength_toList] at hlt
  obtain ⟨between, hbetween⟩ := exists_of_byteLength_lt htext (hoffset ▸ hlt)
  refine ⟨front, between ++ (original rest).toList, ?_, hoffset⟩
  rw [original, String.toList_append, hbetween]
  simp

theorem StoodAt.kept (h : StoodAt fragments offset origin) (text : String) :
    StoodAt (.kept text :: fragments) (text.utf8ByteSize + offset)
      (text.utf8ByteSize + origin) := by
  intro front c back htext hoffset
  rw [join, String.toList_append] at htext
  rw [← byteLength_toList] at hoffset ⊢
  obtain ⟨behind, rfl, hrest⟩ := exists_of_byteLength_le htext (by omega)
  rw [byteLength_append] at hoffset
  obtain ⟨before, after, horiginal, rfl⟩ := h behind c back hrest (by omega)
  refine ⟨text.toList ++ before, after, ?_, byteLength_append _ _⟩
  rw [original, String.toList_append, horiginal, List.append_assoc]

theorem StoodAt.added (h : StoodAt fragments offset origin) (text : String) :
    StoodAt (.added text :: fragments) (text.utf8ByteSize + offset) origin := by
  intro front c back htext hoffset
  rw [join, String.toList_append] at htext
  rw [← byteLength_toList] at hoffset
  obtain ⟨behind, rfl, hrest⟩ := exists_of_byteLength_le htext (by omega)
  rw [byteLength_append] at hoffset
  exact h behind c back hrest (by omega)

/-- The character at an offset is the one that has been at its origin. -/
theorem stoodAt_of_origin? (h : origin? fragments offset = some origin) :
    StoodAt fragments offset origin := by
  induction fragments generalizing offset origin with
  | nil =>
    intro front c back htext
    simp [join] at htext
  | cons fragment rest ih =>
    cases fragment with
    | kept text =>
      rw [origin?] at h
      split at h
      · next hlt =>
        obtain rfl := Option.some.inj h
        exact stoodAt_kept hlt rest
      · next hle =>
        obtain ⟨inner, hinner, rfl⟩ := Option.map_eq_some_iff.mp h
        have hbehind := (ih hinner).kept text
        rwa [Nat.add_sub_cancel' (Nat.le_of_not_lt hle)] at hbehind
    | added text =>
      rw [origin?] at h
      split at h
      · cases h
      · next hle =>
        have hbehind := (ih h).added text
        rwa [Nat.add_sub_cancel' (Nat.le_of_not_lt hle)] at hbehind

end Fragment

/-! ### The places at which an edit can stop -/

/-- What a script consists of when it is read again, while functions are given to a component. -/
inductive Splicing (options : WeavingOptions) (functions : RenderFunctions) (text : String) :
    Target → List Fragment → Prop
  /-- The tags of child components have been declared … -/
  | declared {target : ClassTarget} {before after : String} :
      target.childTags ≠ [] → text = before ++ after →
      before.utf8ByteSize = target.closingBrace →
      Splicing options functions text (.cls target)
        [.kept before, .added (childDeclaration target.childTags), .kept after]
  /-- … then the import for the declaration is there, too, … -/
  | imported {target : ClassTarget} {before after : String} :
      target.childTags ≠ [] → text = before ++ after →
      before.utf8ByteSize = target.closingBrace →
      Splicing options functions text (.cls target)
        [.added (options.builtInImport ++ "\n"), .kept before,
          .added (childDeclaration target.childTags), .kept after]
  /-- … and then the statement that installs the functions. -/
  | called {target : ClassTarget} {before after : String} :
      target.childTags ≠ [] → text = before ++ after →
      before.utf8ByteSize = target.closingBrace →
      Splicing options functions text (.cls target)
        [.added (options.builtInImport ++ "\n"), .kept before,
          .added (childDeclaration target.childTags), .kept after,
          .added (classTail options functions target.name
            (options.builtInImport ++ "\n" ++
              (before ++ childDeclaration target.childTags ++ after)))]
  /-- A class without child components gets the statement only. -/
  | appended {target : ClassTarget} : target.childTags = [] →
      Splicing options functions text (.cls target)
        [.kept text, .added (classTail options functions target.name text)]
  | members {span : Span} {before after : String} :
      text = before ++ after → before.utf8ByteSize = span.start + 1 →
      Splicing options functions text (.options span)
        [.kept before, .added functions.optionMembers, .kept after]

/-- What has been there before is the script. -/
theorem Splicing.original {fragments : List Fragment}
    (h : Splicing options functions text target fragments) :
    Fragment.original fragments = text := by
  cases h with
  | declared _ htext | imported _ htext | called _ htext | members htext =>
    simp [Fragment.original, htext]
  | appended => simp [Fragment.original]

namespace Script.Snapshot

/-- An insertion at a place where the text can be split. -/
theorem splice_empty {before after : String} (h : script.text = before ++ after) (more : String) :
    script.splice (Span.empty before.utf8ByteSize) more =
      (ofText parse (before ++ more ++ after)).mapError .syntaxError := by
  rw [splice, h, Span.splice?_empty]

theorem append_eq (script : Snapshot parse) (more : String) :
    script.append more = (ofText parse (script.text ++ more)).mapError .syntaxError := by
  have hend : script.text = script.text ++ "" := String.append_empty.symm
  rw [append, splice_empty hend, String.append_empty]

theorem prepend_eq (script : Snapshot parse) (more : String) :
    script.splice (Span.empty 0) more =
      (ofText parse (more ++ script.text)).mapError .syntaxError := by
  have hstart : script.text = "" ++ script.text := String.empty_append.symm
  have h := splice_empty hstart more
  rwa [String.empty_append] at h

/-- An insertion fails for its place, or there the text can be split. -/
theorem splice_empty_cases (script : Snapshot parse) (offset : Nat) (more : String) :
    (∃ span size, script.splice (Span.empty offset) more = .error (.invalidSpan span size)) ∨
    ∃ before after, script.text = before ++ after ∧ before.utf8ByteSize = offset := by
  rcases hcut : (Span.empty offset).cut? script.text.toList with _ | ⟨before, middle, after⟩
  · have hnone : (Span.empty offset).splice? script.text more = none := by
      rw [Span.splice?, hcut]
      rfl
    exact .inl ⟨_, _, by rw [splice, hnone]⟩
  · obtain ⟨htext, hspan⟩ := Span.cut?_eq_some_iff.mp hcut
    obtain ⟨hstart, hstop⟩ := Span.mk.inj hspan
    rw [byteLength_append, ← hstart] at hstop
    have hlength := length_le_byteLength middle
    obtain rfl : middle = [] := List.length_eq_zero_iff.mp (by omega)
    refine .inr ⟨String.ofList before, String.ofList after, ?_, ?_⟩
    · rw [← String.ofList_append, ← String.toList_inj, htext, String.toList_ofList,
        List.append_nil]
    · rw [utf8ByteSize_ofList, ← hstart]

/-- A text that is refused when it is read again. -/
theorem parse_eq_of_mapError
    (h : (ofText parse text).mapError EditError.syntaxError = .error (.syntaxError cause)) :
    parse text = .error cause := by
  rcases hread : ofText parse text with error | script
  · rw [hread] at h
    cases h
    exact ofText_eq_error_iff.mp hread
  · rw [hread] at h
    cases h

end Script.Snapshot

open Script.Snapshot

/-- The text at which giving functions to a class stops. -/
theorem exists_splicing_of_injectClass {target : ClassTarget}
    (h : injectClass options functions target script = .error (.syntaxError cause)) :
    ∃ fragments, Splicing options functions script.text (.cls target) fragments ∧
      parse (Fragment.join fragments) = .error cause := by
  unfold injectClass at h
  by_cases htags : target.childTags = []
  · rw [if_pos htags] at h
    dsimp only [pure, Except.pure, bind, Except.bind] at h
    rw [append_eq] at h
    refine ⟨_, .appended htags, ?_⟩
    simpa [Fragment.join] using parse_eq_of_mapError h
  · rw [if_neg htags] at h
    rcases splice_empty_cases script target.closingBrace (childDeclaration target.childTags)
      with ⟨span, size, hinvalid⟩ | ⟨before, after, htext, hsize⟩
    · rw [hinvalid] at h
      cases h
    · rw [← hsize, splice_empty htext] at h
      rcases hdeclared : ofText parse (before ++ childDeclaration target.childTags ++ after)
        with error | declared
      · rw [hdeclared] at h
        cases h
        refine ⟨_, .declared htags htext hsize, ?_⟩
        simpa [Fragment.join, String.append_assoc] using ofText_eq_error_iff.mp hdeclared
      rw [hdeclared] at h
      have hdeclaredText := ofText_eq_ok_iff.mp hdeclared
      dsimp only [Except.mapError, bind, Except.bind] at h
      rw [prepend_eq, hdeclaredText] at h
      rcases himported : ofText parse (options.builtInImport ++ "\n" ++
        (before ++ childDeclaration target.childTags ++ after)) with error | imported
      · rw [himported] at h
        cases h
        refine ⟨_, .imported htags htext hsize, ?_⟩
        simpa [Fragment.join, String.append_assoc] using ofText_eq_error_iff.mp himported
      rw [himported] at h
      have himportedText := ofText_eq_ok_iff.mp himported
      dsimp only [Except.mapError] at h
      rw [append_eq, himportedText] at h
      refine ⟨_, .called htags htext hsize, ?_⟩
      simpa [Fragment.join, String.append_assoc] using parse_eq_of_mapError h

/-- The text at which giving functions to a component stops. -/
theorem exists_splicing_of_error
    (h : injectInto options functions script target = .error (.syntaxError cause)) :
    ∃ fragments, Splicing options functions script.text target fragments ∧
      parse (Fragment.join fragments) = .error cause := by
  cases target with
  | cls target => exact exists_splicing_of_injectClass h
  | options span =>
    rw [injectInto, injectOptions] at h
    rcases splice_empty_cases script (span.start + 1) functions.optionMembers
      with ⟨span, size, hinvalid⟩ | ⟨before, after, htext, hsize⟩
    · rw [hinvalid] at h
      cases h
    · rw [← hsize, splice_empty htext] at h
      refine ⟨_, .members htext hsize, ?_⟩
      simpa [Fragment.join, String.append_assoc] using parse_eq_of_mapError h

end SfcWeave
