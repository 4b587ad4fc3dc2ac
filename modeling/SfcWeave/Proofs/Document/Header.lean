import SfcWeave.Proofs.Document.Grammar
import SfcWeave.Proofs.Result

/-!
# Headers are read by their grammar

`readHeader` accepts exactly the texts of `HeaderText` and returns their attributes:

    readHeader_eq_ok_iff : readHeader start offset cs = .ok header ↔
      ∃ text, cs = text ++ header.rest ∧ HeaderText offset text header.attributes header.isEmpty ∧ …

Both directions go through the same facts about values and attributes, one token at a time.
-/

namespace SfcWeave.Document

open Text (byteLength byteLength_nil byteLength_cons byteLength_append)
open Token (IsGap IsName EndsName IsLexeme isSeparator next?)

variable {offset start stop : Nat} {cs rest text written : List Char} {attributes : List Attribute}
  {isEmpty : Bool} {a : Attribute} {value : AttributeValue}

/-! ### What follows -/

/-- Only the first character that follows matters, if there is one. -/
theorem valueText_append_iff (hne : text ≠ []) :
    ValueText written value (text ++ rest) ↔ ValueText written value text := by
  constructor
  · intro h
    cases h with
    | quoted hquote hvalue => exact .quoted hquote hvalue
    | name hname hends => exact .name hname ((Token.endsName_append hne).mp hends)
  · intro h
    cases h with
    | quoted hquote hvalue => exact .quoted hquote hvalue
    | name hname hends => exact .name hname ((Token.endsName_append hne).mpr hends)

theorem attributeText_append_iff (hne : text ≠ []) :
    AttributeText offset written a (text ++ rest) ↔ AttributeText offset written a text := by
  constructor
  · intro h
    cases h with
    | bare hname hends => exact .bare hname ((Token.endsName_append hne).mp hends)
    | valued hname hbefore hbetween hvalue =>
      exact .valued hname hbefore hbetween ((valueText_append_iff hne).mp hvalue)
  · intro h
    cases h with
    | bare hname hends => exact .bare hname ((Token.endsName_append hne).mpr hends)
    | valued hname hbefore hbetween hvalue =>
      exact .valued hname hbefore hbetween ((valueText_append_iff hne).mpr hvalue)

/-- The first token of a text does not start with an equals sign. -/
def Unsigned (text : List Char) : Prop := (text.dropWhile isSeparator).head? ≠ some '='

theorem unsigned_append_cons {gap : List Char} {c : Char} (hgap : IsGap gap)
    (hc : isSeparator c = false) (hne : c ≠ '=') : Unsigned (gap ++ c :: cs) := by
  unfold Unsigned
  rw [List.dropWhile_append_of_pos hgap]
  simpa [hc] using hne

/-- An attribute starts with its name. -/
theorem attributeText_cons (h : AttributeText offset written a rest) :
    ∃ c tail, written = c :: tail ∧ Token.isNameChar c := by
  cases h with
  | bare hname _ =>
    obtain ⟨c, tail, rfl⟩ := List.exists_cons_of_ne_nil hname.1
    exact ⟨c, tail, rfl, hname.2 c (by simp)⟩
  | valued hname _ _ _ =>
    obtain ⟨c, tail, rfl⟩ := List.exists_cons_of_ne_nil hname.1
    exact ⟨c, _, rfl, hname.2 c (by simp)⟩

/-- A header does not go on with an equals sign. -/
theorem headerText_unsigned (h : HeaderText offset text attributes isEmpty) (rest : List Char) :
    Unsigned (text ++ rest) := by
  cases h with
  | tagEnd hgap | emptyEnd hgap =>
    rw [List.append_assoc]
    exact unsigned_append_cons hgap (by decide) (by decide)
  | slash hgap _ _ =>
    rw [List.append_assoc, List.append_assoc]
    exact unsigned_append_cons hgap (by decide) (by decide)
  | named hgap ha _ =>
    obtain ⟨c, tail, rfl, hc⟩ := attributeText_cons ha
    obtain ⟨-, -, -, -, -, hne⟩ := Token.ne_of_isNameChar hc
    rw [List.append_assoc, List.append_assoc]
    exact unsigned_append_cons hgap (Token.not_isSeparator_of_isNameChar hc) hne

theorem headerText_ne_nil (h : HeaderText offset text attributes isEmpty) : text ≠ [] := by
  cases h with
  | named _ ha _ =>
    obtain ⟨c, tail, rfl, _⟩ := attributeText_cons ha
    simp
  | _ => simp

/-! ### Values -/

theorem readValue_eq_ok_iff :
    readValue offset cs = .ok (value, stop, rest) ↔
      ∃ gap written, IsGap gap ∧ cs = gap ++ written ++ rest ∧ ValueText written value rest ∧
        stop = offset + byteLength (gap ++ written) := by
  constructor
  · intro h
    unfold readValue at h
    split at h
    · cases h
    · next token after hnext =>
      obtain ⟨gap, hgap, rfl, hlexeme, hspan⟩ := Token.next?_eq_some_iff.mp hnext
      obtain ⟨kind, text, span⟩ := token
      dsimp only at hlexeme hspan h ⊢
      subst hspan
      -- three kinds of tokens are values, and each says what its text is
      split at h
      · simp only [Except.ok.injEq, Prod.mk.injEq] at h
        obtain ⟨rfl, rfl, rfl⟩ := h
        cases hlexeme with
        | @doubleQuoted v _ hv =>
          refine ⟨gap, '"' :: v ++ ['"'], hgap, rfl, ?_, by simp [Nat.add_assoc]⟩
          simpa using ValueText.quoted (.inl rfl) hv
      · simp only [Except.ok.injEq, Prod.mk.injEq] at h
        obtain ⟨rfl, rfl, rfl⟩ := h
        cases hlexeme with
        | @singleQuoted v _ hv =>
          refine ⟨gap, '\'' :: v ++ ['\''], hgap, rfl, ?_, by simp [Nat.add_assoc]⟩
          simpa using ValueText.quoted (.inr rfl) hv
      · simp only [Except.ok.injEq, Prod.mk.injEq] at h
        obtain ⟨rfl, rfl, rfl⟩ := h
        cases hlexeme with
        | name hname hends =>
          refine ⟨gap, text, hgap, rfl, ?_, by simp [Nat.add_assoc]⟩
          rw [attributeValue, if_neg hname.1]
          exact .name hname hends
      · cases h
  · rintro ⟨gap, written, hgap, rfl, hvalue, rfl⟩
    unfold readValue
    cases hvalue with
    | @quoted quote v _ hquote hv =>
      rcases hquote with rfl | rfl
      · rw [Token.next?_append hgap (.doubleQuoted hv)]
        simp [Nat.add_assoc]
      · rw [Token.next?_append hgap (.singleQuoted hv)]
        simp [Nat.add_assoc]
    | name hname hends =>
      rw [Token.next?_append hgap (.name hname hends)]
      simp [attributeValue, hname.1, Nat.add_assoc]

/-! ### Attributes -/

/-- An attribute that has been read, its name first, stands in the text. -/
theorem attributeText_of_readAttribute {name : Token} (hname : IsLexeme .name name.text cs)
    (hspan : name.span = ⟨offset, offset + byteLength name.text⟩)
    (h : readAttribute name cs = .ok (a, stop, rest)) :
    ∃ more, cs = more ++ rest ∧ AttributeText offset (name.text ++ more) a rest ∧
      stop = offset + byteLength (name.text ++ more) := by
  obtain ⟨hword, hends⟩ : IsName name.text ∧ EndsName cs := by
    cases hname with
    | name hword hends => exact ⟨hword, hends⟩
  -- both when nothing follows and when no equals sign does
  have hbare : ∀ {a' stop' rest'}, (⟨String.ofList name.text, .flag true, name.span⟩,
      name.span.stop, cs) = ((a', stop', rest') : Attribute × Nat × List Char) →
      ∃ more, cs = more ++ rest' ∧ AttributeText offset (name.text ++ more) a' rest' ∧
        stop' = offset + byteLength (name.text ++ more) := by
    intro a' stop' rest' heq
    simp only [Prod.mk.injEq] at heq
    obtain ⟨rfl, rfl, rfl⟩ := heq
    refine ⟨[], rfl, ?_, by rw [hspan, List.append_nil]⟩
    rw [List.append_nil, hspan]
    exact .bare hword hends
  unfold readAttribute at h
  split at h
  · exact hbare (Except.ok.inj h)
  · next sign after hnext =>
    split at h
    · next hsign =>
      obtain ⟨before, hbefore, rfl, hlexeme, hstop⟩ := Token.next?_eq_some_iff.mp hnext
      rw [hsign] at hlexeme
      obtain ⟨kind, text, span⟩ := sign
      dsimp only at hlexeme hstop h ⊢
      cases hlexeme with
      | equals =>
        cases hv : readValue span.stop after with
        | error e =>
          rw [hv] at h
          cases h
        | ok result =>
          obtain ⟨value, stop', after'⟩ := result
          obtain ⟨between, written, hbetween, rfl, hvalue, rfl⟩ := readValue_eq_ok_iff.mp hv
          rw [hv] at h
          simp only [bind, Except.bind, Except.ok.injEq, Prod.mk.injEq] at h
          obtain ⟨rfl, rfl, rfl⟩ := h
          -- the text of the attribute from its name to its value
          have hend : span.stop + byteLength (between ++ written) =
              offset + byteLength (name.text ++ before ++ '=' :: between ++ written) := by
            rw [hstop, hspan]
            simp only [byteLength_append, byteLength_cons, byteLength_nil]
            omega
          refine ⟨before ++ '=' :: between ++ written, by simp, ?_, ?_⟩
          · rw [hend, hspan]
            simpa using AttributeText.valued hword hbefore hbetween hvalue
          · rw [hend]
            simp
    · exact hbare (Except.ok.inj h)

/-- An attribute that stands in the text is read, its name first. -/
theorem readAttribute_of_attributeText (h : AttributeText offset written a rest)
    (hunsigned : Unsigned rest) :
    ∃ name more, written = name ++ more ∧ IsLexeme .name name (more ++ rest) ∧
      readAttribute ⟨.name, name, ⟨offset, offset + byteLength name⟩⟩ (more ++ rest) =
        .ok (a, offset + byteLength written, rest) := by
  cases h with
  | bare hname hends =>
    refine ⟨written, [], by simp, .name hname hends, ?_⟩
    unfold readAttribute
    split
    · rfl
    · next sign after hnext =>
      split
      · next hsign =>
        -- an equals sign would be the first token that follows
        obtain ⟨gap, hgap, hrest, hlexeme, _⟩ := Token.next?_eq_some_iff.mp hnext
        rw [hsign] at hlexeme
        obtain ⟨kind, text, span⟩ := sign
        dsimp only at hlexeme hrest
        cases hlexeme with
        | equals =>
          apply absurd _ hunsigned
          rw [List.nil_append] at hrest
          rw [hrest, List.append_assoc, List.dropWhile_append_of_pos hgap]
          rfl
      · rfl
  | @valued name before between written value _ hname hbefore hbetween hvalue =>
    have hends : EndsName (before ++ '=' :: between ++ written ++ rest) := by
      cases before with
      | nil =>
        apply Token.endsName_cons.mpr
        decide
      | cons c before =>
        apply Token.endsName_cons.mpr
        exact Token.isNameChar_of_isSeparator (hbefore c List.mem_cons_self)
    have hnext : next? (offset + byteLength name) (before ++ '=' :: between ++ written ++ rest) =
        some (⟨.equals, ['='], ⟨offset + byteLength name + byteLength before,
          offset + byteLength name + byteLength before + byteLength ['=']⟩⟩,
          between ++ written ++ rest) := by
      rw [Token.next?_eq_some_iff]
      exact ⟨before, hbefore, by simp, .equals, rfl⟩
    have hread : ∀ at', readValue at' (between ++ written ++ rest) =
        .ok (value, at' + byteLength (between ++ written), rest) := by
      intro at'
      apply readValue_eq_ok_iff.mpr
      exact ⟨between, written, hbetween, rfl, hvalue, rfl⟩
    refine ⟨name, before ++ '=' :: between ++ written, by simp, .name hname hends, ?_⟩
    unfold readAttribute
    rw [hnext]
    simp only [if_pos, hread, bind, Except.bind]
    simp [Nat.add_assoc]

/-! ### Whole headers -/

theorem not_prefix_append_iff {c : Char} (hne : text ≠ []) :
    ¬ [c] <+: text ++ rest ↔ ¬ [c] <+: text := by
  obtain ⟨d, tail, rfl⟩ := List.exists_cons_of_ne_nil hne
  simp [List.cons_prefix_cons]

/-- A header that has been read stands in the text. -/
theorem headerText_of_readHeader {header : Header} (h : readHeader start offset cs = .ok header) :
    ∃ text, cs = text ++ header.rest ∧
      HeaderText offset text header.attributes header.isEmpty ∧
      header.stop = offset + byteLength text := by
  -- one case for each kind of the first token; without one, or with any other, there is no header
  fun_induction readHeader start offset cs generalizing header with
  | case1 => cases h
  | case2 offset cs token rest hnext hkind =>
    obtain ⟨gap, hgap, rfl, hlexeme, hspan⟩ := Token.next?_eq_some_iff.mp hnext
    obtain ⟨kind, text, span⟩ := token
    dsimp only at hkind hlexeme hspan h ⊢
    subst hkind hspan
    obtain rfl := Except.ok.inj h
    cases hlexeme with
    | tagEnd => exact ⟨gap ++ ['>'], rfl, .tagEnd hgap, by simp [Nat.add_assoc]⟩
  | case3 offset cs token rest hnext hkind =>
    obtain ⟨gap, hgap, rfl, hlexeme, hspan⟩ := Token.next?_eq_some_iff.mp hnext
    obtain ⟨kind, text, span⟩ := token
    dsimp only at hkind hlexeme hspan h ⊢
    subst hkind hspan
    obtain rfl := Except.ok.inj h
    cases hlexeme with
    | emptyEnd => exact ⟨gap ++ ['/', '>'], rfl, .emptyEnd hgap, by simp [Nat.add_assoc]⟩
  | case4 offset cs token rest hnext hkind ih =>
    obtain ⟨gap, hgap, rfl, hlexeme, hspan⟩ := Token.next?_eq_some_iff.mp hnext
    obtain ⟨text, rfl, htext, hstop⟩ := ih h
    obtain ⟨kind, word, span⟩ := token
    dsimp only at hkind hlexeme hspan htext hstop ⊢
    subst hkind hspan
    cases hlexeme with
    | slash hslash =>
      have hslash' := (not_prefix_append_iff (headerText_ne_nil htext)).mp hslash
      refine ⟨gap ++ ['/'] ++ text, by simp, .slash hgap hslash' ?_, ?_⟩
      · simpa [Nat.add_assoc] using htext
      · simpa [Nat.add_assoc] using hstop
  | case5 => cases h
  | case6 offset cs token rest hnext hkind a stop after ha ih =>
    obtain ⟨gap, hgap, rfl, hlexeme, hspan⟩ := Token.next?_eq_some_iff.mp hnext
    rw [hkind] at hlexeme
    obtain ⟨more, rfl, hattribute, rfl⟩ := attributeText_of_readAttribute hlexeme hspan ha
    obtain ⟨inner, hinner, rfl⟩ := Except.map_eq_ok_iff.mp h
    obtain ⟨text, rfl, htext, hstop⟩ := ih hinner
    -- the header that follows is not empty, so nothing behind it matters to the attribute
    rw [attributeText_append_iff (headerText_ne_nil htext)] at hattribute
    refine ⟨gap ++ (token.text ++ more) ++ text, by simp, ?_, ?_⟩
    · apply HeaderText.named hgap hattribute
      simpa [Nat.add_assoc] using htext
    · simpa [Nat.add_assoc] using hstop
  | case7 => cases h

/-- The first token decides how a header is read. -/
theorem readHeader_of_next? {token : Token} (h : next? offset cs = some (token, rest)) :
    readHeader start offset cs =
      match token.kind with
      | .tagEnd => .ok ⟨[], false, token.span.stop, rest⟩
      | .emptyEnd => .ok ⟨[], true, token.span.stop, rest⟩
      | .slash => readHeader start token.span.stop rest
      | .name => do
        let (a, stop, after) ← readAttribute token rest
        let header ← readHeader start stop after
        .ok { header with attributes := a :: header.attributes }
      | found => .error ⟨.unexpectedToken .attributeOrTagEnd found, token.span⟩ := by
  rw [readHeader]
  split
  · next hnone =>
    rw [h] at hnone
    cases hnone
  · next token' rest' hsome =>
    obtain ⟨rfl, rfl⟩ := Prod.mk.inj (Option.some.inj (h.symm.trans hsome))
    obtain ⟨kind, text, span⟩ := token
    cases kind with
    | name =>
      dsimp only
      split
      · next e ha => rw [ha]; rfl
      · next a stop after ha => rw [ha]; rfl
    | _ => rfl

/-- A header that stands in the text is read. -/
theorem readHeader_of_headerText (h : HeaderText offset text attributes isEmpty)
    (start : Nat) (rest : List Char) :
    readHeader start offset (text ++ rest) =
      .ok ⟨attributes, isEmpty, offset + byteLength text, rest⟩ := by
  induction h with
  | @tagEnd offset gap hgap =>
    rw [readHeader_of_next? (Token.next?_append hgap .tagEnd)]
    simp [Nat.add_assoc]
  | @emptyEnd offset gap hgap =>
    rw [readHeader_of_next? (Token.next?_append hgap .emptyEnd)]
    simp [Nat.add_assoc]
  | @slash offset gap text attributes isEmpty hgap hslash htext ih =>
    have hmore : ¬ ['>'] <+: text ++ rest :=
      (not_prefix_append_iff (headerText_ne_nil htext)).mpr hslash
    rw [List.append_assoc, readHeader_of_next? (Token.next?_append hgap (.slash hmore))]
    simpa [Nat.add_assoc] using ih
  | @named offset gap written a text attributes isEmpty hgap ha htext ih =>
    have hattribute : AttributeText (offset + byteLength gap) written a (text ++ rest) :=
      (attributeText_append_iff (headerText_ne_nil htext)).mpr ha
    obtain ⟨name, more, rfl, hname, hread⟩ :=
      readAttribute_of_attributeText hattribute (headerText_unsigned htext rest)
    have hstop : offset + byteLength gap + byteLength (name ++ more) =
        offset + byteLength (gap ++ (name ++ more)) := by
      rw [byteLength_append gap, Nat.add_assoc]
    have hcs : gap ++ (name ++ more) ++ text ++ rest = gap ++ name ++ (more ++ (text ++ rest)) := by
      simp
    rw [hcs, readHeader_of_next? (Token.next?_append hgap hname)]
    simp only [hread, hstop, ih, bind, Except.bind]
    rw [byteLength_append _ text, Nat.add_assoc]

theorem readHeader_eq_ok_iff {header : Header} :
    readHeader start offset cs = .ok header ↔
      ∃ text, cs = text ++ header.rest ∧
        HeaderText offset text header.attributes header.isEmpty ∧
        header.stop = offset + byteLength text := by
  constructor
  · exact headerText_of_readHeader
  · rintro ⟨text, rfl, htext, hstop⟩
    rw [readHeader_of_headerText htext, ← hstop]

end SfcWeave.Document
