import SfcWeave.Proofs.Document.RoundTrip
import SfcWeave.Proofs.Text.Indent

/-!
# Values in quotes and values without

A value that HTML lets stand without quotes can be spelled in three ways, and a block with it as its
only attribute is read whichever is chosen. In quotes the value is read as it is. Without quotes it
is read as one attribute exactly if it holds no slash:

    readsAs_unquoted_iff : IsUnquoted value → … →
      (ReadsAs (spelled tag name value) deindent [(name, .text value)] ↔ '/' ∉ value)

For a slash ends a name, and a header may hold slashes anywhere. So the value ends at its first
slash, and what follows is read as more attributes (`readsAs_parts`); a value that starts with a
slash is none (`parse_leadingSlash`).
-/

namespace SfcWeave.Document

open Text (byteLength byteLength_nil byteLength_cons byteLength_append splitOn join)
open Token (IsName EndsName isNameChar)

variable {deindent : Bool} {tag name value first written header : List Char}
  {others : List (List Char)} {attributes : List Attribute} {read : List (String × AttributeValue)}
  {source : String}

/-! ### Spellings -/

/-- A character that HTML lets stand in a value without quotes. -/
def isUnquotedChar (c : Char) : Bool :=
  !Token.isSeparator c && c != '"' && c != '\'' && c != '`' && c != '=' && c != '<' && c != '>'

/-- A value that HTML lets stand without quotes in front of the end of a tag. -/
structure IsUnquoted (value : List Char) : Prop where
  ne_nil : value ≠ []
  chars : ∀ c ∈ value, isUnquotedChar c
  last : value.getLast? ≠ some '/'

instance : Decidable (IsUnquoted value) :=
  decidable_of_iff (value ≠ [] ∧ value.all isUnquotedChar ∧ value.getLast? ≠ some '/')
    ⟨fun ⟨h₁, h₂, h₃⟩ => ⟨h₁, List.all_eq_true.mp h₂, h₃⟩,
      fun ⟨h₁, h₂, h₃⟩ => ⟨h₁, List.all_eq_true.mpr h₂, h₃⟩⟩

/-- A block without content and with one attribute, whose value is written like this. -/
def spelled (tag name written : List Char) : String :=
  String.ofList ('<' :: tag ++ ' ' :: name ++ '=' :: written ++ '>' :: closingTag tag)

/-- The name and the value of an attribute. -/
def nameAndValue (a : Attribute) : String × AttributeValue := (a.name, a.value)

/-- The source is read as one block with these attributes. -/
def ReadsAs (source : String) (deindent : Bool) (read : List (String × AttributeValue)) : Prop :=
  ∃ document block, parse source deindent = .ok document ∧ document.toList = [block] ∧
    block.attributes.map nameAndValue = read

theorem isNameChar_of_isUnquotedChar {c : Char} (h : isUnquotedChar c) (hslash : c ≠ '/') :
    isNameChar c := by
  simp only [isUnquotedChar, Bool.and_eq_true, Bool.not_eq_true', bne_iff_ne] at h
  obtain ⟨⟨⟨⟨⟨⟨hsep, hdouble⟩, hsingle⟩, -⟩, hequals⟩, hopen⟩, hclose⟩ := h
  exact Token.isNameChar_of_ne hsep hdouble hsingle hopen hclose hslash hequals

theorem not_mem_of_isUnquoted {quote : Char} (h : IsUnquoted value)
    (hquote : quote = '"' ∨ quote = '\'') : quote ∉ value := by
  intro hmem
  have hchar := h.chars quote hmem
  rcases hquote with rfl | rfl
  · exact absurd hchar (by decide)
  · exact absurd hchar (by decide)

/-! ### Blocks with one header -/

theorem exists_gathers_singleton (block : Block) :
    ∃ document, Gathers [block] document ∧ document.toList = [block] := by
  cases hkind : block.kind with
  | template => exact ⟨{ template := some block }, by constructor <;> simp [hkind], rfl⟩
  | script => exact ⟨{ script := some block }, by constructor <;> simp [hkind], rfl⟩
  | style | custom => exact ⟨{ blocks := [block] }, by constructor <;> simp [hkind], rfl⟩

/-- A header and the closing tag behind it are a block, which has the attributes of the header. -/
theorem readsAs_of_headerText (htag : IsName tag) (hcomment : ¬ ['!', '-', '-'] <+: tag)
    (hends : EndsName header)
    (hheader : HeaderText (byteLength ('<' :: tag)) header attributes false) :
    ReadsAs (String.ofList ('<' :: tag ++ header ++ closingTag tag)) deindent
      (attributes.map nameAndValue) := by
  rw [← Nat.zero_add (byteLength _)] at hheader
  have hblock := BlockText.closed htag hcomment hends hheader (isContent_nil tag)
  have hsegments := Segmented.block hblock .done
  rw [List.append_nil, List.append_nil] at hsegments
  generalize hread : Block.mk _ _ attributes _ _ = block at hsegments
  obtain ⟨document, hgathers, hlist⟩ := exists_gathers_singleton (prepared deindent block)
  refine ⟨document, _, parse_eq_ok_iff.mpr ⟨[block], ?_, hgathers⟩, hlist, ?_⟩
  · rwa [String.toList_ofList]
  · subst hread
    cases deindent <;> rfl

/-- A source is read in one way. -/
theorem readsAs_unique {other : List (String × AttributeValue)} (h : ReadsAs source deindent read)
    (hother : ReadsAs source deindent other) : read = other := by
  obtain ⟨document, block, hparse, hlist, rfl⟩ := h
  obtain ⟨document', block', hparse', hlist', rfl⟩ := hother
  obtain rfl := Except.ok.inj (hparse.symm.trans hparse')
  obtain rfl := List.singleton_inj.mp (hlist.symm.trans hlist')
  rfl

theorem isGap_space : Token.IsGap [' '] := by simp [Token.IsGap, Token.isSeparator]

/-- An attribute with a value, and the rest of the header behind it, are a header. -/
theorem readsAs_of_valueText {value : AttributeValue} {rest : List Char} (deindent : Bool)
    (htag : IsName tag) (hcomment : ¬ ['!', '-', '-'] <+: tag) (hname : IsName name)
    (hvalue : ValueText written value rest)
    (hrest : ∀ offset, ∃ attributes, HeaderText offset rest attributes false ∧
      attributes.map nameAndValue = read) :
    ReadsAs (String.ofList ('<' :: tag ++ ([' '] ++ (name ++ [] ++ '=' :: [] ++ written) ++ rest) ++
      closingTag tag)) deindent ((String.ofList name, value) :: read) := by
  obtain ⟨attributes, hheader, rfl⟩ := hrest (byteLength ('<' :: tag) +
    byteLength ([' '] ++ (name ++ [] ++ '=' :: [] ++ written)))
  have hnamed : HeaderText (byteLength ('<' :: tag))
      ([' '] ++ (name ++ [] ++ '=' :: [] ++ written) ++ rest) (_ :: attributes) false :=
    .named isGap_space (.valued hname Token.isGap_nil Token.isGap_nil hvalue) hheader
  have hends : EndsName ([' '] ++ (name ++ [] ++ '=' :: [] ++ written) ++ rest) :=
    Token.endsName_cons.mpr (by decide)
  exact readsAs_of_headerText htag hcomment hends hnamed

/-! ### Values in quotes -/

theorem exists_tagEnd (offset : Nat) :
    ∃ attributes, HeaderText offset ['>'] attributes false ∧ attributes.map nameAndValue = [] :=
  ⟨[], .tagEnd Token.isGap_nil, rfl⟩

/-- In quotes of either kind a value is read as it is. -/
theorem readsAs_quoted {quote : Char} (htag : IsName tag) (hcomment : ¬ ['!', '-', '-'] <+: tag)
    (hname : IsName name) (hvalue : IsUnquoted value) (hquote : quote = '"' ∨ quote = '\'') :
    ReadsAs (spelled tag name (quote :: value ++ [quote])) deindent
      [(String.ofList name, .text (String.ofList value))] := by
  have hread : attributeValue value = .text (String.ofList value) := if_neg hvalue.ne_nil
  have hwritten : ValueText (quote :: value ++ [quote]) (.text (String.ofList value)) ['>'] := by
    rw [← hread]
    exact .quoted hquote (not_mem_of_isUnquoted hvalue hquote)
  have hreads := readsAs_of_valueText deindent htag hcomment hname hwritten exists_tagEnd
  simpa [spelled] using hreads

/-! ### Values without quotes -/

/-- What is read of the parts of a value behind its first slash: attributes without values. -/
def flags (parts : List (List Char)) : List (String × AttributeValue) :=
  (parts.filter (· ≠ [])).map fun part => (String.ofList part, .flag true)

theorem join_slash (first : List Char) (others : List (List Char)) :
    join ['/'] (first :: others) = first ++ others.flatMap ('/' :: ·) := by
  induction others generalizing first with
  | nil => simp [join]
  | cons next others ih => rw [Text.join_cons_cons, ih]; simp

theorem endsName_parts (others : List (List Char)) :
    EndsName (others.flatMap ('/' :: ·) ++ ['>']) := by
  cases others with
  | nil => exact Token.endsName_cons.mpr (by decide)
  | cons part others => exact Token.endsName_cons.mpr (by decide)

/-- Parts behind slashes stand in a header, and each that is not empty is an attribute. -/
theorem headerText_parts (hparts : ∀ part ∈ others, ∀ c ∈ part, isNameChar c)
    (hlast : others.getLast? ≠ some []) (offset : Nat) :
    ∃ attributes, HeaderText offset (others.flatMap ('/' :: ·) ++ ['>']) attributes false ∧
      attributes.map nameAndValue = flags others := by
  induction others generalizing offset with
  | nil => exact exists_tagEnd offset
  | cons part others ih =>
    rw [List.forall_mem_cons] at hparts
    obtain ⟨hpart, hothers⟩ := hparts
    have hlast' : others.getLast? ≠ some [] := by
      cases others with
      | nil => simp
      | cons next others => rwa [List.getLast?_cons_cons] at hlast
    cases part with
    | nil =>
      -- another slash follows, since no slash is the last
      have hslash : ¬ ['>'] <+: others.flatMap ('/' :: ·) ++ ['>'] := by
        cases others with
        | nil => exact absurd rfl hlast
        | cons next others => simp [List.cons_prefix_cons]
      obtain ⟨attributes, hheader, hread⟩ := ih hothers hlast' (offset + byteLength ([] ++ ['/']))
      exact ⟨attributes, .slash Token.isGap_nil hslash hheader, hread⟩
    | cons c part =>
      obtain ⟨-, -, -, hne, -, -⟩ := Token.ne_of_isNameChar (hpart c List.mem_cons_self)
      have hslash : ¬ ['>'] <+: c :: part ++ (others.flatMap ('/' :: ·) ++ ['>']) := by
        simp [List.cons_prefix_cons, Ne.symm hne]
      have hname : IsName (c :: part) := ⟨List.cons_ne_nil c part, hpart⟩
      obtain ⟨attributes, hheader, hread⟩ := ih hothers hlast'
        (offset + byteLength ([] ++ ['/']) + byteLength ([] ++ (c :: part)))
      have hflag := HeaderText.named Token.isGap_nil (.bare hname (endsName_parts others)) hheader
      have htext : ((c :: part) :: others).flatMap ('/' :: ·) ++ ['>'] =
          [] ++ ['/'] ++ ([] ++ (c :: part) ++ (others.flatMap ('/' :: ·) ++ ['>'])) := by simp
      rw [htext]
      exact ⟨_, .slash Token.isGap_nil hslash hflag, by simp [flags, nameAndValue, hread]⟩

/-- Without quotes a value ends at its first slash, and each part behind it is an attribute of its
own. -/
theorem readsAs_parts (deindent : Bool) (htag : IsName tag)
    (hcomment : ¬ ['!', '-', '-'] <+: tag) (hname : IsName name) (hfirst : IsName first)
    (hparts : ∀ part ∈ others, ∀ c ∈ part, isNameChar c) (hlast : others.getLast? ≠ some []) :
    ReadsAs (spelled tag name (join ['/'] (first :: others))) deindent
      ((String.ofList name, .text (String.ofList first)) :: flags others) := by
  have hwritten := ValueText.name hfirst (endsName_parts others)
  have hreads := readsAs_of_valueText deindent htag hcomment hname hwritten
    (headerText_parts hparts hlast)
  rw [join_slash]
  simpa [spelled] using hreads

/-- A header that cannot be read is the error of the document. -/
theorem parse_of_readHeader_error {cs : List Char} {e : ParseError} (htag : IsName tag)
    (hcomment : ¬ ['!', '-', '-'] <+: tag) (hends : EndsName cs)
    (h : readHeader 0 (byteLength ('<' :: tag)) cs = .error e) :
    parse (String.ofList ('<' :: tag ++ cs)) deindent = .error e := by
  have hblock : readBlock 0 tag cs = .error e := by
    rw [byteLength_angle] at h
    rw [readBlock, Nat.zero_add, h]
    rfl
  unfold parse
  rw [String.toList_ofList, readBlocks_tag htag hcomment hends, hblock]
  rfl

/-- A value without quotes does not start with a slash. -/
theorem parse_leadingSlash {more : List Char} (htag : IsName tag)
    (hcomment : ¬ ['!', '-', '-'] <+: tag) (hname : IsName name)
    (hmore : IsUnquoted ('/' :: more)) :
    parse (spelled tag name ('/' :: more)) deindent =
      .error ⟨.unexpectedToken .attributeValue .slash,
        ⟨byteLength ('<' :: tag ++ ' ' :: name ++ ['=']),
          byteLength ('<' :: tag ++ ' ' :: name ++ ['=']) + 1⟩⟩ := by
  set rest := more ++ '>' :: closingTag tag with hrest
  have hnext : ¬ ['>'] <+: rest := by
    cases more with
    | nil => exact absurd rfl hmore.last
    | cons c more =>
      rintro ⟨after, hafter⟩
      obtain rfl := (List.cons.inj hafter).1
      exact absurd (hmore.chars '>' (by simp)) (by decide)
  have hends : EndsName (' ' :: name ++ '=' :: '/' :: rest) := Token.endsName_cons.mpr (by decide)
  have hends' : EndsName ('=' :: '/' :: rest) := Token.endsName_cons.mpr (by decide)
  have hsource : spelled tag name ('/' :: more) =
      String.ofList ('<' :: tag ++ (' ' :: name ++ '=' :: '/' :: rest)) := by
    simp [spelled, hrest]
  rw [hsource]
  apply parse_of_readHeader_error htag hcomment hends
  have hname' := @Token.next?_append (byteLength ('<' :: tag)) .name [' '] name ('=' :: '/' :: rest)
    isGap_space (.name hname hends')
  have hequals := fun offset =>
    @Token.next?_append offset .equals [] ['='] ('/' :: rest) Token.isGap_nil .equals
  have hslash := fun offset =>
    @Token.next?_append offset .slash [] ['/'] rest Token.isGap_nil (.slash hnext)
  simp only [List.nil_append, List.cons_append] at hname' hequals hslash
  rw [List.cons_append, readHeader_of_next? hname']
  simp only [readAttribute, hequals, readValue, hslash, if_pos, bind, Except.bind]
  have hone : '/'.utf8Size = 1 := rfl
  simp [Nat.add_assoc, hone]

/-! ### The three spellings -/

/-- The parts between the slashes of a value that HTML lets stand without quotes. -/
theorem parts_of_isUnquoted (h : IsUnquoted value) (hsplit : splitOn '/' value = first :: others) :
    value = join ['/'] (first :: others) ∧ (∀ part ∈ first :: others, ∀ c ∈ part, isNameChar c) ∧
      others.getLast? ≠ some [] := by
  have hjoin : value = join ['/'] (first :: others) := by rw [← hsplit, Text.join_splitOn]
  refine ⟨hjoin, ?_, ?_⟩
  · intro part hpart c hc
    have hslash : '/' ∉ part := Text.not_mem_of_mem_splitOn (by rw [hsplit]; exact hpart)
    have hmem : c ∈ value := by
      rw [hjoin, join_slash, List.mem_append, List.mem_flatMap]
      rcases List.mem_cons.mp hpart with rfl | hpart
      · exact .inl hc
      · exact .inr ⟨part, hpart, List.mem_cons_of_mem _ hc⟩
    exact isNameChar_of_isUnquotedChar (h.chars c hmem) (fun heq => hslash (heq ▸ hc))
  · intro hlast
    apply h.last
    obtain ⟨init, rfl⟩ := List.getLast?_eq_some_iff.mp hlast
    rw [hjoin, join_slash]
    simp

/-- Without quotes a value is read as one attribute exactly if it holds no slash. -/
theorem readsAs_unquoted_iff (htag : IsName tag) (hcomment : ¬ ['!', '-', '-'] <+: tag)
    (hname : IsName name) (hvalue : IsUnquoted value) :
    ReadsAs (spelled tag name value) deindent
      [(String.ofList name, .text (String.ofList value))] ↔ '/' ∉ value := by
  obtain ⟨first, others, hsplit⟩ := List.exists_cons_of_ne_nil (Text.splitOn_ne_nil '/' value)
  obtain ⟨hjoin, hparts, hlast⟩ := parts_of_isUnquoted hvalue hsplit
  rw [List.forall_mem_cons] at hparts
  obtain ⟨hfirst, hothers⟩ := hparts
  rw [join_slash] at hjoin
  constructor
  · intro hreads hslash
    cases first with
    | nil =>
      -- the value starts with a slash, and is refused
      cases others with
      | nil => exact hvalue.ne_nil hjoin
      | cons part others =>
        obtain rfl : value = '/' :: (part ++ others.flatMap ('/' :: ·)) := by simpa using hjoin
        obtain ⟨document, block, hparse, -⟩ := hreads
        rw [parse_leadingSlash htag hcomment hname hvalue] at hparse
        cases hparse
    | cons c first =>
      have hread := readsAs_parts deindent htag hcomment hname
        ⟨List.cons_ne_nil c first, hfirst⟩ hothers hlast
      rw [join_slash, ← hjoin] at hread
      -- what is read ends at the first slash
      have hhead := (List.cons.inj (readsAs_unique hreads hread)).1
      have heq := String.ofList_inj.mp (AttributeValue.text.inj (Prod.mk.inj hhead).2)
      have hnone := List.append_right_eq_self.mp (hjoin.symm.trans heq)
      rw [hjoin, hnone, List.append_nil] at hslash
      obtain ⟨-, -, -, -, hne, -⟩ := Token.ne_of_isNameChar (hfirst '/' hslash)
      exact hne rfl
  · intro hslash
    cases others with
    | nil =>
      obtain rfl : value = first := by simpa using hjoin
      have hread := readsAs_parts deindent htag hcomment hname ⟨hvalue.ne_nil, hfirst⟩ hothers hlast
      simpa [join_slash, flags] using hread
    | cons part others => exact absurd (by simp [hjoin]) hslash

/-- In quotes a value is read as it is, and without quotes it is read as the same exactly if it
holds no slash. -/
theorem parse_spelling (deindent : Bool) (htag : IsName tag) (hcomment : ¬ ['!', '-', '-'] <+: tag)
    (hname : IsName name) (hvalue : IsUnquoted value) :
    ReadsAs (spelled tag name ('"' :: value ++ ['"'])) deindent
      [(String.ofList name, .text (String.ofList value))] ∧
    ReadsAs (spelled tag name ('\'' :: value ++ ['\''])) deindent
      [(String.ofList name, .text (String.ofList value))] ∧
    (ReadsAs (spelled tag name value) deindent
      [(String.ofList name, .text (String.ofList value))] ↔ '/' ∉ value) :=
  ⟨readsAs_quoted htag hcomment hname hvalue (.inl rfl),
    readsAs_quoted htag hcomment hname hvalue (.inr rfl),
    readsAs_unquoted_iff htag hcomment hname hvalue⟩

theorem parse_spelling_module :
    ReadsAs "<style module='main.css'></style>" true [("module", .text "main.css")] ∧
    ReadsAs "<style module=main.css></style>" true [("module", .text "main.css")] := by
  have hspelling := @parse_spelling "style".toList "module".toList "main.css".toList true
    (by decide) (by decide) (by decide) (by decide)
  obtain ⟨-, hsingle, hunquoted⟩ := hspelling
  have hplain := hunquoted.mpr (by decide)
  refine ⟨?_, ?_⟩
  · rwa [show spelled "style".toList "module".toList ('\'' :: "main.css".toList ++ ['\'']) =
      "<style module='main.css'></style>" by decide] at hsingle
  · rwa [show spelled "style".toList "module".toList "main.css".toList =
      "<style module=main.css></style>" by decide] at hplain

/-- The attributes of the blocks of a source that is read. -/
def attributesOf (source : String) : Option (List (List (String × AttributeValue))) :=
  (parse source false).toOption.map fun document =>
    document.toList.map fun block => block.attributes.map nameAndValue

/-- A relative path is read as two attributes without quotes, and as one with them. -/
theorem parse_spelling_relativePath :
    IsUnquoted "./a.css".toList ∧
    attributesOf (spelled "style".toList "src".toList "./a.css".toList) =
      some [[("src", .text "."), ("a.css", .flag true)]] ∧
    attributesOf (spelled "style".toList "src".toList ('"' :: "./a.css".toList ++ ['"'])) =
      some [[("src", .text "./a.css")]] := by
  decide +kernel

end SfcWeave.Document
