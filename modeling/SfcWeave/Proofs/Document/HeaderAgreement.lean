import SfcWeave.Proofs.Document.Addressed
import SfcWeave.Proofs.Text.Span

/-!
# Headers by offsets

Where the text that remains and the offset fit together (`RestAt`), reading tokens, values and
headers by offsets agrees with reading them from the text. `Agree` says what that means for two
results; it also keeps that an error is about a part of the source. Each reader has one lemma, and
`Agree.bind` puts them together.
-/

namespace SfcWeave.Document.Addressed

open Text (byteLength byteLength_cons byteLength_append RestAt splitOnce?)

/-! ### Parts of the source -/

variable {source cs rest front needle : List Char} {offset start stop : Nat} {token : Token}

theorem slice_front (h : RestAt source offset (front ++ rest)) :
    slice source ⟨offset, offset + byteLength front⟩ = .ok front := by
  obtain ⟨before, hcut⟩ := Span.exists_cut?_of_restAt h
  rw [slice, hcut]

theorem tail_eq (h : RestAt source offset cs) : tail source offset = .ok cs := by
  have hall : RestAt source offset (cs ++ []) := by rwa [List.append_nil]
  rw [tail, ← h.size]
  exact slice_front hall

theorem find?_eq_splitOnce? (needle cs : List Char) :
    find? needle cs = (splitOnce? needle cs).map fun (before, _) => byteLength before := by
  rw [find?, splitOnce?, Option.map_map]
  rfl

theorem find?_singleton {c : Char} (hc : c ∉ front) :
    find? [c] (front ++ c :: rest) = some (byteLength front) := by
  rw [find?_eq_splitOnce?, splitOnce?_singleton.mpr ⟨rfl, hc⟩]
  rfl

theorem find?_singleton_none {c : Char} (hc : c ∉ cs) : find? [c] cs = none := by
  rw [find?_eq_splitOnce?, splitOnce?_singleton_none.mpr hc]
  rfl

theorem span32_eq (hsize : byteLength source < UInt32.size) (hle : start ≤ stop)
    (hstop : stop ≤ byteLength source) : span32 start stop = ⟨start, stop⟩ := by
  rw [span32, Nat.mod_eq_of_lt (by omega), Nat.mod_eq_of_lt (by omega)]

/-! ### Agreement -/

/-- A reader of texts and one by offsets agree: both return something, and it corresponds, or both
stop with the same error, which is about a part of the source. -/
inductive Agree {α β : Type} (source : List Char) (corresponds : α → β → Prop) :
    Except ParseError α → Except Halt β → Prop
  | ok {a : α} {b : β} : corresponds a b → Agree source corresponds (.ok a) (.ok b)
  | error {e : ParseError} {parts : List Char × List Char × List Char} :
      e.span.cut? source = some parts →
      Agree source corresponds (.error e) (.error (.error e))

theorem Agree.bind {α β γ δ : Type} {first : α → β → Prop} {last : γ → δ → Prop}
    {x : Except ParseError α} {y : Except Halt β} {f : α → Except ParseError γ}
    {g : β → Except Halt δ} (h : Agree source first x y)
    (hnext : ∀ a b, first a b → Agree source last (f a) (g b)) :
    Agree source last (x >>= f) (y >>= g) := by
  cases h with
  | ok hab => exact hnext _ _ hab
  | error hspan => exact .error hspan

/-! ### Tokens -/

/-- A token stands in the source where its span says, and what follows it behind. -/
theorem restAt_of_next? (h : RestAt source offset cs)
    (hnext : Token.next? offset cs = some (token, rest)) :
    RestAt source token.span.start (token.text ++ rest) ∧ RestAt source token.span.stop rest ∧
      token.span.stop = token.span.start + byteLength token.text ∧ offset < token.span.stop := by
  obtain ⟨gap, -, rfl, hlexeme, hspan⟩ := Token.next?_eq_some_iff.mp hnext
  obtain ⟨c, text, htext, -⟩ := hlexeme.exists_cons
  rw [List.append_assoc] at h
  rw [hspan]
  refine ⟨h.append, h.append.append, rfl, ?_⟩
  have hpos := c.utf8Size_pos
  rw [htext, byteLength_cons]
  dsimp only
  omega

theorem slice_token (h : RestAt source offset cs)
    (hnext : Token.next? offset cs = some (token, rest)) :
    slice source token.span = .ok token.text := by
  obtain ⟨hstart, -, hstop, -⟩ := restAt_of_next? h hnext
  rw [show token.span = ⟨token.span.start, token.span.stop⟩ from rfl, hstop]
  exact slice_front hstart

theorem exists_cut?_token (h : RestAt source offset cs)
    (hnext : Token.next? offset cs = some (token, rest)) :
    ∃ parts, token.span.cut? source = some parts := by
  obtain ⟨hstart, -, hstop, -⟩ := restAt_of_next? h hnext
  obtain ⟨before, hcut⟩ := Span.exists_cut?_of_restAt hstart
  rw [← hstop] at hcut
  exact ⟨_, hcut⟩

/-- What is between two quotes. -/
theorem slice_quoted {quote : Char} (hquote : quote.utf8Size = 1) (value : List Char) :
    slice (quote :: value ++ [quote]) ⟨1, byteLength (quote :: value ++ [quote]) - 1⟩ =
      .ok value := by
  have hvalue : RestAt (quote :: value ++ [quote]) 1 (value ++ [quote]) := by
    exact ⟨[quote], rfl, by rw [byteLength_cons, hquote]; rfl⟩
  have hsize := hvalue.size
  have hlength : byteLength (value ++ [quote]) = byteLength value + 1 := by
    rw [byteLength_append, byteLength_cons, hquote]
    rfl
  rw [show byteLength (quote :: value ++ [quote]) - 1 = 1 + byteLength value by omega]
  exact slice_front hvalue

/-- A token that has been read. -/
def Mark.ofToken (token : Token) : Mark := ⟨token.kind, token.span, token.span.stop⟩

/-- The token for the end of the source. -/
def Mark.ofEnd (source : List Char) : Mark :=
  ⟨.endOfFile, Span.empty (byteLength source), byteLength source⟩

theorem ahead_ofEnd (source : List Char) : (Mark.ofEnd source).ahead source = 0 := if_pos rfl

theorem ahead_ofToken (hnext : Token.next? offset cs = some (token, rest)) (source : List Char) :
    (Mark.ofToken token).ahead source = byteLength source + 1 - token.span.stop := by
  apply if_neg
  obtain ⟨-, -, -, hlexeme, -⟩ := Token.next?_eq_some_iff.mp hnext
  intro hkind
  rw [show token.kind = .endOfFile from hkind] at hlexeme
  cases hlexeme

theorem readHeader_slash {name : List Char} {attributes : List Attribute} {token more : Mark}
    (hkind : token.kind = .slash) (hnext : next source token.stop = .ok more)
    (hless : more.ahead source < token.ahead source) :
    readHeader source start name attributes token =
      readHeader source start name attributes more := by
  rw [readHeader]
  simp only [hkind, hnext, bind, Except.bind]
  rw [dif_pos hless]

theorem readHeader_name {name : List Char} {attributes : List Attribute} {token : Mark}
    (hkind : token.kind = .name) :
    readHeader source start name attributes token = (do
      let (a, more) ← readAttribute source token
      if more.ahead source < token.ahead source then
        readHeader source start name (attributes ++ [a]) more
      else .error (.misstep (.standstill token.stop))) := by
  rw [readHeader]
  simp only [hkind]
  rfl

section

variable (hsize : byteLength source < UInt32.size)

include hsize

theorem next_of_some (h : RestAt source offset cs)
    (hnext : Token.next? offset cs = some (token, rest)) :
    next source offset = .ok (.ofToken token) := by
  obtain ⟨-, hrest, hstop, -⟩ := restAt_of_next? h hnext
  have hsource := hrest.size
  rw [next, tail_eq h]
  simp only [bind, Except.bind, hnext]
  rw [span32_eq hsize (by omega) (by omega)]
  rfl

theorem next_of_none (h : RestAt source offset cs) (hnext : Token.next? offset cs = none) :
    next source offset = .ok (.ofEnd source) := by
  rw [next, tail_eq h]
  simp only [bind, Except.bind, hnext]
  rw [span32_eq hsize (Nat.le_refl _) (Nat.le_refl _)]
  rfl

/-- There always is a next token, and less behind it than from the offset on. -/
theorem exists_next (h : RestAt source offset cs) :
    ∃ token, next source offset = .ok token ∧
      token.ahead source < byteLength source + 1 - offset := by
  have hsource := h.size
  cases hnext : Token.next? offset cs with
  | none =>
    refine ⟨_, next_of_none hsize h hnext, ?_⟩
    rw [ahead_ofEnd]
    omega
  | some found =>
    obtain ⟨token, rest⟩ := found
    obtain ⟨-, hrest, -, hlt⟩ := restAt_of_next? h hnext
    have hstop := hrest.size
    refine ⟨_, next_of_some hsize h hnext, ?_⟩
    rw [ahead_ofToken hnext]
    omega

/-! ### Headers -/

/-- A value that has been read, and its token. -/
structure ValueRead (source : List Char) (offset : Nat) (read : AttributeValue × Nat × List Char)
    (marked : AttributeValue × Mark) : Prop where
  same : marked.1 = read.1
  stop : marked.2.stop = read.2.1
  span_stop : marked.2.span.stop = read.2.1
  lt : offset < read.2.1
  rest : RestAt source read.2.1 read.2.2

theorem agree_readValue (h : RestAt source offset cs) :
    Agree source (ValueRead source offset) (Document.readValue offset cs)
      (readValue source offset) := by
  unfold Document.readValue readValue
  split
  · next hnext =>
    rw [next_of_none hsize h hnext, h.size]
    obtain ⟨_, _, hcut⟩ := Span.exists_cut?_of_le h.nil h.nil (Nat.le_refl _)
    exact .error hcut
  · next token rest hnext =>
    rw [next_of_some hsize h hnext]
    have hslice := slice_token h hnext
    obtain ⟨-, hrest, -, hlt⟩ := restAt_of_next? h hnext
    obtain ⟨_, hcut⟩ := exists_cut?_token h hnext
    obtain ⟨-, -, -, hlexeme, -⟩ := Token.next?_eq_some_iff.mp hnext
    obtain ⟨kind, text, span⟩ := token
    dsimp only [Mark.ofToken, bind, Except.bind] at *
    cases hlexeme with
    | @doubleQuoted value _ hvalue =>
      rw [hslice]
      dsimp only
      rw [slice_quoted rfl value]
      exact .ok ⟨by simp, rfl, rfl, hlt, hrest⟩
    | @singleQuoted value _ hvalue =>
      rw [hslice]
      dsimp only
      rw [slice_quoted rfl value]
      exact .ok ⟨by simp, rfl, rfl, hlt, hrest⟩
    | name hname hends =>
      rw [hslice]
      exact .ok ⟨rfl, rfl, rfl, hlt, hrest⟩
    | _ => exact .error hcut

/-- An attribute that has been read, and the token after it. -/
structure AttributeRead (source : List Char) (offset : Nat) (read : Attribute × Nat × List Char)
    (marked : Attribute × Mark) : Prop where
  same : marked.1 = read.1
  le : offset ≤ read.2.1
  next : Addressed.next source read.2.1 = .ok marked.2
  rest : RestAt source read.2.1 read.2.2

theorem agree_readAttribute {name : Token} (h : RestAt source offset cs)
    (hname : Token.next? offset cs = some (name, rest)) :
    Agree source (AttributeRead source name.span.stop) (Document.readAttribute name rest)
      (readAttribute source (.ofToken name)) := by
  obtain ⟨-, hrest, -, -⟩ := restAt_of_next? h hname
  unfold Document.readAttribute readAttribute
  dsimp only [Mark.ofToken]
  rw [slice_token h hname]
  cases hsign : Token.next? name.span.stop rest with
  | none =>
    simp only [next_of_none hsize hrest hsign, bind, Except.bind]
    rw [if_neg (by simp [Mark.ofEnd])]
    exact .ok ⟨rfl, Nat.le_refl _, next_of_none hsize hrest hsign, hrest⟩
  | some found =>
    obtain ⟨sign, after⟩ := found
    obtain ⟨-, hafter, -, hlt⟩ := restAt_of_next? hrest hsign
    simp only [next_of_some hsize hrest hsign, bind, Except.bind, Mark.ofToken]
    split
    · apply Agree.bind (agree_readValue hsize hafter)
      rintro ⟨value, stop, last⟩ ⟨value', token⟩ ⟨rfl, rfl, hspan, hlt', hlast⟩
      dsimp only at *
      obtain ⟨token', htoken', -⟩ := exists_next hsize hlast
      rw [htoken', hspan]
      exact .ok ⟨rfl, Nat.le_of_lt (Nat.lt_trans hlt hlt'), htoken', hlast⟩
    · exact .ok ⟨rfl, Nat.le_refl _, next_of_some hsize hrest hsign, hrest⟩

/-- A header that has been read, as an opening tag; some attributes came before. -/
structure HeaderRead (source : List Char) (start : Nat) (name : List Char)
    (attributes : List Attribute) (header : Header) (tag : OpenTag) : Prop where
  lt : start < header.stop
  same : tag = ⟨name, attributes ++ header.attributes, header.isEmpty, header.stop⟩
  rest : RestAt source header.stop header.rest

/-- The source ends within a header. -/
theorem agree_readHeader_end (hstart : RestAt source start front) (hle : start ≤ offset)
    (h : RestAt source offset cs) (hnext : Token.next? offset cs = none) (name : List Char)
    (attributes : List Attribute) :
    Agree source (HeaderRead source start name attributes) (Document.readHeader start offset cs)
      (readHeader source start name attributes (.ofEnd source)) := by
  have hsource := h.size
  obtain ⟨_, _, hcut⟩ := Span.exists_cut?_of_le hstart h.nil (by omega)
  rw [readHeader, Document.readHeader]
  dsimp only [Mark.ofEnd]
  rw [span32_eq hsize (by omega) (Nat.le_refl _)]
  split
  · rw [hsource]
    exact .error hcut
  · next hsome =>
    rw [hnext] at hsome
    cases hsome

theorem agree_readHeader {name : List Char} {attributes : List Attribute} {token : Mark}
    (hstart : RestAt source start front) (hle : start ≤ offset) (h : RestAt source offset cs)
    (htoken : next source offset = .ok token) :
    Agree source (HeaderRead source start name attributes) (Document.readHeader start offset cs)
      (readHeader source start name attributes token) := by
  -- the token at hand is the one that the reader of texts reads next
  induction hn : byteLength source - offset using Nat.strong_induction_on
    generalizing offset cs attributes token with
  | h n ih =>
    have hmore : ∀ {offset' cs' more} {attributes : List Attribute}, offset < offset' →
        RestAt source offset' cs' → next source offset' = .ok more →
        Agree source (HeaderRead source start name attributes)
          (Document.readHeader start offset' cs')
          (readHeader source start name attributes more) := by
      intro offset' cs' more attributes hlt hcs' hmore
      have hstop := hcs'.size
      exact ih _ (by omega) (by omega) hcs' hmore rfl
    cases hnext : Token.next? offset cs with
    | none =>
      obtain rfl := Except.ok.inj ((next_of_none hsize h hnext).symm.trans htoken)
      exact agree_readHeader_end hsize hstart hle h hnext name attributes
    | some found =>
      obtain ⟨found, rest⟩ := found
      obtain rfl := Except.ok.inj ((next_of_some hsize h hnext).symm.trans htoken)
      obtain ⟨-, hrest, -, hlt⟩ := restAt_of_next? h hnext
      obtain ⟨_, hcut⟩ := exists_cut?_token h hnext
      obtain ⟨-, -, -, hlexeme, -⟩ := Token.next?_eq_some_iff.mp hnext
      have hahead := ahead_ofToken hnext source
      rw [readHeader_of_next? hnext]
      cases hkind : found.kind with
      | slash =>
        obtain ⟨more, hnext', hless⟩ := exists_next hsize hrest
        rw [readHeader_slash hkind hnext' (by omega)]
        exact hmore hlt hrest hnext'
      | name =>
        rw [readHeader_name hkind]
        apply Agree.bind (agree_readAttribute hsize h hnext)
        rintro ⟨a, stop, after⟩ ⟨_, more⟩ ⟨rfl, hle', hnext', hafter⟩
        obtain ⟨more', hmore', hless⟩ := exists_next hsize hafter
        obtain rfl := Except.ok.inj (hmore'.symm.trans hnext')
        dsimp only at hle' hafter hnext' hless ⊢
        rw [if_pos (by omega), ← bind_pure (readHeader ..)]
        apply Agree.bind (hmore (by omega) hafter hnext')
        rintro header tag ⟨hstop, rfl, hheader⟩
        exact .ok ⟨hstop, by simp, hheader⟩
      | endOfFile =>
        rw [hkind] at hlexeme
        cases hlexeme
      | tagEnd | emptyEnd =>
        rw [readHeader]
        simp only [Mark.ofToken, hkind]
        exact .ok ⟨Nat.lt_of_le_of_lt hle hlt, by simp, hrest⟩
      | _ =>
        rw [readHeader]
        simp only [Mark.ofToken, hkind]
        exact .error hcut

/-- No tag is opened where no name starts. -/
theorem openTag?_of_endsName (h : RestAt source (start + 1) cs) (hends : Token.EndsName cs) :
    openTag? source start (start + 1) = .ok none := by
  cases hnext : Token.next? (start + 1) cs with
  | none =>
    rw [openTag?, next_of_none hsize h hnext]
    rfl
  | some found =>
    obtain ⟨token, rest⟩ := found
    rw [openTag?, next_of_some hsize h hnext]
    simp only [bind, Except.bind, Mark.ofToken]
    apply if_neg
    rintro ⟨hkind, hplace⟩
    -- the name would stand at the front of the text
    obtain ⟨gap, -, rfl, hlexeme, hspan⟩ := Token.next?_eq_some_iff.mp hnext
    have hgap : byteLength gap = 0 := by
      rw [hspan] at hplace
      dsimp only at hplace
      omega
    have hlength := Text.length_le_byteLength gap
    obtain rfl : gap = [] := List.length_eq_zero_iff.mp (by omega)
    rw [hkind] at hlexeme
    cases hlexeme with
    | name hname =>
      obtain ⟨c, text, htext⟩ := List.exists_cons_of_ne_nil hname.1
      have hc := hname.2 c (by simp [htext])
      rw [hends c (by simp [htext])] at hc
      cases hc

theorem agree_openTag? {name : List Char} (hstart : RestAt source start front)
    (h : RestAt source (start + 1) (name ++ rest)) (hname : Token.IsName name)
    (hends : Token.EndsName rest) :
    Agree source
      (fun header tag => ∃ tag', tag = some tag' ∧ HeaderRead source start name [] header tag')
      (Document.readHeader start (start + 1 + byteLength name) rest)
      (openTag? source start (start + 1)) := by
  have hnext : Token.next? (start + 1) (name ++ rest) =
      some (⟨.name, name, ⟨start + 1, start + 1 + byteLength name⟩⟩, rest) :=
    Token.next?_append Token.isGap_nil (.name hname hends)
  obtain ⟨first, hfirst, -⟩ := exists_next hsize h.append
  rw [openTag?, next_of_some hsize h hnext]
  simp only [bind, Except.bind, Mark.ofToken]
  rw [if_pos ⟨trivial, trivial⟩, slice_token h hnext, hfirst]
  rw [← bind_pure (Document.readHeader ..)]
  apply Agree.bind (agree_readHeader hsize hstart (by omega) h.append hfirst)
  intro header tag hheader
  exact .ok ⟨tag, rfl, hheader⟩

end

end SfcWeave.Document.Addressed
