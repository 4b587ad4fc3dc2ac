import Mathlib.Data.List.Chain
import SfcWeave.Proofs.Document.HeaderAgreement
import SfcWeave.Proofs.Document.LongestMatch

/-!
# Tokens tile a source

`Tiles source base tokens` says what the tokens of a source from an offset on are, by the places
where they stand and without saying how they are read: one after the other, with nothing but
separators between them, each the longest match at its place, and an end. There is one such list,
the one that is read:

    all_eq_iff : RestAt source.toList base rest →
      (all base rest = tokens ↔ Tiles source base tokens)

Both directions go token by token: the next token in front of a tiling of the rest is a tiling
(`Tiles.cons`), and the first token of a tiling is the next one, with a tiling of the rest behind it
(`Tiles.next?_eq`, `Tiles.tail`).
-/

namespace SfcWeave.Token

open Text (byteLength byteLength_append RestAt)
open Document.Addressed (restAt_of_next?)

/-- The token for the end of a source. -/
def ofEnd (source : String) : Token := ⟨.endOfFile, [], Span.empty source.utf8ByteSize⟩

/-- Nothing but separators stands between two spans. -/
def IsSeparated (source : String) (a b : Span) : Prop :=
  ∃ gap, Span.slice? ⟨a.stop, b.start⟩ source = some gap ∧ IsGap gap.toList

/-- The tokens of a source from the offset `base` on. -/
structure Tiles (source : String) (base : Nat) (tokens : List Token) : Prop where
  /-- There is one token for the end, at the end of the source, and it is the last one. -/
  closed : ∃ front, tokens = front ++ [ofEnd source] ∧ ∀ token ∈ front, token.kind ≠ .endOfFile
  /-- All others stand where their spans say, from `base` on, and none is empty. -/
  inside : ∀ token ∈ tokens, token.kind ≠ .endOfFile →
    base ≤ token.span.start ∧ token.span.start < token.span.stop ∧
      token.span.stop ≤ source.utf8ByteSize ∧
      token.span.slice? source = some (String.ofList token.text)
  /-- They are in order and do not overlap. -/
  ordered : tokens.Pairwise fun a b => a.span.stop ≤ b.span.start
  /-- Nothing is left out but separators, also in front of the first token and behind the last. -/
  separated : (Span.empty base :: tokens.map Token.span).IsChain (IsSeparated source)
  /-- Each is the longest match at its place. -/
  longest : ∀ token ∈ tokens, token.kind ≠ .endOfFile → token.kind ≠ .invalid →
    ∀ rest, RestAt source.toList token.span.start rest →
      IsLongestMatch token.kind token.text rest
  /-- Invalid is only a quote without a partner, which takes all that is left of the source. -/
  unpaired : ∀ token ∈ tokens, token.kind = .invalid →
    (∃ front, tokens = front ++ [token, ofEnd source]) ∧
      token.span.stop = source.utf8ByteSize ∧ IsUnpaired token.text

variable {source : String} {base offset : Nat} {rest cs : List Char} {token : Token}
  {tokens : List Token} {a b : Span} {spans : List Span}

/-- What is in front of a span matters only by where it stops. -/
theorem isChain_isSeparated_iff : (a :: b :: spans).IsChain (IsSeparated source) ↔
    IsSeparated source a b ∧ (Span.empty b.stop :: spans).IsChain (IsSeparated source) := by
  rw [List.isChain_cons_cons]
  cases spans with
  | nil => simp
  | cons c spans => rw [List.isChain_cons_cons, List.isChain_cons_cons]; rfl

/-! ### What is read -/

theorem all_of_next?_some (h : next? offset cs = some (token, rest)) :
    all offset cs = token :: all token.span.stop rest := by
  rw [all]
  split
  · next hnone => rw [h] at hnone; cases hnone
  · next hsome =>
    rw [h] at hsome
    cases hsome
    rfl

theorem all_of_next?_none (h : next? offset cs = none) :
    all offset cs = [⟨.endOfFile, [], Span.empty (offset + byteLength cs)⟩] := by
  rw [all]
  split
  · rfl
  · next hsome => rw [h] at hsome; cases hsome

/-- Behind the last token there is one for the end. -/
theorem all_of_isGap (h : RestAt source.toList base rest) (hgap : IsGap rest) :
    all base rest = [ofEnd source] := by
  rw [all_of_next?_none (next?_eq_none_iff.mpr hgap), h.size, Text.byteLength_toList]
  rfl

theorem IsLexeme.kind_ne_endOfFile {kind : TokenKind} {text : List Char}
    (h : IsLexeme kind text rest) : kind ≠ .endOfFile := by
  rintro rfl
  cases h

/-- The next token stands where its span says. -/
theorem inside_of_next? {after : List Char} (hrest : RestAt source.toList base rest)
    (hnext : next? base rest = some (token, after)) :
    base ≤ token.span.start ∧ token.span.start < token.span.stop ∧
      token.span.stop ≤ source.utf8ByteSize ∧
      token.span.slice? source = some (String.ofList token.text) := by
  obtain ⟨hstart, hstop, hsize, -⟩ := restAt_of_next? hrest hnext
  obtain ⟨gap, -, -, hlexeme, hspan⟩ := next?_eq_some_iff.mp hnext
  have hbase : token.span.start = base + byteLength gap := by rw [hspan]
  have hend := hstop.size
  rw [Text.byteLength_toList] at hend
  have hpos : 0 < byteLength token.text := by
    obtain ⟨c, text, htext, -⟩ := hlexeme.exists_cons
    have := c.utf8Size_pos
    rw [htext, Text.byteLength_cons]
    omega
  have hslice := Span.slice?_of_restAt hstart
  rw [← hsize] at hslice
  exact ⟨by omega, by omega, by omega, hslice⟩

/-- Only separators are in front of the next token. -/
theorem isSeparated_of_next? {after : List Char} (hrest : RestAt source.toList base rest)
    (hnext : next? base rest = some (token, after)) :
    IsSeparated source (Span.empty base) token.span := by
  obtain ⟨gap, hgap, rfl, -, hspan⟩ := next?_eq_some_iff.mp hnext
  rw [List.append_assoc] at hrest
  have hslice := Span.slice?_of_restAt hrest
  have hstart : base + byteLength gap = token.span.start := by rw [hspan]
  rw [hstart] at hslice
  exact ⟨_, hslice, by rwa [String.toList_ofList]⟩

namespace Tiles

theorem eq_ofEnd (h : Tiles source base tokens) (hmem : token ∈ tokens)
    (hkind : token.kind = .endOfFile) : token = ofEnd source := by
  obtain ⟨front, rfl, hfront⟩ := h.closed
  rcases List.mem_append.mp hmem with hmem | hmem
  · exact absurd hkind (hfront token hmem)
  · exact List.mem_singleton.mp hmem

theorem le_start (h : Tiles source base tokens) (hbase : base ≤ source.utf8ByteSize)
    (hmem : token ∈ tokens) : base ≤ token.span.start := by
  by_cases hkind : token.kind = .endOfFile
  · rw [h.eq_ofEnd hmem hkind]
    exact hbase
  · exact (h.inside token hmem hkind).1

/-- Nothing comes after the end. -/
theorem eq_nil (h : Tiles source base (ofEnd source :: tokens)) : tokens = [] := by
  obtain ⟨front, hfront, hkinds⟩ := h.closed
  cases front with
  | nil => exact (List.cons.inj hfront).2
  | cons first front =>
    obtain ⟨rfl, -⟩ := List.cons.inj hfront
    exact absurd rfl (hkinds _ List.mem_cons_self)

/-- At the end of a source there is no other token. -/
theorem eq_singleton (h : Tiles source source.utf8ByteSize tokens) : tokens = [ofEnd source] := by
  obtain ⟨front, rfl, hfront⟩ := h.closed
  cases front with
  | nil => rfl
  | cons token front =>
    have hmem : token ∈ token :: front ++ [ofEnd source] := by simp
    obtain ⟨hstart, hlt, hstop, -⟩ :=
      h.inside token hmem (hfront token List.mem_cons_self)
    omega

/-- Only separators are in front of the end of a tiling without other tokens. -/
theorem isGap (h : Tiles source base [ofEnd source]) (hrest : RestAt source.toList base rest) :
    IsGap rest := by
  obtain ⟨⟨gap, hslice, hgap⟩, -⟩ := isChain_isSeparated_iff.mp h.separated
  obtain ⟨behind, hbase, hbehind, -⟩ := Span.restAt_of_slice? hslice
  obtain rfl := hbehind.eq_nil
  rw [List.append_nil] at hbase
  rwa [hrest.unique hbase]

/-- A token of a tiling is a lexeme of the source. -/
theorem exists_isLexeme (h : Tiles source base tokens) (hmem : token ∈ tokens)
    (hkind : token.kind ≠ .endOfFile) :
    ∃ rest, RestAt source.toList token.span.start (token.text ++ rest) ∧
      RestAt source.toList token.span.stop rest ∧
      token.span.stop = token.span.start + byteLength token.text ∧
      IsLexeme token.kind token.text rest := by
  obtain ⟨-, -, -, hslice⟩ := h.inside token hmem hkind
  obtain ⟨rest, hstart, hstop, hsize⟩ := Span.restAt_of_slice? hslice
  rw [String.toList_ofList] at hstart hsize
  refine ⟨rest, hstart, hstop, hsize, isLexeme_iff.mpr ?_⟩
  by_cases hinvalid : token.kind = .invalid
  · obtain ⟨-, hend, hunpaired⟩ := h.unpaired token hmem hinvalid
    rw [hend] at hstop
    exact .inr ⟨hinvalid, hstop.eq_nil, hunpaired⟩
  · exact .inl (h.longest token hmem hkind hinvalid _ hstart)

/-- The first token of a tiling is the next one of the text. -/
theorem next?_eq (h : Tiles source base (token :: tokens))
    (hrest : RestAt source.toList base rest) (hkind : token.kind ≠ .endOfFile) :
    ∃ after, next? base rest = some (token, after) := by
  obtain ⟨after, hstart, -, hsize, hlexeme⟩ := h.exists_isLexeme List.mem_cons_self hkind
  obtain ⟨⟨gap, hslice, hgap⟩, -⟩ := isChain_isSeparated_iff.mp h.separated
  obtain ⟨behind, hbase, hbehind, hgapsize⟩ := Span.restAt_of_slice? hslice
  change token.span.start = base + byteLength gap.toList at hgapsize
  obtain rfl := hbehind.unique hstart
  obtain rfl := hbase.unique hrest
  refine ⟨after, next?_eq_some_iff.mpr ⟨gap.toList, hgap, ?_, hlexeme, ?_⟩⟩
  · rw [List.append_assoc]
  · rw [← hgapsize, ← hsize]

theorem tail (h : Tiles source base (token :: tokens)) (hkind : token.kind ≠ .endOfFile) :
    Tiles source token.span.stop tokens where
  closed := by
    obtain ⟨front, hfront, hkinds⟩ := h.closed
    cases front with
    | nil =>
      obtain ⟨rfl, -⟩ := List.cons.inj hfront
      exact absurd rfl hkind
    | cons first front =>
      obtain ⟨rfl, rfl⟩ := List.cons.inj hfront
      exact ⟨front, rfl, fun token hmem => hkinds token (List.mem_cons_of_mem _ hmem)⟩
  inside := by
    intro other hmem hother
    have hle := (List.pairwise_cons.mp h.ordered).1 other hmem
    exact ⟨hle, (h.inside other (List.mem_cons_of_mem token hmem) hother).2⟩
  ordered := (List.pairwise_cons.mp h.ordered).2
  separated := (isChain_isSeparated_iff.mp h.separated).2
  longest other hmem := h.longest other (List.mem_cons_of_mem token hmem)
  unpaired := by
    intro other hmem hother
    obtain ⟨⟨front, hfront⟩, hrest⟩ := h.unpaired other (List.mem_cons_of_mem token hmem) hother
    refine ⟨?_, hrest⟩
    cases front with
    | nil =>
      -- nothing but the end follows the first token, and it is not invalid
      obtain ⟨rfl, rfl⟩ := List.cons.inj hfront
      rw [List.mem_singleton.mp hmem] at hother
      cases hother
    | cons first front =>
      obtain ⟨rfl, rfl⟩ := List.cons.inj hfront
      exact ⟨front, rfl⟩

/-- The next token in front of a tiling of the rest. -/
theorem cons {after : List Char} (h : Tiles source token.span.stop tokens)
    (hrest : RestAt source.toList base rest) (hnext : next? base rest = some (token, after)) :
    Tiles source base (token :: tokens) := by
  have hinside := inside_of_next? hrest hnext
  obtain ⟨hstart, hstop, -, -⟩ := restAt_of_next? hrest hnext
  obtain ⟨-, -, -, hlexeme, -⟩ := next?_eq_some_iff.mp hnext
  constructor
  case closed =>
    obtain ⟨front, rfl, hfront⟩ := h.closed
    refine ⟨token :: front, rfl, ?_⟩
    intro other hmem
    rcases List.mem_cons.mp hmem with rfl | hmem
    · exact hlexeme.kind_ne_endOfFile
    · exact hfront other hmem
  case inside =>
    intro other hmem hother
    rcases List.mem_cons.mp hmem with rfl | hmem
    · exact hinside
    · obtain ⟨hle, hrest⟩ := h.inside other hmem hother
      exact ⟨by omega, hrest⟩
  case ordered =>
    exact List.pairwise_cons.mpr ⟨fun other hmem => h.le_start hinside.2.2.1 hmem, h.ordered⟩
  case separated =>
    exact isChain_isSeparated_iff.mpr ⟨isSeparated_of_next? hrest hnext, h.separated⟩
  case longest =>
    intro other hmem hkind hvalid behind hbehind
    rcases List.mem_cons.mp hmem with rfl | hmem
    · obtain rfl := hstart.unique hbehind
      exact (isLexeme_iff.mp hlexeme).resolve_right fun hinvalid => hvalid hinvalid.1
    · exact h.longest other hmem hkind hvalid behind hbehind
  case unpaired =>
    intro other hmem hinvalid
    rcases List.mem_cons.mp hmem with rfl | hmem
    · rcases isLexeme_iff.mp hlexeme with hmatch | ⟨-, rfl, hunpaired⟩
      · rw [hinvalid] at hmatch
        cases hmatch.isMatch
      · -- the quote reaches to the end, where no token but the last one is
        have hall : other.span.stop = source.utf8ByteSize := by
          rw [← Text.byteLength_toList, ← hstop.size]
          rfl
        rw [hall] at h
        exact ⟨⟨[], by rw [h.eq_singleton]; rfl⟩, hall, hunpaired⟩
    · obtain ⟨⟨front, rfl⟩, hother⟩ := h.unpaired other hmem hinvalid
      exact ⟨⟨token :: front, rfl⟩, hother⟩

end Tiles

/-- The end of a source behind separators. -/
theorem tiles_ofEnd (hrest : RestAt source.toList base rest) (hgap : IsGap rest) :
    Tiles source base [ofEnd source] := by
  have hslice := Span.slice?_of_restAt (by rwa [← List.append_nil rest] at hrest)
  rw [hrest.size, Text.byteLength_toList] at hslice
  have hend : ∀ token ∈ [ofEnd source], token.kind = .endOfFile := by simp [ofEnd]
  refine ⟨⟨[], rfl, by simp⟩, ?_, List.pairwise_singleton _ _, ?_, ?_, ?_⟩
  · intro token hmem hkind
    exact absurd (hend token hmem) hkind
  · exact List.isChain_cons_cons.mpr ⟨⟨_, hslice, by rwa [String.toList_ofList]⟩,
      List.isChain_singleton _⟩
  · intro token hmem hkind
    exact absurd (hend token hmem) hkind
  · intro token hmem hkind
    rw [hend token hmem] at hkind
    cases hkind

/-- The tokens that are read tile the source. -/
theorem tiles_all (hrest : RestAt source.toList base rest) : Tiles source base (all base rest) := by
  induction hn : rest.length using Nat.strong_induction_on generalizing base rest with
  | h n ih =>
    cases hnext : next? base rest with
    | none =>
      have hgap := next?_eq_none_iff.mp hnext
      rw [all_of_isGap hrest hgap]
      exact tiles_ofEnd hrest hgap
    | some found =>
      obtain ⟨token, after⟩ := found
      have hless := length_of_next? hnext
      obtain ⟨-, hstop, -, -⟩ := restAt_of_next? hrest hnext
      rw [all_of_next?_some hnext]
      exact (ih after.length (hn ▸ hless) hstop rfl).cons hrest hnext

/-- No other tokens do. -/
theorem Tiles.eq_all (h : Tiles source base tokens) (hrest : RestAt source.toList base rest) :
    tokens = all base rest := by
  induction tokens generalizing base rest with
  | nil =>
    obtain ⟨front, hfront, -⟩ := h.closed
    simp at hfront
  | cons token tokens ih =>
    by_cases hkind : token.kind = .endOfFile
    · obtain rfl := h.eq_ofEnd List.mem_cons_self hkind
      obtain rfl := h.eq_nil
      rw [all_of_isGap hrest (h.isGap hrest)]
    · obtain ⟨after, hnext⟩ := h.next?_eq hrest hkind
      obtain ⟨-, hstop, -, -⟩ := restAt_of_next? hrest hnext
      rw [all_of_next?_some hnext, ← ih (h.tail hkind) hstop]

theorem all_eq_iff (hrest : RestAt source.toList base rest) :
    all base rest = tokens ↔ Tiles source base tokens := by
  constructor
  · rintro rfl
    exact tiles_all hrest
  · intro h
    exact (h.eq_all hrest).symm

/-! ### Neighbours -/

/-- Of marks that start alike the longer one is read. -/
structure ReadsMarks (token : Token) (cs : List Char) : Prop where
  commentOpen : ['<', '!', '-', '-'] <+: cs → token.kind = .commentOpen
  closingOpen : ['<', '/'] <+: cs → token.kind = .closingOpen
  emptyEnd : ['/', '>'] <+: cs → token.kind = .emptyEnd
  tagOpen : ∀ c, c ≠ '-' → ['<', '!', '-', c] <+: cs → token.kind = .tagOpen

namespace Tiles

/-- The kind of a token is that of the lexeme at its place. -/
theorem kind_eq {c : Char} (h : Tiles source base tokens) (hmem : token ∈ tokens)
    (hkind : token.kind ≠ .endOfFile) (hrest : RestAt source.toList token.span.start (c :: cs)) :
    token.kind = (lexeme c cs).1 := by
  obtain ⟨rest, hstart, -, -, hlexeme⟩ := h.exists_isLexeme hmem hkind
  obtain ⟨d, text, htext, -⟩ := hlexeme.exists_cons
  rw [htext] at hstart hlexeme
  obtain ⟨rfl, rfl⟩ := List.cons.inj (hrest.unique hstart)
  exact (congrArg Prod.fst (lexeme_of_isLexeme hlexeme)).symm

theorem readsMarks (h : Tiles source base tokens) (hmem : token ∈ tokens)
    (hkind : token.kind ≠ .endOfFile) (hrest : RestAt source.toList token.span.start rest) :
    token.ReadsMarks rest := by
  constructor
  case commentOpen | closingOpen | emptyEnd =>
    rintro ⟨after, rfl⟩
    exact h.kind_eq hmem hkind hrest
  case tagOpen =>
    rintro c hc ⟨after, rfl⟩
    rw [h.kind_eq hmem hkind hrest]
    unfold lexeme
    rw [if_pos rfl]
    split
    · next heq => simp_all
    · next heq => simp_all
    · rfl

/-- A name ends where no other name can start. -/
theorem names_apart (h : Tiles source base tokens) :
    tokens.Pairwise fun a b => a.kind = .name → b.kind = .name → a.span.stop < b.span.start := by
  refine h.ordered.imp_of_mem ?_
  intro a b ha hb hle hakind hbkind
  obtain ⟨rest, -, hstop, -, hlexeme⟩ := h.exists_isLexeme ha (by rw [hakind]; decide)
  obtain ⟨rest', hstart, -, -, hlexeme'⟩ := h.exists_isLexeme hb (by rw [hbkind]; decide)
  rcases Nat.lt_or_eq_of_le hle with hlt | heq
  · exact hlt
  · rw [heq] at hstop
    obtain rfl := hstart.unique hstop
    rw [hakind] at hlexeme
    rw [hbkind] at hlexeme'
    cases hlexeme with
    | name _ hends =>
      cases hlexeme' with
      | name hname _ =>
        rw [endsName_append hname.1] at hends
        obtain ⟨c, text, htext⟩ := List.exists_cons_of_ne_nil hname.1
        rw [htext] at hends hname
        have hc := hname.2 c List.mem_cons_self
        rw [endsName_cons.mp hends] at hc
        cases hc

end Tiles

end SfcWeave.Token
