import Mathlib.Data.List.Infix
import SfcWeave.Proofs.Document.Content
import SfcWeave.Proofs.Document.Gathering
import SfcWeave.Proofs.Document.Header

/-!
# Documents are read by their grammar

`readBlock` accepts exactly the texts of `BlockText`, and `readBlocks` exactly those of
`Segmented`. On a segmented text reading comes down to storing the blocks one after the other
(`readBlocks_of_segmented`), so that the two ways to fail are kept apart: a text that is no
sequence of segments, and a second template or script.
-/

namespace SfcWeave.Document

open Text (byteLength byteLength_nil byteLength_cons byteLength_append after? splitOnce?)
open Token (IsName EndsName isNameChar)

variable {offset : Nat} {c : Char} {cs rest text tag : List Char} {prepare : Block → Block}
  {document result : Document} {block : Block} {blocks : List Block}

/-! ### One block -/

theorem blockText_span (h : BlockText offset text block) :
    block.span = ⟨offset, offset + byteLength text⟩ := by
  cases h <;> rfl

/-- A name holds no angle bracket. -/
theorem not_mem_of_isName (h : IsName tag) : '<' ∉ tag := by
  intro hmem
  obtain ⟨-, -, hne, -⟩ := Token.ne_of_isNameChar (h.2 '<' hmem)
  exact hne rfl

theorem byteLength_angle (cs : List Char) : byteLength ('<' :: cs) = 1 + byteLength cs := rfl

/-- Where a header ends, counted from the `<` in front of its tag. -/
theorem byteLength_header (tag header : List Char) :
    offset + 1 + byteLength tag + byteLength header =
      offset + byteLength ('<' :: tag ++ header) := by
  rw [byteLength_append, byteLength_angle]
  omega

/-- A block that has been read stands in the text, its tag first. -/
theorem blockText_of_readBlock (htag : IsName tag) (hcomment : ¬ ['!', '-', '-'] <+: tag)
    (hends : EndsName cs) (h : readBlock offset tag cs = .ok (block, rest)) :
    ∃ text, '<' :: tag ++ cs = text ++ rest ∧ BlockText offset text block := by
  unfold readBlock at h
  obtain ⟨header, hheader, hblock⟩ := Except.bind_eq_ok_iff.mp h
  clear h
  rw [Nat.add_assoc, ← byteLength_angle] at hheader
  obtain ⟨written, rfl, hwritten, hstop⟩ := readHeader_eq_ok_iff.mp hheader
  rw [Token.endsName_append (headerText_ne_nil hwritten)] at hends
  rw [Nat.add_assoc, ← byteLength_append] at hstop
  dsimp only at hblock
  split at hblock
  · next hempty =>
    obtain ⟨rfl, rfl⟩ := Prod.mk.inj (Except.ok.inj hblock)
    rw [hempty] at hwritten
    refine ⟨'<' :: tag ++ written, by simp, ?_⟩
    rw [hstop]
    exact .empty htag hcomment hends hwritten
  · next hempty =>
    split at hblock
    · cases hblock
    · next content after hcontent =>
      obtain ⟨rfl, rfl⟩ := Prod.mk.inj (Except.ok.inj hblock)
      rw [Bool.not_eq_true] at hempty
      rw [hempty] at hwritten
      obtain ⟨hrest, hend⟩ := (content?_eq_some_iff (not_mem_of_isName htag)).mp hcontent
      refine ⟨'<' :: tag ++ written ++ content ++ closingTag tag, by simp [hrest], ?_⟩
      rw [hstop, Nat.add_assoc offset, ← byteLength_append, Nat.add_assoc offset,
        ← byteLength_append]
      exact .closed htag hcomment hends hwritten hend

/-- A block that stands in the text is read, once its tag is known. -/
theorem readBlock_of_blockText (h : BlockText offset text block) (rest : List Char) :
    ∃ tag cs, text ++ rest = '<' :: tag ++ cs ∧ IsName tag ∧ ¬ ['!', '-', '-'] <+: tag ∧
      EndsName cs ∧ readBlock offset tag cs = .ok (block, rest) := by
  cases h with
  | @closed tag header attributes content htag hcomment hends hheader hcontent =>
    have hread := readHeader_of_headerText hheader offset (content ++ closingTag tag ++ rest)
    have hfound : content? tag (content ++ closingTag tag ++ rest) = some (content, rest) :=
      (content?_eq_some_iff (not_mem_of_isName htag)).mpr ⟨rfl, hcontent⟩
    rw [byteLength_angle, ← Nat.add_assoc] at hread
    refine ⟨tag, header ++ (content ++ closingTag tag ++ rest), by simp, htag, hcomment, ?_, ?_⟩
    · exact (Token.endsName_append (headerText_ne_nil hheader)).mpr hends
    · rw [readBlock, hread]
      simp only [bind, Except.bind, hfound, byteLength_header, Bool.false_eq_true, if_false]
      simp only [byteLength_append, Nat.add_assoc]
  | @empty tag header attributes htag hcomment hends hheader =>
    have hread := readHeader_of_headerText hheader offset rest
    rw [byteLength_angle, ← Nat.add_assoc] at hread
    refine ⟨tag, header ++ rest, by simp, htag, hcomment, ?_, ?_⟩
    · exact (Token.endsName_append (headerText_ne_nil hheader)).mpr hends
    · rw [readBlock, hread]
      simp only [bind, Except.bind, byteLength_header, if_true]
      rfl

/-! ### The segments of a text -/

/-- A character in front of a text that is no `<` belongs to the run of text there. -/
theorem segmented_cons (hc : c ≠ '<') (h : Segmented (offset + c.utf8Size) cs blocks) :
    Segmented offset (c :: cs) blocks := by
  have hsingle : '<' ∉ [c] := by simp [Ne.symm hc]
  by_cases hnext : ∀ d ∈ cs.head?, d = '<'
  · exact .text (List.cons_ne_nil c []) hsingle hnext (by simpa using h)
  · -- only a run of text starts with another character, and it becomes longer
    cases h with
    | @text _ run rest _ hne hrun hrest htail =>
      have hlonger : '<' ∉ c :: run := by simpa [Ne.symm hc] using hrun
      have hsegments : Segmented offset ((c :: run) ++ rest) blocks := by
        apply Segmented.text (List.cons_ne_nil c run) hlonger hrest
        simpa [Nat.add_assoc] using htail
      exact hsegments
    | block hblock _ =>
      cases hblock <;> exact absurd (by simp) hnext
    | _ => exact absurd (by simp) hnext

theorem byteLength_comment (body : List Char) :
    byteLength (['<', '!', '-', '-'] ++ body ++ ['-', '-', '>']) = 4 + byteLength body + 3 := by
  rw [byteLength_append, byteLength_append]
  rfl

theorem byteLength_closing (body : List Char) :
    byteLength (['<', '/'] ++ body ++ ['>']) = 2 + byteLength body + 1 := by
  rw [byteLength_append, byteLength_append]
  rfl

/-- The text up to the first occurrence of a character. -/
theorem splitOnce?_singleton {body : List Char} :
    splitOnce? [c] cs = some (body, rest) ↔ cs = body ++ c :: rest ∧ c ∉ body := by
  rw [Text.splitOnce?_eq_some_iff (List.cons_ne_nil c []),
    Text.infix_append_dropLast_iff List.not_mem_nil, List.append_assoc, List.singleton_infix_iff]
  rfl

theorem splitOnce?_singleton_none : splitOnce? [c] cs = none ↔ c ∉ cs := by
  rw [Text.splitOnce?_eq_none_iff (List.cons_ne_nil c []), List.singleton_infix_iff]

/-- A text from which blocks have been read is a sequence of segments. -/
theorem exists_segmented_of_readBlocks
    (h : readBlocks prepare document offset cs = .ok result) :
    ∃ blocks, Segmented offset cs blocks := by
  -- the cases are those of `readBlocks`: whichever segment it skips or reads stands at the front
  fun_induction readBlocks prepare document offset cs with
  | case1 => exact ⟨[], .done⟩
  | case2 document offset c cs hc ih =>
    obtain ⟨blocks, hblocks⟩ := ih h
    exact ⟨blocks, segmented_cons hc hblocks⟩
  | case3 => cases h
  | case4 document offset c cs hc text hcomment body rest hbody ih =>
    obtain rfl : c = '<' := Classical.not_not.mp hc
    obtain rfl := Text.after?_eq_some_iff.mp hcomment
    obtain ⟨rfl, hfirst⟩ := (Text.splitOnce?_eq_some_iff (by simp)).mp hbody
    obtain ⟨blocks, hblocks⟩ := ih h
    rw [Nat.add_assoc offset, Nat.add_assoc offset, ← byteLength_comment] at hblocks
    refine ⟨blocks, ?_⟩
    simpa using Segmented.comment hfirst hblocks
  | case5 document offset c cs hc hcomment inner hclosing hinner =>
    obtain rfl : c = '<' := Classical.not_not.mp hc
    obtain rfl := Text.after?_eq_some_iff.mp hclosing
    exact ⟨[], .unfinishedClosing (splitOnce?_singleton_none.mp hinner)⟩
  | case6 document offset c cs hc hcomment inner hclosing body rest hinner ih =>
    obtain rfl : c = '<' := Classical.not_not.mp hc
    obtain rfl := Text.after?_eq_some_iff.mp hclosing
    obtain ⟨rfl, hbody⟩ := splitOnce?_singleton.mp hinner
    obtain ⟨blocks, hblocks⟩ := ih h
    rw [Nat.add_assoc offset, Nat.add_assoc offset, ← byteLength_closing] at hblocks
    refine ⟨blocks, ?_⟩
    simpa using Segmented.closing hbody hblocks
  | case7 document offset c cs hc hcomment hclosing tag htag ih =>
    obtain rfl : c = '<' := Classical.not_not.mp hc
    rw [Text.after?_eq_none_iff] at hcomment hclosing
    have hends : EndsName cs := Token.takeWhile_name_eq_nil_iff.mp htag
    obtain ⟨blocks, hblocks⟩ := ih h
    exact ⟨blocks, .angle hclosing hcomment hends hblocks⟩
  | case8 => cases h
  | case9 => cases h
  | case10 document offset c cs hc hcomment hclosing tag htag block rest hblock next hstore ih =>
    obtain rfl : c = '<' := Classical.not_not.mp hc
    obtain ⟨blocks, hblocks⟩ := ih h
    rw [Text.after?_eq_none_iff] at hcomment
    have hsplit : tag ++ cs.dropWhile isNameChar = cs := List.takeWhile_append_dropWhile
    -- the tag is a part of the text, which starts no comment
    have hmark : ¬ ['!', '-', '-'] <+: tag := by
      intro hprefix
      apply hcomment
      exact List.IsPrefix.trans hprefix (List.takeWhile_prefix _)
    obtain ⟨text, htext, hstands⟩ := blockText_of_readBlock (Token.isName_takeWhile htag) hmark
      (Token.endsName_dropWhile cs) hblock
    rw [blockText_span hstands] at hblocks
    refine ⟨block :: blocks, ?_⟩
    rw [← hsplit, ← List.cons_append, htext]
    exact .block hstands hblocks

/-! ### Reading a sequence of segments -/

/-- Stores blocks one after the other, each prepared before. -/
def storeAll (prepare : Block → Block) (document : Document) (blocks : List Block) :
    Except ParseError Document :=
  blocks.foldlM (fun document block => store document (prepare block)) document

theorem readBlocks_nil : readBlocks prepare document offset [] = .ok document := by
  rw [readBlocks]

theorem readBlocks_text (h : '<' ∉ cs) :
    readBlocks prepare document offset (cs ++ rest) =
      readBlocks prepare document (offset + byteLength cs) rest := by
  induction cs generalizing offset with
  | nil => rfl
  | cons c cs ih =>
    rw [List.mem_cons, not_or] at h
    rw [List.cons_append, readBlocks, if_pos (Ne.symm h.1), ih h.2, byteLength_cons,
      Nat.add_assoc]

theorem readBlocks_of_not_mem (h : '<' ∉ cs) :
    readBlocks prepare document offset cs = .ok document := by
  rw [← List.append_nil cs, readBlocks_text h, readBlocks_nil]

/-- What follows a `<` decides how reading goes on. -/
theorem readBlocks_angle :
    readBlocks prepare document offset ('<' :: cs) =
      match after? ['!', '-', '-'] cs with
      | some body =>
        match splitOnce? ['-', '-', '>'] body with
        | none => .error ⟨.unexpectedEnd .commentEnd, ⟨offset, offset + 1 + byteLength cs⟩⟩
        | some (comment, rest) =>
          readBlocks prepare document (offset + 4 + byteLength comment + 3) rest
      | none =>
        match after? ['/'] cs with
        | some inner =>
          match splitOnce? ['>'] inner with
          | none => .ok document
          | some (body, rest) =>
            readBlocks prepare document (offset + 2 + byteLength body + 1) rest
        | none =>
          if cs.takeWhile isNameChar = [] then readBlocks prepare document (offset + 1) cs
          else (do
            let (block, rest) ← readBlock offset (cs.takeWhile isNameChar) (cs.dropWhile isNameChar)
            let document ← store document (prepare block)
            readBlocks prepare document block.span.stop rest) := by
  rw [readBlocks, if_neg (by simp)]
  split
  · next body hcomment =>
    rw [hcomment]
    dsimp only
    split
    · next hbody => rw [hbody]
    · next comment rest hbody => rw [hbody]
  · next hcomment =>
    rw [hcomment]
    dsimp only
    split
    · next inner hclosing =>
      rw [hclosing]
      dsimp only
      split
      · next hinner => rw [hinner]
      · next text rest hinner => rw [hinner]
    · next hclosing =>
      rw [hclosing]
      dsimp only
      split
      · rfl
      · split
        · next e hblock => rw [hblock]; rfl
        · next block rest hblock =>
          rw [hblock]
          cases hstore : store document (prepare block) <;> simp [bind, Except.bind, hstore]

/-- A `<` in front of a tag starts a block. -/
theorem readBlocks_tag (htag : IsName tag) (hcomment : ¬ ['!', '-', '-'] <+: tag)
    (hends : EndsName cs) :
    readBlocks prepare document offset ('<' :: tag ++ cs) = (do
      let (block, rest) ← readBlock offset tag cs
      let document ← store document (prepare block)
      readBlocks prepare document block.span.stop rest) := by
  have hslash : ¬ ['/'] <+: tag ++ cs := by
    obtain ⟨c, tail, rfl⟩ := List.exists_cons_of_ne_nil htag.1
    obtain ⟨-, -, -, -, hne, -⟩ := Token.ne_of_isNameChar (htag.2 c List.mem_cons_self)
    intro hprefix
    exact hne (List.cons_prefix_cons.mp hprefix).1.symm
  have hmark : ¬ ['!', '-', '-'] <+: tag ++ cs := by
    intro hprefix
    exact hcomment (Token.prefix_of_prefix_name (by decide) hends hprefix)
  rw [List.cons_append, readBlocks_angle, Text.after?_eq_none_iff.mpr hmark,
    Text.after?_eq_none_iff.mpr hslash]
  dsimp only
  rw [Token.takeWhile_name htag.2 hends, Token.dropWhile_name htag.2 hends, if_neg htag.1]

/-- Reading a sequence of segments is storing its blocks. -/
theorem readBlocks_of_segmented (h : Segmented offset cs blocks) (prepare : Block → Block)
    (document : Document) :
    readBlocks prepare document offset cs = storeAll prepare document blocks := by
  -- one step of reading for each segment; only a block changes the document
  induction h generalizing document with
  | done => exact readBlocks_nil
  | text _ hrun _ _ ih =>
    rw [readBlocks_text hrun]
    exact ih document
  | @comment offset body rest blocks hbody _ ih =>
    have hsplit : splitOnce? ['-', '-', '>'] (body ++ ['-', '-', '>'] ++ rest) =
        some (body, rest) :=
      (Text.splitOnce?_eq_some_iff (by simp)).mpr ⟨rfl, hbody⟩
    rw [byteLength_comment] at ih
    show readBlocks prepare document offset
      ('<' :: (['!', '-', '-'] ++ body ++ ['-', '-', '>'] ++ rest)) = _
    rw [readBlocks_angle, List.append_assoc, List.append_assoc, Text.after?_append]
    dsimp only
    rw [← List.append_assoc, hsplit]
    simpa [Nat.add_assoc] using ih document
  | @closing offset body rest blocks hbody _ ih =>
    have hsplit : splitOnce? ['>'] (body ++ ['>'] ++ rest) = some (body, rest) :=
      splitOnce?_singleton.mpr ⟨by simp, hbody⟩
    rw [byteLength_closing] at ih
    show readBlocks prepare document offset ('<' :: '/' :: (body ++ ['>'] ++ rest)) = _
    rw [readBlocks_angle]
    simp only [after?, Char.reduceEq, if_false, if_true, hsplit]
    simpa [Nat.add_assoc] using ih document
  | @unfinishedClosing offset body hbody =>
    show readBlocks prepare document offset ('<' :: '/' :: body) = _
    rw [readBlocks_angle]
    simp only [after?, Char.reduceEq, if_false, if_true, splitOnce?_singleton_none.mpr hbody]
    rfl
  | @angle offset rest blocks hclosing hcomment hname _ ih =>
    rw [readBlocks_angle, Text.after?_eq_none_iff.mpr hcomment,
      Text.after?_eq_none_iff.mpr hclosing]
    dsimp only
    rw [if_pos (Token.takeWhile_name_eq_nil_iff.mpr hname)]
    exact ih document
  | @block offset text block rest blocks hblock _ ih =>
    obtain ⟨tag, cs, htext, htag, hcomment, hends, hread⟩ := readBlock_of_blockText hblock rest
    rw [htext, readBlocks_tag htag hcomment hends, hread]
    simp only [storeAll, List.foldlM_cons, bind, Except.bind, blockText_span hblock]
    cases store document (prepare block) with
    | error e => rfl
    | ok next => exact ih next

/-! ### Storing blocks -/

theorem storeAll_nil : storeAll prepare document [] = .ok document := rfl

theorem storeAll_cons :
    storeAll prepare document (block :: blocks) =
      store document (prepare block) >>= fun next => storeAll prepare next blocks := by
  rw [storeAll, List.foldlM_cons]
  rfl

/-- Storing succeeds when no template or script is in the way, and adds each block in its place. -/
theorem storeAll_eq_ok_iff :
    storeAll prepare document blocks = .ok result ↔
      document.template.toList ++ (blocks.map prepare).filter (·.kind = .template) =
        result.template.toList ∧
      document.script.toList ++ (blocks.map prepare).filter (·.kind = .script) =
        result.script.toList ∧
      document.blocks ++ (blocks.map prepare).filter
        (fun block => block.kind ≠ .template ∧ block.kind ≠ .script) = result.blocks := by
  induction blocks generalizing document with
  | nil =>
    rw [storeAll_nil]
    simp only [List.map_nil, List.filter_nil, List.append_nil, toList_eq_toList_iff,
      Except.ok.injEq]
    constructor
    · rintro rfl
      exact ⟨rfl, rfl, rfl⟩
    · rintro ⟨htemplate, hscript, hothers⟩
      cases document
      cases result
      simp_all
  | cons block blocks ih =>
    rw [storeAll_cons, List.map_cons]
    generalize prepare block = p
    -- what has been stored comes before what is still to be
    cases hkind : p.kind with
    | template =>
      cases htemplate : document.template with
      | none => simp [store, hkind, htemplate, bind, Except.bind, ih]
      | some other =>
        -- a second template is refused, and no document holds two
        have hfull : ∀ more, other :: p :: more ≠ result.template.toList := by
          cases result.template <;> simp
        simp [store, hkind, htemplate, bind, Except.bind, hfull]
    | script =>
      cases hscript : document.script with
      | none => simp [store, hkind, hscript, bind, Except.bind, ih]
      | some other =>
        have hfull : ∀ more, other :: p :: more ≠ result.script.toList := by
          cases result.script <;> simp
        simp [store, hkind, hscript, bind, Except.bind, hfull]
    | style => simp [store, hkind, bind, Except.bind, ih]
    | custom tag => simp [store, hkind, bind, Except.bind, ih]

theorem storeAll_empty_eq_ok_iff :
    storeAll prepare {} blocks = .ok result ↔ Gathers (blocks.map prepare) result := by
  rw [storeAll_eq_ok_iff]
  constructor
  · rintro ⟨htemplate, hscript, hothers⟩
    exact ⟨htemplate, hscript, hothers⟩
  · rintro ⟨htemplate, hscript, hothers⟩
    exact ⟨htemplate, hscript, hothers⟩

/-! ### Whole documents -/

/-- What is done with a block before it is stored. -/
def prepared (deindent : Bool) : Block → Block := if deindent then deindented else id

theorem prepared_kind (deindent : Bool) (block : Block) :
    (prepared deindent block).kind = block.kind := by
  cases deindent <;> rfl

theorem parse_eq_ok_iff {source : String} {deindent : Bool} :
    parse source deindent = .ok document ↔
      ∃ blocks, Segmented 0 source.toList blocks ∧
        Gathers (blocks.map (prepared deindent)) document := by
  show readBlocks (prepared deindent) {} 0 source.toList = .ok document ↔ _
  constructor
  · intro h
    obtain ⟨blocks, hblocks⟩ := exists_segmented_of_readBlocks h
    rw [readBlocks_of_segmented hblocks, storeAll_empty_eq_ok_iff] at h
    exact ⟨blocks, hblocks, h⟩
  · rintro ⟨blocks, hblocks, hgathers⟩
    rw [readBlocks_of_segmented hblocks, storeAll_empty_eq_ok_iff]
    exact hgathers

theorem parse_plain_eq_ok_iff {source : String} :
    parse source false = .ok document ↔
      ∃ blocks, Segmented 0 source.toList blocks ∧ Gathers blocks document := by
  simp [parse_eq_ok_iff, prepared]

/-- A source is read exactly if it is a sequence of segments with at most one template and one
script; the document then holds its blocks, each in its place and with its content prepared. -/
theorem parse_accepts_segmented (source : String) (deindent : Bool) :
    ((∃ document, parse source deindent = .ok document) ↔
      ∃ blocks, Segmented 0 source.toList blocks ∧
        (blocks.filter (·.kind = .template)).length ≤ 1 ∧
        (blocks.filter (·.kind = .script)).length ≤ 1) ∧
    ∀ document, parse source deindent = .ok document ↔
      ∃ blocks, Segmented 0 source.toList blocks ∧
        Gathers (blocks.map (prepared deindent)) document := by
  refine ⟨?_, fun document => parse_eq_ok_iff⟩
  constructor
  · rintro ⟨document, h⟩
    obtain ⟨blocks, hblocks, hgathers⟩ := parse_eq_ok_iff.mp h
    obtain ⟨plain, hplain, _⟩ := (gathers_map_iff (prepared_kind deindent)).mp hgathers
    exact ⟨blocks, hblocks, exists_gathers_iff.mp ⟨plain, hplain⟩⟩
  · rintro ⟨blocks, hblocks, hsingle⟩
    obtain ⟨plain, hplain⟩ := exists_gathers_iff.mpr hsingle
    have hgathers := gathers_map (prepared_kind deindent) hplain
    exact ⟨_, parse_eq_ok_iff.mpr ⟨blocks, hblocks, hgathers⟩⟩

end SfcWeave.Document
