import SfcWeave.Proofs.Text.LineIndex
import SfcWeave.Proofs.Text.Utf8

/-!
# Lines and columns by counting

The bisection in the table of starts says no more than a count over the bytes in front of the
offset: the line is the number of line feeds there, and the column is the distance from the last of
them (`startOfLine`). Both are read from what these bytes are, full lines and the beginning of the
next one (`exists_take_bytes`).
-/

namespace SfcWeave

/-- One position stands before another one, by lines and then by columns. -/
def LineColumn.Before (a b : LineColumn) : Prop :=
  a.line < b.line ∨ a.line = b.line ∧ a.column < b.column

namespace Text

variable {text : String} {span : Span} {front line : List UInt8} {lines : List (List Char)}
  {n offset : Nat}

/-- The offset behind the last line feed of some bytes; zero if there is none. -/
def startOfLine (bytes : List UInt8) : Nat := (bytes.reverse.dropWhile (· ≠ lineFeed)).length

theorem startOfLine_append (hline : lineFeed ∉ line) :
    startOfLine (front ++ line) = startOfLine front := by
  rw [startOfLine, startOfLine, List.reverse_append, List.dropWhile_append_of_pos]
  intro byte hbyte
  have hne : byte ≠ lineFeed := fun h => hline (h ▸ List.mem_reverse.mp hbyte)
  exact decide_eq_true hne

theorem startOfLine_concat (front : List UInt8) :
    startOfLine (front ++ [lineFeed]) = front.length + 1 := by
  simp [startOfLine]

/-- Behind full lines, a new one starts. -/
theorem startOfLine_encode_endedLines (lines : List (List Char)) :
    startOfLine (encode (endedLines lines)) = byteLength (endedLines lines) := by
  rcases List.eq_nil_or_concat lines with rfl | ⟨init, last, rfl⟩
  · rfl
  · have hended : endedLines (init.concat last) = endedLines init ++ last ++ ['\n'] := by
      simp [endedLines]
    rw [hended, encode_append, encode_lineFeed, startOfLine_concat, length_encode,
      byteLength_append (_ ++ last)]
    rfl

/-- There is one line feed for each full line. -/
theorem count_encode_endedLines (hlines : ∀ line ∈ lines, '\n' ∉ line) :
    (encode (endedLines lines)).count lineFeed = lines.length := by
  induction lines with
  | nil => rfl
  | cons line lines ih =>
    obtain ⟨hline, hrest⟩ := List.forall_mem_cons.mp hlines
    have hnone : (encode line).count lineFeed = 0 :=
      List.count_eq_zero.mpr (mt lineFeed_mem_encode.mp hline)
    have hended : endedLines (line :: lines) = line ++ ['\n'] ++ endedLines lines := rfl
    rw [hended, encode_append, encode_append, encode_lineFeed, List.count_append,
      List.count_append, hnone, ih hrest, List.length_cons]
    exact Nat.add_comm _ _

/-- In front of an offset there are full lines, and the beginning of the line that it is on. -/
theorem exists_take_bytes (h : lineSpan? text n = some span) (hstart : span.start ≤ offset)
    (hstop : offset ≤ span.stop) :
    ∃ lines begun, lines.length = n ∧ (∀ line ∈ lines, '\n' ∉ line) ∧
      span.start = byteLength (endedLines lines) ∧ lineFeed ∉ begun ∧
      (bytes text).take offset = encode (endedLines lines) ++ begun := by
  obtain ⟨line, after, hline, hcut⟩ := exists_cut?_of_spanOfLine? h
  have hlength : n < (splitOn '\n' text.toList).length := (List.getElem?_eq_some_iff.mp hline).1
  rw [join_splitOn, Span.cut?_eq_some_iff] at hcut
  obtain ⟨htext, hspan⟩ := hcut
  have hfeed : '\n' ∉ line := not_mem_of_mem_splitOn (List.mem_of_getElem? hline)
  generalize hlines : (splitOn '\n' text.toList).take n = lines at htext hspan
  rw [hspan] at hstart hstop
  obtain ⟨size, rfl⟩ := Nat.exists_eq_add_of_le hstart
  refine ⟨lines, (encode line).take size, ?_, ?_, by rw [hspan], ?_, ?_⟩
  · rw [← hlines, List.length_take, Nat.min_eq_left (Nat.le_of_lt hlength)]
  · intro line hmem
    rw [← hlines] at hmem
    exact not_mem_of_mem_splitOn (List.mem_of_mem_take hmem)
  · exact fun hmem => hfeed (lineFeed_mem_encode.mp (List.mem_of_mem_take hmem))
  · have hsize : size ≤ (encode line).length := by
      rw [length_encode]
      simp only [byteLength_append] at hstop
      omega
    rw [bytes_eq_encode, htext, encode_append, encode_append, List.append_assoc, ← length_encode,
      List.take_length_add_append, List.take_append_of_le_length hsize]

end Text

namespace LineIndex

open Text

variable {text : String} {a b n offset : Nat} {p q position : LineColumn}

/-! ### The table -/

/-- The entries of the table increase. -/
theorem pairwise_starts (text : String) : (ofText text).starts.toList.Pairwise (· < ·) := by
  rw [List.pairwise_iff_getElem]
  intro i j hi hj hlt
  have hentry (k : Nat) (hk : k < (ofText text).starts.toList.length) :
      ∃ span, lineSpan? text k = some span ∧ span.start = (ofText text).starts.toList[k] := by
    rw [← Option.map_eq_some_iff, ← getElem?_starts_ofText, ← Array.getElem?_toList]
    exact List.getElem?_eq_getElem hk
  obtain ⟨above, habove, hi⟩ := hentry i hi
  obtain ⟨below, hbelow, hj⟩ := hentry j hj
  rw [← hi, ← hj]
  exact Nat.lt_of_le_of_lt (start_le_stop habove) (stop_lt_start hlt habove hbelow)

/-- What a binary search for an offset may answer: the index of an entry that is equal to it, or the
index at which it has to be inserted. -/
def IsSearchAnswer (starts : Array Nat) (offset : Nat) : Except Nat Nat → Prop
  | .ok index => starts[index]? = some offset
  | .error index => index ≤ starts.size ∧ ∀ (i : Nat) (start : Nat), starts[i]? = some start →
      if i < index then start < offset else offset < start

/-- The line that an answer of the search stands for. -/
def lineOfAnswer : Except Nat Nat → Nat
  | .ok line => line
  | .error line => line - 1

/-- All answers of a search stand for the line that the offset is on. -/
theorem lineOfAnswer_eq {answer : Except Nat Nat}
    (hanswer : IsSearchAnswer (ofText text).starts offset answer)
    (h : IsLineOf text offset n) : lineOfAnswer answer = n := by
  cases answer with
  | ok line =>
    obtain ⟨span, hspan, rfl⟩ :=
      Option.map_eq_some_iff.mp ((getElem?_starts_ofText text line).symm.trans hanswer)
    have hline : IsLineOf text span.start line :=
      ⟨span, hspan, Nat.le_refl _, start_le_stop hspan⟩
    exact hline.unique h
  | error line =>
    obtain ⟨hsize, hentries⟩ := hanswer
    obtain ⟨span, hspan, hstart, hstop⟩ := h
    have hentry (i : Nat) (other : Span) (h : lineSpan? text i = some other) :
        if i < line then other.start < offset else offset < other.start :=
      hentries i other.start (by rw [getElem?_starts_ofText, h]; rfl)
    have hlt : n < line := by
      have hside := hentry n span hspan
      split at hside
      · assumption
      · omega
    -- the next line starts behind the offset, so that it cannot be in front of the insertion point
    have hlast : ¬ n + 1 < line := by
      intro hnext
      obtain ⟨next, hspan', -⟩ : ∃ next, lineSpan? text (n + 1) = some next ∧ _ :=
        Option.map_eq_some_iff.mp ((getElem?_starts_ofText text (n + 1)).symm.trans
          (Array.getElem?_eq_getElem (Nat.lt_of_lt_of_le hnext hsize)))
      have hside := hentry (n + 1) next hspan'
      rw [if_pos hnext] at hside
      have hends := stop_lt_start (Nat.lt_succ_self n) hspan hspan'
      omega
    show line - 1 = n
    omega

/-! ### Counting -/

/-- What a position is, by the bytes in front of the offset, the table, and any search in it. -/
structure Counts (text : String) (offset : Nat) (position : LineColumn) : Prop where
  line_eq : position.line = ((bytes text).take offset).count lineFeed
  start_le : startOfLine ((bytes text).take offset) ≤ offset
  column_eq : position.column = offset - startOfLine ((bytes text).take offset)
  getElem?_starts : (ofText text).starts[position.line]? =
    some (startOfLine ((bytes text).take offset))
  start_add_column : startOfLine ((bytes text).take offset) + position.column = offset
  line_of_search : ∀ answer, IsSearchAnswer (ofText text).starts offset answer →
    lineOfAnswer answer = position.line

theorem counts_of_find? (h : (ofText text).find? offset = some position) :
    Counts text offset position := by
  have hline := isLineOf_of_find? h
  obtain ⟨span, hspan, hoffset, hstop⟩ := find?_eq_some_iff.mp h
  have hle : span.start ≤ offset := hoffset ▸ Nat.le_add_right _ _
  obtain ⟨lines, begun, hlength, hlines, hstart, hbegun, htake⟩ := exists_take_bytes hspan hle hstop
  have hfront : startOfLine ((bytes text).take offset) = span.start := by
    rw [htake, startOfLine_append hbegun, startOfLine_encode_endedLines, hstart]
  refine ⟨?_, ?_, ?_, ?_, ?_, ?_⟩
  · rw [htake, List.count_append, count_encode_endedLines hlines, List.count_eq_zero.mpr hbegun,
      hlength]
    rfl
  · rwa [hfront]
  · rw [hfront]
    omega
  · rw [hfront, getElem?_starts_ofText, hspan]
    rfl
  · rw [hfront, hoffset]
  · exact fun answer hanswer => lineOfAnswer_eq hanswer hline

/-- Offsets and their positions are in the same order. -/
theorem lt_iff_before (ha : (ofText text).find? a = some p) (hb : (ofText text).find? b = some q) :
    a < b ↔ p.Before q := by
  obtain ⟨above, habove, rfl, hastop⟩ := find?_eq_some_iff.mp ha
  obtain ⟨below, hbelow, rfl, hbstop⟩ := find?_eq_some_iff.mp hb
  rw [LineColumn.Before]
  rcases Nat.lt_trichotomy p.line q.line with hlt | heq | hlt
  · have hends := stop_lt_start hlt habove hbelow
    omega
  · rw [heq] at habove
    obtain rfl := Option.some.inj (habove.symm.trans hbelow)
    omega
  · have hends := stop_lt_start hlt hbelow habove
    omega

/-- The lookup finds the position that a count over the bytes in front of the offset gives, and
keeps the order of the offsets. -/
theorem find?_counts (text : String) :
    (ofText text).starts[0]? = some 0 ∧
    (ofText text).starts.toList.Pairwise (· < ·) ∧
    (∀ offset, (ofText text).find? offset = none ↔ (bytes text).length < offset) ∧
    (∀ offset position, (ofText text).find? offset = some position →
      Counts text offset position) ∧
    (∀ a b p q, (ofText text).find? a = some p → (ofText text).find? b = some q →
      (a < b ↔ p.Before q)) := by
  refine ⟨rfl, pairwise_starts text, ?_, ?_, ?_⟩
  · intro offset
    rw [find?_eq_none_iff, bytes_eq_encode, length_encode, byteLength_toList]
  · intro offset position h
    exact counts_of_find? h
  · intro a b p q ha hb
    exact lt_iff_before ha hb

end LineIndex

end SfcWeave
