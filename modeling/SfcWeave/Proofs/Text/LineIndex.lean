import SfcWeave.Proofs.Text.Indent
import SfcWeave.Proofs.Text.Span
import SfcWeave.Text.LineIndex

/-!
# Lines of a text

The lines of a text are what line feeds leave between them, and `lineSpan?` is where each of them
stands. An offset is found on the line that it stands in, or right behind:

    find?_eq_some_iff : (ofText text).find? offset = some position ↔
      ∃ span, lineSpan? text position.line = some span ∧
        offset = span.start + position.column ∧ offset ≤ span.stop

so that no proof after this one looks at the table of starts, or at how it is searched.

A part of a text has lines, too. They are those of the text as far as they lie in the part, counted
from the line that the part starts on (`exists_lineSpan?_of_slice?`).
-/

namespace SfcWeave

/-- The common part of two spans. -/
def Span.inter (a b : Span) : Span := ⟨max a.start b.start, min a.stop b.stop⟩

namespace Text

variable {c : Char} {cs first last line : List Char} {parts rest : List (List Char)}
  {text part : String} {span whole inner : Span} {m n offset : Nat}

/-! ### Where lines stand -/

/-- Where a line stands among lines with a line feed between any two of them. -/
def spanOfLine? : List (List Char) → Nat → Option Span
  | [], _ => none
  | line :: _, 0 => some ⟨0, byteLength line⟩
  | line :: lines, number + 1 => (spanOfLine? lines number).map (Span.shift (byteLength line + 1))

/-- Where a line of a text stands, by its number. -/
def lineSpan? (text : String) (number : Nat) : Option Span :=
  spanOfLine? (splitOn '\n' text.toList) number

/-- The text of a line, by its number. -/
def lineText? (text : String) (number : Nat) : Option String :=
  (lineSpan? text number).bind (·.slice? text)

/-- The offset stands in the line with this number, or right behind it. -/
def IsLineOf (text : String) (offset number : Nat) : Prop :=
  ∃ span, lineSpan? text number = some span ∧ span.start ≤ offset ∧ offset ≤ span.stop

/-- The size of lines with a line feed behind each. -/
def linesSize : List (List Char) → Nat
  | [] => 0
  | line :: lines => byteLength line + 1 + linesSize lines

/-- Lines with a line feed behind each. -/
def endedLines (lines : List (List Char)) : List Char := lines.flatMap (· ++ ['\n'])

theorem byteLength_join_concat (parts : List (List Char)) (last : List Char) :
    byteLength (join ['\n'] (parts ++ [last])) = linesSize parts + byteLength last := by
  induction parts with
  | nil => simp [join, linesSize]
  | cons line parts ih =>
    obtain ⟨next, others, hmore⟩ : ∃ next others, parts ++ [last] = next :: others :=
      List.exists_cons_of_ne_nil (by simp)
    rw [List.cons_append, hmore, join_cons_cons, ← hmore, byteLength_append, byteLength_append, ih]
    simp [linesSize, Nat.add_assoc, show '\n'.utf8Size = 1 from rfl]

theorem start_le_stop (h : spanOfLine? parts n = some span) : span.start ≤ span.stop := by
  induction parts generalizing n span with
  | nil => cases h
  | cons line parts ih =>
    cases n with
    | zero =>
      cases h
      exact Nat.zero_le _
    | succ n =>
      obtain ⟨below, hbelow, rfl⟩ := Option.map_eq_some_iff.mp h
      exact Nat.add_le_add_left (ih hbelow) _

/-- A line ends before the next one starts. -/
theorem stop_lt_start {above below : Span} (hlt : m < n) (hm : spanOfLine? parts m = some above)
    (hn : spanOfLine? parts n = some below) : above.stop < below.start := by
  induction parts generalizing m n above below with
  | nil => cases hm
  | cons line parts ih =>
    cases n with
    | zero => cases hlt
    | succ n =>
      obtain ⟨below, hbelow, rfl⟩ := Option.map_eq_some_iff.mp hn
      rw [Span.shift_start]
      cases m with
      | zero =>
        cases hm
        exact Nat.lt_of_lt_of_le (Nat.lt_succ_self _) (Nat.le_add_right _ _)
      | succ m =>
        obtain ⟨above, habove, rfl⟩ := Option.map_eq_some_iff.mp hm
        rw [Span.shift_stop]
        exact Nat.add_lt_add_left (ih (Nat.lt_of_succ_lt_succ hlt) habove hbelow) _

theorem exists_spanOfLine?_iff : (∃ span, spanOfLine? parts n = some span) ↔ n < parts.length := by
  induction parts generalizing n with
  | nil => simp [spanOfLine?]
  | cons line parts ih =>
    cases n with
    | zero => simp [spanOfLine?]
    | succ n =>
      rw [List.length_cons, Nat.succ_lt_succ_iff, ← ih, spanOfLine?]
      simp only [← Option.isSome_iff_exists, Option.isSome_map]

/-- The line that stands at the span of a line, behind all lines before it. -/
theorem exists_cut?_of_spanOfLine? (h : spanOfLine? parts n = some span) :
    ∃ line after, parts[n]? = some line ∧
      span.cut? (join ['\n'] parts) = some (endedLines (parts.take n), line, after) := by
  simp only [Span.cut?_eq_some_iff]
  induction parts generalizing n span with
  | nil => cases h
  | cons line parts ih =>
    cases n with
    | zero =>
      cases h
      cases parts with
      | nil => exact ⟨line, [], rfl, by simp [join, endedLines], rfl⟩
      | cons next parts =>
        refine ⟨line, '\n' :: join ['\n'] (next :: parts), rfl, ?_, rfl⟩
        rw [join_cons_cons]
        simp [endedLines]
    | succ n =>
      obtain ⟨below, hbelow, rfl⟩ := Option.map_eq_some_iff.mp h
      obtain ⟨found, after, hfound, htext, rfl⟩ := ih hbelow
      obtain ⟨next, others, rfl⟩ : ∃ next others, parts = next :: others := by
        cases parts with
        | nil => cases hbelow
        | cons next others => exact ⟨next, others, rfl⟩
      refine ⟨found, after, hfound, ?_, ?_⟩
      · rw [join_cons_cons, htext]
        simp [endedLines]
      · simp [endedLines, Span.shift, show '\n'.utf8Size = 1 from rfl]
        omega

/-- A line of a text, read where it stands. -/
theorem slice?_of_lineSpan? (h : lineSpan? text n = some span) :
    ∃ line, (splitOn '\n' text.toList)[n]? = some line ∧
      span.slice? text = some (String.ofList line) := by
  obtain ⟨line, after, hline, hcut⟩ := exists_cut?_of_spanOfLine? h
  rw [join_splitOn] at hcut
  exact ⟨line, hline, by rw [Span.slice?, hcut]; rfl⟩

theorem stop_le_of_lineSpan? (h : lineSpan? text n = some span) :
    span.stop ≤ text.utf8ByteSize := by
  obtain ⟨line, after, -, hcut⟩ := exists_cut?_of_spanOfLine? h
  rw [join_splitOn, Span.cut?_eq_some_iff] at hcut
  obtain ⟨htext, rfl⟩ := hcut
  have hsize := congrArg byteLength htext
  rw [byteLength_append (_ ++ line), byteLength_toList] at hsize
  exact Nat.le.intro hsize.symm

theorem exists_line (hne : parts ≠ []) (h : offset ≤ byteLength (join ['\n'] parts)) :
    ∃ n span, spanOfLine? parts n = some span ∧ span.start ≤ offset ∧ offset ≤ span.stop := by
  induction parts generalizing offset with
  | nil => exact absurd rfl hne
  | cons line parts ih =>
    -- the offset is on the first line, or it stands behind the line feed of that one
    by_cases hfirst : offset ≤ byteLength line
    · exact ⟨0, _, rfl, Nat.zero_le _, hfirst⟩
    · cases parts with
      | nil => exact absurd h hfirst
      | cons next parts =>
        rw [join_cons_cons, byteLength_append, byteLength_append] at h
        have hrest : offset - (byteLength line + 1) ≤ byteLength (join ['\n'] (next :: parts)) := by
          simp only [byteLength_cons, byteLength_nil, show '\n'.utf8Size = 1 from rfl] at h
          omega
        obtain ⟨n, span, hspan, hstart, hstop⟩ := ih (List.cons_ne_nil _ _) hrest
        refine ⟨n + 1, span.shift (byteLength line + 1), ?_, ?_, ?_⟩
        · rw [spanOfLine?, hspan]
          rfl
        · rw [Span.shift_start]
          omega
        · rw [Span.shift_stop]
          omega

/-- Every offset up to the end of a text is on a line. -/
theorem exists_isLineOf (h : offset ≤ text.utf8ByteSize) : ∃ n, IsLineOf text offset n := by
  rw [← byteLength_toList, ← join_splitOn '\n' text.toList] at h
  obtain ⟨n, span, hspan⟩ := exists_line (splitOn_ne_nil '\n' text.toList) h
  exact ⟨n, span, hspan⟩

/-- A line is known from where it stands. -/
theorem lineSpan?_inj (hm : lineSpan? text m = some span) (hn : lineSpan? text n = some span) :
    m = n := by
  have hle := start_le_stop hm
  rcases Nat.lt_trichotomy m n with hlt | heq | hlt
  · exact absurd (stop_lt_start hlt hm hn) (Nat.not_lt.mpr hle)
  · exact heq
  · exact absurd (stop_lt_start hlt hn hm) (Nat.not_lt.mpr hle)

/-- An offset is on one line only. -/
theorem IsLineOf.unique (hm : IsLineOf text offset m) (hn : IsLineOf text offset n) : m = n := by
  obtain ⟨above, habove, hmstart, hmstop⟩ := hm
  obtain ⟨below, hbelow, hnstart, hnstop⟩ := hn
  rcases Nat.lt_trichotomy m n with hlt | heq | hlt
  · have hends := stop_lt_start hlt habove hbelow
    omega
  · exact heq
  · have hends := stop_lt_start hlt hbelow habove
    omega

/-! ### Looking up an offset -/

end Text

namespace LineIndex

open Text

variable {c : Char} {cs : List Char} {text : String} {span : Span} {n offset low high : Nat}
  {starts : Array Nat} {position : LineColumn}

/-- The entries of the table are the starts of the lines. -/
theorem getElem?_startsAfter (offset : Nat) (cs : List Char) (n : Nat) :
    (offset :: startsAfter offset cs)[n]? =
      (spanOfLine? (splitOn '\n' cs) n).map fun span => offset + span.start := by
  induction cs generalizing offset n with
  | nil => cases n <;> rfl
  | cons c cs ih =>
    obtain ⟨part, parts, hparts⟩ := List.exists_cons_of_ne_nil (splitOn_ne_nil '\n' cs)
    by_cases hfeed : c = '\n'
    · rw [startsAfter, if_pos hfeed, splitOn, if_pos hfeed]
      cases n with
      | zero => rfl
      | succ n =>
        rw [List.getElem?_cons_succ, ih, spanOfLine?, Option.map_map]
        subst hfeed
        congr 1
        funext span
        simp [show '\n'.utf8Size = 1 from rfl]
        omega
    · rw [startsAfter, if_neg hfeed, splitOn, if_neg hfeed, hparts]
      cases n with
      | zero => rfl
      | succ n =>
        -- the next line starts where it does when the character is not counted to the first one
        have hnext := ih (offset + c.utf8Size) (n + 1)
        rw [List.getElem?_cons_succ, hparts] at hnext
        rw [List.getElem?_cons_succ, hnext, spanOfLine?, spanOfLine?, Option.map_map,
          Option.map_map]
        congr 1
        funext span
        simp
        omega

/-- The bisection finds the index up to which the entries are at most `offset`. -/
theorem bisect_eq {k : Nat}
    (hstarts : ∀ i, low ≤ i → i < high → (starts.getD i 0 ≤ offset ↔ i < k))
    (hlow : low ≤ k) (hhigh : k ≤ high) : bisect starts offset low high = k := by
  fun_induction bisect starts offset low high with
  | case1 low high hlt middle hle ih =>
    have hmiddle : middle < k := (hstarts middle (by omega) (by omega)).mp hle
    exact ih (fun i hi => hstarts i (by omega)) hmiddle hhigh
  | case2 low high hlt middle hgt ih =>
    have hmiddle : ¬ middle < k := fun h => hgt ((hstarts middle (by omega) (by omega)).mpr h)
    exact ih (fun i hi hi' => hstarts i hi (by omega)) hlow (by omega)
  | case3 low high hle => omega

theorem getElem?_starts_ofText (text : String) (n : Nat) :
    (ofText text).starts[n]? = (lineSpan? text n).map Span.start := by
  have h := getElem?_startsAfter 0 text.toList n
  simp only [Nat.zero_add] at h
  simpa [ofText, lineSpan?] using h

/-- An offset is found on its line. -/
theorem find?_of_lineSpan? (h : lineSpan? text n = some span) (hstart : span.start ≤ offset)
    (hstop : offset ≤ span.stop) :
    (ofText text).find? offset = some ⟨n, offset - span.start⟩ := by
  have hentry : (ofText text).starts[n]? = some span.start := by
    rw [getElem?_starts_ofText, h]
    rfl
  have hsize : n < (ofText text).starts.size := (Array.getElem?_eq_some_iff.mp hentry).1
  have hline : bisect (ofText text).starts offset 0 (ofText text).starts.size = n + 1 := by
    refine bisect_eq ?_ (Nat.zero_le _) hsize
    intro i _ hi
    have hother := getElem?_starts_ofText text i
    rw [Array.getElem?_eq_getElem hi] at hother
    obtain ⟨other, hspan, heq⟩ := Option.map_eq_some_iff.mp hother.symm
    rw [Array.getD_eq_getD_getElem?, Array.getElem?_eq_getElem hi, Option.getD_some, ← heq]
    -- lines up to this one start before the offset, and later ones behind it
    rcases Nat.lt_trichotomy i n with hlt | rfl | hlt
    · have hends := stop_lt_start hlt hspan h
      have hle := start_le_stop hspan
      omega
    · obtain rfl := Option.some.inj (hspan.symm.trans h)
      omega
    · have hends := stop_lt_start hlt h hspan
      omega
  have hle : offset ≤ (ofText text).size := Nat.le_trans hstop (stop_le_of_lineSpan? h)
  have hentry : (ofText text).starts.getD n 0 = span.start := by
    rw [Array.getD_eq_getD_getElem?, hentry]
    rfl
  simp only [find?, if_pos hle, hline, Nat.add_sub_cancel, hentry]

/-- The position of an offset is the line that it stands in or right behind, and the distance from
the start of that line. -/
theorem find?_eq_some_iff :
    (ofText text).find? offset = some position ↔ ∃ span,
      lineSpan? text position.line = some span ∧ offset = span.start + position.column ∧
        offset ≤ span.stop := by
  constructor
  · intro h
    have hle : offset ≤ text.utf8ByteSize := by
      unfold find? at h
      split at h
      · assumption
      · cases h
    obtain ⟨n, span, hspan, hstart, hstop⟩ := exists_isLineOf hle
    rw [find?_of_lineSpan? hspan hstart hstop] at h
    obtain rfl := Option.some.inj h
    exact ⟨span, hspan, (Nat.add_sub_cancel' hstart).symm, hstop⟩
  · rintro ⟨span, hspan, rfl, hstop⟩
    rw [find?_of_lineSpan? hspan (Nat.le_add_right _ _) hstop, Nat.add_sub_cancel_left]

/-- There is no position past the end of a text. -/
theorem find?_eq_none_iff : (ofText text).find? offset = none ↔ text.utf8ByteSize < offset := by
  unfold find?
  rw [show (ofText text).size = text.utf8ByteSize from rfl]
  split <;> simp <;> omega

theorem isLineOf_of_find? (h : (ofText text).find? offset = some position) :
    IsLineOf text offset position.line := by
  obtain ⟨span, hspan, heq, hstop⟩ := find?_eq_some_iff.mp h
  exact ⟨span, hspan, by omega, hstop⟩

theorem exists_find?_of_isLineOf (h : IsLineOf text offset n) :
    ∃ column, (ofText text).find? offset = some ⟨n, column⟩ := by
  obtain ⟨span, hspan, hstart, hstop⟩ := h
  exact ⟨_, find?_of_lineSpan? hspan hstart hstop⟩

end LineIndex

namespace Text

variable {c : Char} {as bs : List (List Char)} {a b cs first last line : List Char}
  {source text part : String} {span whole inner : Span} {m n offset : Nat} {start : LineColumn}

/-! ### Lines of a part -/

/-- Where two texts meet, the last line of the one goes on with the first line of the other. -/
theorem splitOn_append (ha : splitOn c a = as ++ [last]) (hb : splitOn c b = first :: bs) :
    splitOn c (a ++ b) = as ++ (last ++ first) :: bs := by
  induction a generalizing as last with
  | nil =>
    obtain ⟨rfl, rfl⟩ : as = [] ∧ last = [] := by
      cases as <;> simp_all [splitOn]
    exact hb
  | cons d a ih =>
    rw [List.cons_append, splitOn]
    rw [splitOn] at ha
    by_cases hd : d = c
    · rw [if_pos hd] at ha ⊢
      cases as with
      | nil => exact absurd (List.cons.inj ha).2 (splitOn_ne_nil c a)
      | cons head as =>
        obtain ⟨rfl, hrest⟩ := List.cons.inj ha
        rw [ih hrest]
        rfl
    · rw [if_neg hd] at ha ⊢
      obtain ⟨part, parts, hparts⟩ := List.exists_cons_of_ne_nil (splitOn_ne_nil c a)
      rw [hparts] at ha ih
      cases as with
      | nil =>
        obtain ⟨rfl, rfl⟩ := List.cons.inj ha
        rw [@ih [] part rfl]
        rfl
      | cons head as =>
        obtain ⟨rfl, rfl⟩ := List.cons.inj ha
        rw [@ih (part :: as) last rfl]
        rfl

theorem spanOfLine?_append (as bs : List (List Char)) (n : Nat) :
    spanOfLine? (as ++ bs) (as.length + n) =
      (spanOfLine? bs n).map (Span.shift (linesSize as)) := by
  induction as with
  | nil =>
    have hzero : Span.shift 0 = id := by
      funext span
      simp [Span.shift]
    simp [linesSize, hzero]
  | cons line as ih =>
    rw [List.length_cons, Nat.add_right_comm, List.cons_append, spanOfLine?, ih, Option.map_map]
    congr 1
    funext span
    simp [Span.shift_shift, linesSize]

/-- The lines of a text in front of which something is put. -/
theorem exists_spanOfLine?_append_left (as : List (List Char)) (last : List Char)
    (h : spanOfLine? (first :: bs) n = some inner) :
    ∃ whole, spanOfLine? (as ++ (last ++ first) :: bs) (as.length + n) = some whole ∧
      max whole.start (linesSize as + byteLength last) =
        linesSize as + byteLength last + inner.start ∧
      whole.stop = linesSize as + byteLength last + inner.stop := by
  rw [spanOfLine?_append]
  cases n with
  | zero =>
    cases h
    refine ⟨_, rfl, ?_, ?_⟩
    · simp
    · simp [Nat.add_assoc]
  | succ n =>
    obtain ⟨below, hbelow, rfl⟩ := Option.map_eq_some_iff.mp h
    refine ⟨_, by rw [spanOfLine?, hbelow]; rfl, ?_, ?_⟩
    · simp only [Span.shift_start, byteLength_append]
      omega
    · simp only [Span.shift_stop, byteLength_append]
      omega

/-- The lines of a text behind which something is put. -/
theorem exists_spanOfLine?_append_right (first : List Char) (bs : List (List Char))
    (h : spanOfLine? (as ++ [last]) n = some inner) :
    ∃ whole, spanOfLine? (as ++ (last ++ first) :: bs) n = some whole ∧
      whole.start = inner.start ∧
      min whole.stop (linesSize as + byteLength last) = inner.stop := by
  induction as generalizing n inner with
  | nil =>
    cases n with
    | zero =>
      cases h
      exact ⟨_, rfl, rfl, by simp [linesSize]⟩
    | succ n => cases h
  | cons line as ih =>
    cases n with
    | zero =>
      cases h
      refine ⟨_, rfl, rfl, ?_⟩
      simp only [linesSize]
      omega
    | succ n =>
      obtain ⟨below, hbelow, rfl⟩ := Option.map_eq_some_iff.mp h
      obtain ⟨whole, hwhole, hstart, hstop⟩ := ih hbelow
      refine ⟨_, by rw [List.cons_append, spanOfLine?, hwhole]; rfl, ?_, ?_⟩
      · rw [Span.shift_start, hstart, Span.shift_start]
      · rw [Span.shift_stop, Span.shift_stop, ← hstop]
        simp only [linesSize]
        omega

theorem exists_splitOn_concat (c : Char) (cs : List Char) :
    ∃ front last, splitOn c cs = front ++ [last] := by
  rcases List.eq_nil_or_concat (splitOn c cs) with hnil | ⟨front, last, h⟩
  · exact absurd hnil (splitOn_ne_nil c cs)
  · exact ⟨front, last, by rw [h, List.concat_eq_append]⟩

theorem byteLength_of_splitOn (h : splitOn '\n' cs = as ++ [last]) :
    byteLength cs = linesSize as + byteLength last := by
  rw [← join_splitOn '\n' cs, h, byteLength_join_concat]

/-- A line of a part of a text is what a line of the text has in the part. The lines are counted
from the one that the part starts on. -/
theorem exists_lineSpan?_of_slice? (hpart : span.slice? source = some part)
    (hstart : (LineIndex.ofText source).find? span.start = some start)
    (hinner : lineSpan? part n = some inner) :
    ∃ whole, lineSpan? source (start.line + n) = some whole ∧
      whole.inter span = inner.shift span.start := by
  obtain ⟨before, after, rfl, rfl⟩ := Span.slice?_eq_some_iff.mp hpart
  obtain ⟨fronts, front, hfront⟩ := exists_splitOn_concat '\n' before.toList
  obtain ⟨middles, middle, hmiddle⟩ := exists_splitOn_concat '\n' part.toList
  obtain ⟨back, backs, hback⟩ := List.exists_cons_of_ne_nil (splitOn_ne_nil '\n' after.toList)
  have hrest := splitOn_append hmiddle hback
  obtain ⟨head, tail, hhead⟩ :=
    List.exists_cons_of_ne_nil (splitOn_ne_nil '\n' (part.toList ++ after.toList))
  have hwhole := splitOn_append hfront hhead
  -- the lines of the part are those of the rest of the text, but for the last one
  rw [lineSpan?, hmiddle] at hinner
  obtain ⟨behind, hbehind, hbstart, hbstop⟩ := exists_spanOfLine?_append_right back backs hinner
  rw [← hrest, hhead] at hbehind
  have hsource : splitOn '\n' (before ++ part ++ after).toList =
      fronts ++ (front ++ head) :: tail := by
    rw [String.toList_append, String.toList_append, List.append_assoc, hwhole]
  have hbefore : before.utf8ByteSize = linesSize fronts + byteLength front := by
    rw [← byteLength_toList, byteLength_of_splitOn hfront]
  have hpartSize : part.utf8ByteSize = linesSize middles + byteLength middle := by
    rw [← byteLength_toList, byteLength_of_splitOn hmiddle]
  -- and the part starts on the line that the text before it ends with
  have hline : start.line = fronts.length := by
    apply (LineIndex.isLineOf_of_find? hstart).unique
    obtain ⟨first, hfirst, hfstart, hfstop⟩ :=
      exists_spanOfLine?_append_left fronts front
        (show spanOfLine? (head :: tail) 0 = some _ from rfl)
    refine ⟨first, by rw [lineSpan?, hsource]; exact hfirst, ?_, ?_⟩
    · simp only at hfstart ⊢
      omega
    · simp only at hfstop ⊢
      omega
  obtain ⟨whole, hspan, hwstart, hwstop⟩ := exists_spanOfLine?_append_left fronts front hbehind
  refine ⟨whole, by rw [lineSpan?, hsource, hline]; exact hspan, ?_⟩
  rw [Span.inter, Span.shift, String.utf8ByteSize_append]
  congr 1
  · simp only [hbefore, hwstart, hbstart]
  · simp only [hbefore, hpartSize, hwstop, ← hbstop]
    omega

end Text

end SfcWeave
