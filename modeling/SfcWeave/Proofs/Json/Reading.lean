import SfcWeave.Json.Record
import SfcWeave.Proofs.Json.Printer

/-!
# What is printed is read back

`Reads reader text value rest` says that a reader takes a value from the front of a text and leaves
the rest, wherever the text stands. There is one rule for each way to put readers together, and one
for each of the things that are printed: strings (`reads_string`), numbers (`reads_decimal`,
`reads_natural`) and the members of an object (`RecordType.reads_readMembers_cons`).

    read_eq_ok : Reads reader text.toList value [] → read reader text = .ok value
-/

namespace SfcWeave.Json

variable {α β : Type} {a : α} {b : β} {c : Char} {cs text between rest : List Char}

namespace Cursor

theorem rest_past (c : Char) (rest : List Char) (cursor : Cursor) :
    (cursor.past c rest).rest = rest := by
  unfold past
  split <;> rfl

theorem rest_skipWhile_go (p : Char → Bool) (cs : List Char) (line column : Nat) :
    (skipWhile.go p cs line column).rest = cs.dropWhile p := by
  fun_induction skipWhile.go p cs line column with
  | case1 => rfl
  | case2 line column rest hp ih => rw [ih, List.dropWhile_cons_of_pos hp]
  | case3 line column c rest hp hne ih => rw [ih, List.dropWhile_cons_of_pos hp]
  | case4 line column c rest hp => rw [List.dropWhile_cons_of_neg hp]

theorem rest_advanceBytes (front : List Char) {cursor : Cursor} (h : cursor.rest = front ++ rest) :
    (advanceBytes (Text.byteLength front) cursor).rest = rest := by
  induction front generalizing cursor with
  | nil =>
    rw [Text.byteLength_nil, advanceBytes]
    exact h
  | cons c front ih =>
    have hpos := c.utf8Size_pos
    obtain ⟨size, hsize⟩ : ∃ size, c.utf8Size + Text.byteLength front = size + 1 :=
      ⟨c.utf8Size + Text.byteLength front - 1, by omega⟩
    have hle : c.utf8Size ≤ size + 1 := by omega
    have hsub : size + 1 - c.utf8Size = Text.byteLength front := by omega
    rw [Text.byteLength_cons, hsize, advanceBytes, h]
    simp only [List.cons_append, if_pos hle, hsub]
    exact ih (rest_past ..)

end Cursor

namespace Reader

/-- A reader takes a value from the front of a text, wherever the text stands. -/
def Reads (reader : Reader α) (text : List Char) (value : α) (rest : List Char) : Prop :=
  ∀ line column, ∃ line' column',
    reader.run ⟨text, line, column⟩ = .ok (value, ⟨rest, line', column'⟩)

/-! ### Sequences -/

theorem Reads.pure : Reads (Pure.pure a) text a text := by
  intro line column
  exact ⟨line, column, rfl⟩

theorem Reads.bind {reader : Reader α} {next : α → Reader β} (h : Reads reader text a between)
    (hnext : Reads (next a) between b rest) : Reads (reader >>= next) text b rest := by
  intro line column
  obtain ⟨line', column', hread⟩ := h line column
  obtain ⟨line'', column'', hread'⟩ := hnext line' column'
  refine ⟨line'', column'', ?_⟩
  rw [StateT.run_bind, hread]
  exact hread'

/-- A reader may look at where reading stands. -/
theorem Reads.get {next : Cursor → Reader α}
    (h : ∀ line column, Reads (next ⟨text, line, column⟩) text a rest) :
    Reads (get >>= next) text a rest := by
  intro line column
  exact h line column line column

theorem Reads.run'_eq_ok {reader : Reader α} (h : Reads reader text a rest) (line column : Nat) :
    reader.run' ⟨text, line, column⟩ = .ok a := by
  obtain ⟨line', column', hread⟩ := h line column
  rw [StateT.run'_eq, hread]
  rfl

/-! ### Single characters -/

theorem reads_modify {change : Cursor → Cursor}
    (h : ∀ line column, (change ⟨text, line, column⟩).rest = rest) :
    Reads (modify change) text () rest := by
  intro line column
  rw [← h line column]
  exact ⟨_, _, rfl⟩

theorem reads_peek : Reads peek text text.head? text := .get fun _ _ => .pure

theorem reads_remaining : Reads remaining text text.length text := .get fun _ _ => .pure

theorem reads_skip : Reads skip (c :: cs) () cs := by
  apply reads_modify
  intro line column
  exact Cursor.rest_past ..

theorem reads_takeWhile (p : Char → Bool) :
    Reads (takeWhile p) text (text.takeWhile p) (text.dropWhile p) := by
  refine .get fun _ _ => .bind (reads_modify ?_) .pure
  intro line column
  exact Cursor.rest_skipWhile_go p text line column

theorem reads_peekPastBlanks :
    Reads peekPastBlanks text (text.dropWhile Cursor.isBlank).head?
      (text.dropWhile Cursor.isBlank) := by
  refine .bind (reads_modify ?_) reads_peek
  intro line column
  exact Cursor.rest_skipWhile_go Cursor.isBlank text line column

theorem reads_valueStart (hc : Cursor.isBlank c = false) :
    Reads valueStart (c :: cs) c (c :: cs) := by
  refine .bind reads_peekPastBlanks ?_
  rw [List.dropWhile_cons_of_neg (by simp [hc])]
  exact .pure

/-! ### Strings -/

theorem hexNumber?_append {digits : List Char} {number : Nat}
    (h : hexNumber? digits = some number) : hexNumber? (digits ++ rest) = some number := by
  unfold hexNumber? at h
  split at h
  · exact h
  · cases h

theorem reads_codeUnit {digits : List Char} {number : Nat} (hsize : Text.byteLength digits = 4)
    (h : hexNumber? digits = some number) : Reads codeUnit (digits ++ rest) number rest := by
  have hskip : Reads (modify (Cursor.advanceBytes 4)) (digits ++ rest) () rest := by
    apply reads_modify
    intro line column
    rw [← hsize]
    exact Cursor.rest_advanceBytes digits rfl
  refine .get fun _ _ => .bind hskip ?_
  rw [hexNumber?_append h]
  exact .pure

theorem reads_simpleEscape {letter : Char} (h : simpleEscape? letter = some c) :
    Reads escape (letter :: rest) c rest := by
  have hne : letter ≠ 'u' := by
    rintro rfl
    cases h
  refine .bind reads_peek ?_
  simp only [List.head?_cons, h]
  exact .bind reads_skip .pure

/-- The digits of a numbered escape are four, and give the number back. -/
theorem hexNumber?_toDigits : ∀ n < 32,
    Text.byteLength
      (List.replicate (4 - (Nat.toDigits 16 n).length) '0' ++ Nat.toDigits 16 n) = 4 ∧
    hexNumber? (List.replicate (4 - (Nat.toDigits 16 n).length) '0' ++ Nat.toDigits 16 n) =
      some n := by
  decide

theorem reads_numberedEscape (rest : List Char) (h : c < ' ') :
    ∃ escaped, numberedEscape c = '\\' :: escaped ∧ Reads escape (escaped ++ rest) c rest := by
  have hlt : c.toNat < 32 := h
  obtain ⟨hsize, hnumber⟩ := hexNumber?_toDigits c.toNat hlt
  refine ⟨_, rfl, .bind reads_peek (.bind reads_skip (.bind (reads_codeUnit hsize hnumber) ?_))⟩
  -- no control character is half of a pair
  rw [if_neg (by omega), if_pos (by omega), Char.ofNat_toNat]
  exact .pure

section String

variable {fuel : Nat} {read : List Char} {value : String}

theorem reads_stringRest_escaped (escaped : List Char)
    (hescape : Reads escape (escaped ++ text) c text)
    (h : Reads (stringRest fuel (c :: read)) text value rest) :
    Reads (stringRest (fuel + 1) read) ('\\' :: escaped ++ text) value rest :=
  .bind reads_peek (.bind reads_skip (.bind hescape h))

/-- A printed character is read back, and the string goes on behind it. -/
theorem reads_stringRest_cons (h : Reads (stringRest fuel (c :: read)) text value rest) :
    Reads (stringRest (fuel + 1) read) (escapeChar c ++ text) value rest := by
  unfold escapeChar
  split
  case h_8 hquote hbackslash _ _ _ _ _ =>
    by_cases hcontrol : c < ' '
    · obtain ⟨escaped, heq, hescape⟩ := reads_numberedEscape text hcontrol
      rw [if_pos hcontrol, heq]
      exact reads_stringRest_escaped escaped hescape h
    · rw [if_neg hcontrol, List.singleton_append]
      refine .bind reads_peek ?_
      simp only [List.head?_cons]
      rw [if_neg hcontrol]
      exact .bind reads_skip h
  all_goals exact reads_stringRest_escaped [_] (reads_simpleEscape rfl) h

theorem reads_stringRest (cs : List Char) (hfuel : cs.length < fuel) :
    Reads (stringRest fuel read) (cs.flatMap escapeChar ++ '"' :: rest)
      (String.ofList (read.reverse ++ cs)) rest := by
  obtain ⟨fuel, rfl⟩ := Nat.exists_eq_add_of_lt hfuel
  induction cs generalizing read with
  | nil =>
    rw [List.append_nil]
    exact .bind reads_peek (.bind reads_skip .pure)
  | cons c cs ih =>
    have hread : read.reverse ++ c :: cs = (c :: read).reverse ++ cs := by simp
    have hcount : (c :: cs).length + fuel + 1 = cs.length + fuel + 1 + 1 := by
      rw [List.length_cons]
      omega
    rw [List.flatMap_cons, List.append_assoc, hread, hcount]
    apply reads_stringRest_cons
    exact ih (by omega)

theorem length_le_length_flatMap_escapeChar (cs : List Char) :
    cs.length ≤ (cs.flatMap escapeChar).length := by
  induction cs with
  | nil => exact Nat.le_refl _
  | cons c cs ih =>
    have hpos : 0 < (escapeChar c).length := by
      rw [List.length_pos_iff]
      intro hnil
      exact escapeChar_append_ne c ['"'] [] (by rw [hnil]; rfl)
    simp only [List.flatMap_cons, List.length_cons, List.length_append]
    omega

theorem reads_stringBody (s : String) :
    Reads stringBody (s.toList.flatMap escapeChar ++ '"' :: rest) s rest := by
  refine .bind reads_remaining ?_
  have hfuel : s.toList.length < (s.toList.flatMap escapeChar ++ '"' :: rest).length + 1 := by
    have hle := length_le_length_flatMap_escapeChar s.toList
    rw [List.length_append]
    omega
  have hread : Reads (stringRest _ []) (_ ++ '"' :: rest) _ rest := reads_stringRest s.toList hfuel
  simpa using hread

/-- A printed string is read back. -/
theorem reads_string (s : String) : Reads string ((printString s).toList ++ rest) s rest := by
  rw [printString, String.toList_ofList]
  simp only [List.cons_append, List.append_assoc]
  exact .bind (reads_valueStart (by decide)) (.bind reads_skip (reads_stringBody s))

end String

/-! ### Numbers -/

section Number

variable {n : Nat}

theorem reads_digits {digits : List Char} (hdigits : ∀ c ∈ digits, isDigit c)
    (hc : isDigit c = false) :
    Reads (takeWhile isDigit) (digits ++ c :: cs) digits (c :: cs) := by
  have hread : Reads (takeWhile isDigit) (digits ++ c :: cs) _ _ := reads_takeWhile isDigit
  rw [List.takeWhile_append_of_pos hdigits, List.dropWhile_append_of_pos hdigits,
    List.takeWhile_cons_of_neg (by simp [hc]), List.append_nil,
    List.dropWhile_cons_of_neg (by simp [hc])] at hread
  exact hread

theorem isBlank_of_isDigit (h : isDigit c) : Cursor.isBlank c = false := by
  rw [Bool.eq_false_iff]
  intro hblank
  simp only [Cursor.isBlank, Bool.or_eq_true, decide_eq_true_eq] at hblank
  rcases hblank with ((rfl | rfl) | rfl) | rfl <;> cases h

theorem isDigit_of_mem_toDigits (h : c ∈ Nat.toDigits 10 n) : isDigit c :=
  Nat.isDigit_of_mem_toDigits (by decide) (Nat.le_refl 10) h

/-- A number is printed without zeros in front. -/
theorem exists_toDigits (n : Nat) :
    ∃ d ds, Nat.toDigits 10 n = d :: ds ∧ isDigit d ∧ (d = '0' → n = 0) := by
  induction n using Nat.strongRecOn with
  | _ n ih =>
    by_cases hlt : n < 10
    · have hsmall : ∀ n < 10, isDigit n.digitChar ∧ (n.digitChar = '0' → n = 0) := by decide
      exact ⟨n.digitChar, [], Nat.toDigits_of_lt_base hlt, hsmall n hlt⟩
    · obtain ⟨d, ds, hdigits, hd, hzero⟩ := ih (n / 10) (by omega)
      refine ⟨d, ds ++ [(n % 10).digitChar], ?_, hd, ?_⟩
      · rw [Nat.toDigits_of_base_le (by decide) (by omega), hdigits, List.cons_append]
      · intro h
        have hsmall := hzero h
        omega

/-- Reads a natural number of any size, without zeros in front. -/
def decimal : Reader Nat := do
  let _ ← valueStart
  let digits ← takeWhile isDigit
  if digits = [] ∨ digits.head? = some '0' ∧ digits ≠ ['0'] then failAhead .invalidNumber
  return Nat.ofDigitChars 10 digits 0

theorem reads_decimal (n : Nat) (hc : isDigit c = false) :
    Reads decimal (Nat.toDigits 10 n ++ c :: cs) n (c :: cs) := by
  obtain ⟨d, ds, hdigits, hd, hzero⟩ := exists_toDigits n
  have hstart : Reads valueStart (Nat.toDigits 10 n ++ c :: cs) d
      (Nat.toDigits 10 n ++ c :: cs) := by
    rw [hdigits]
    exact reads_valueStart (isBlank_of_isDigit hd)
  refine .bind hstart (.bind (reads_digits (fun _ => isDigit_of_mem_toDigits) hc) ?_)
  rw [if_neg, Nat.ofDigitChars_ten_toDigits]
  · exact .pure
  · rw [hdigits]
    rintro (hnil | ⟨hhead, hne⟩)
    · cases hnil
    · obtain rfl := hzero (Option.some.inj hhead)
      exact hne hdigits.symm

theorem le_ofDigitChars (digits : List Char) (number : Nat) :
    number ≤ Nat.ofDigitChars 10 digits number := by
  rw [Nat.ofDigitChars_eq_ofDigitChars_zero]
  have hpos : 0 < 10 ^ digits.length := Nat.pow_pos (by decide)
  exact Nat.le_add_right_of_le (Nat.le_mul_of_pos_left _ hpos)

theorem appendDigits_eq (digits : List Char) (number : Nat)
    (h : Nat.ofDigitChars 10 digits number < 0x10000000000000000) :
    appendDigits number digits = (Nat.ofDigitChars 10 digits number, []) := by
  induction digits generalizing number with
  | nil => rfl
  | cons d digits ih =>
    rw [Nat.ofDigitChars_cons] at h ⊢
    have hle := le_ofDigitChars digits (10 * number + (d.toNat - '0'.toNat))
    rw [appendDigits, Nat.mul_comm number 10, if_pos (Nat.lt_of_le_of_lt hle h)]
    exact ih _ h

/-- A number does not go on with the character. -/
def EndsNumber (c : Char) : Prop := isDigit c = false ∧ c ≠ '.' ∧ c ≠ 'e' ∧ c ≠ 'E'

theorem reads_numberTail (hc : EndsNumber c) (number : Nat) :
    Reads (numberTail true number []) (c :: cs) (.integer number) (c :: cs) := by
  obtain ⟨-, hpoint, hsmall, hlarge⟩ := hc
  refine .bind reads_peek ?_
  simp only [List.head?_cons]
  split
  case h_1 h => exact absurd (Option.some.inj h) hpoint
  case h_2 h => exact absurd (Option.some.inj h) hsmall
  case h_3 h => exact absurd (Option.some.inj h) hlarge
  case h_4 => exact .pure

theorem reads_number (hn : n < 0x10000000000000000) (hc : EndsNumber c) :
    Reads (number true) (Nat.toDigits 10 n ++ c :: cs) (.integer n) (c :: cs) := by
  obtain ⟨d, ds, hdigits, hd, hzero⟩ := exists_toDigits n
  by_cases hfirst : d = '0'
  · obtain rfl := hzero hfirst
    rw [Nat.toDigits_zero, List.singleton_append]
    refine .bind reads_peek (.bind reads_skip (.bind reads_peek ?_))
    simp only [List.head?_cons, hc.1]
    exact reads_numberTail hc 0
  · have happend : appendDigits 0 (Nat.toDigits 10 n) = (n, []) := by
      have heq := appendDigits_eq (Nat.toDigits 10 n) 0
      rw [Nat.ofDigitChars_ten_toDigits] at heq
      exact heq hn
    have hhead : (Nat.toDigits 10 n ++ c :: cs).head? = some d := by
      rw [hdigits]
      rfl
    refine .bind reads_peek ?_
    rw [hhead]
    simp only [hd]
    refine .bind (reads_digits (fun _ => isDigit_of_mem_toDigits) hc.1) ?_
    rw [happend]
    exact reads_numberTail hc n

/-- A number that 64 bits can hold is read back. -/
theorem reads_natural (hn : n < 0x10000000000000000) (hc : EndsNumber c) :
    Reads natural (Nat.toDigits 10 n ++ c :: cs) n (c :: cs) := by
  obtain ⟨d, ds, hdigits, hd, -⟩ := exists_toDigits n
  have hminus : d ≠ '-' := by
    rintro rfl
    cases hd
  have hnumber : Reads (number true) (Nat.toDigits 10 n ++ c :: cs) (.integer n) (c :: cs) :=
    reads_number hn hc
  rw [hdigits] at hnumber ⊢
  refine .bind (reads_valueStart (isBlank_of_isDigit hd)) ?_
  split
  · contradiction
  · rw [if_pos hd]
    exact .bind hnumber .pure

end Number

/-! ### Objects -/

theorem head?_printString (s : String) (rest : List Char) :
    ((printString s).toList ++ rest).head? = some '"' := by
  simp [printString]

theorem reads_hasMember_first (h : text.head? = some '"') :
    Reads (hasMember true) text true text := by
  obtain ⟨rest, rfl⟩ := List.head?_eq_some_iff.mp h
  exact .bind reads_peekPastBlanks .pure

theorem reads_hasMember_next (h : text.head? = some '"') :
    Reads (hasMember false) (',' :: text) true text := by
  obtain ⟨rest, rfl⟩ := List.head?_eq_some_iff.mp h
  exact .bind reads_peekPastBlanks (.bind reads_skip (.bind reads_peekPastBlanks .pure))

theorem reads_hasMember_end (first : Bool) :
    Reads (hasMember first) ('\x7d' :: text) false ('\x7d' :: text) :=
  .bind reads_peekPastBlanks .pure

theorem reads_colon : Reads colon (':' :: text) () text := .bind reads_peekPastBlanks reads_skip

theorem reads_close_objectEnd : Reads (close objectEnd (.ok a)) ('\x7d' :: text) a text := by
  refine .get fun line column => ?_
  intro line' column'
  exact ⟨line, column + 1, rfl⟩

end Reader

namespace RecordType

open Reader

variable {type : RecordType α} {member : Member α} {fuel : Nat} {first : Bool} {seen : List String}
  {record next : α} {result : Except Fault α} {value after : List Char}

theorem reads_readMembers_end (h : type.missing? seen = none) :
    Reads (type.readMembers (fuel + 1) first seen record) ('\x7d' :: rest) (.ok record)
      ('\x7d' :: rest) := by
  rw [readMembers]
  refine .bind (reads_hasMember_end first) ?_
  simp only [h]
  exact .pure

/-- A printed member is read by its own reader, and the object goes on behind it. -/
theorem reads_readMembers_cons
    (hmore : Reads (hasMember first) text true ((printString member.name).toList ++ ':' :: value))
    (hfind : type.members.find? (·.name = member.name) = some member) (hseen : member.name ∉ seen)
    (hvalue : Reads (member.read record) value next after)
    (hrest : Reads (type.readMembers fuel false (member.name :: seen) next) after result rest) :
    Reads (type.readMembers (fuel + 1) first seen record) text result rest := by
  have hnew : seen.contains member.name = false := by simpa using hseen
  rw [printString, String.toList_ofList] at hmore
  simp only [List.cons_append, List.append_assoc] at hmore
  rw [readMembers]
  refine .bind hmore ?_
  rw [if_pos rfl]
  refine .bind reads_skip (.bind (reads_stringBody member.name) ?_)
  simp only [hfind, hnew]
  exact .bind reads_colon (.bind hvalue hrest)

theorem reads_read (h : Reads (type.readMembers (text.length + 1) true [] type.empty) text
    (.ok record) ('\x7d' :: rest)) : Reads type.read ('\x7b' :: text) record rest := by
  refine .bind (reads_valueStart (by decide)) ?_
  exact .bind reads_skip (.bind reads_remaining (.bind h reads_close_objectEnd))

end RecordType

/-- A text is read if a reader takes all of it. -/
theorem read_eq_ok {reader : Reader α} {text : String} (h : reader.Reads text.toList a []) :
    read reader text = .ok a := by
  apply Reader.Reads.run'_eq_ok
  exact h.bind (Reader.reads_peekPastBlanks.bind .pure)

end SfcWeave.Json
