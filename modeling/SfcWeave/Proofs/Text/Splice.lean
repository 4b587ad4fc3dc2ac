import SfcWeave.Proofs.Text.Span

/-!
# Splices as edits

A splice takes a text apart at its span and puts it together with another middle:

    splice?_eq_some_iff : span.splice? text replacement = some result ↔
      ∃ before middle after, text = before ++ middle ++ after ∧
        span = ⟨before.utf8ByteSize, (before ++ middle).utf8ByteSize⟩ ∧
        result = before ++ replacement ++ after

It is possible exactly at the spans that fit the text (`isSome_splice?_iff`). A splice can be taken
back, as the replacement stands where the span has been (`Span.filledBy`), and two splices of parts
that do not overlap can change places if the later part is moved along (`Span.movedBy`).
-/

namespace SfcWeave.Span

open Text (byteLength byteLength_append byteLength_toList)

variable {span first second : Span} {text replacement result part before middle after : String}

/-! ### Spans of a text -/

/-- An offset between two characters of a text, or at one of its ends. -/
def IsBoundary (text : String) (offset : Nat) : Prop := (String.Pos.Raw.mk offset).IsValid text

/-- A span that is in order and inside a text, with both ends between characters. -/
structure Fits (span : Span) (text : String) : Prop where
  start_le_stop : span.start ≤ span.stop
  stop_le : span.stop ≤ text.utf8ByteSize
  start_isBoundary : IsBoundary text span.start
  stop_isBoundary : IsBoundary text span.stop

theorem isBoundary_iff {offset : Nat} :
    IsBoundary text offset ↔ ∃ rest, Text.RestAt text.toList offset rest := by
  rw [IsBoundary, String.Pos.Raw.isValid_iff_exists_append]
  constructor
  · rintro ⟨before, after, rfl, hoffset⟩
    refine ⟨after.toList, before.toList, String.toList_append, ?_⟩
    rw [byteLength_toList]
    exact congrArg String.Pos.Raw.byteIdx hoffset
  · rintro ⟨rest, before, htext, rfl⟩
    refine ⟨String.ofList before, String.ofList rest, ?_, ?_⟩
    · rw [← String.ofList_append, ← htext, String.ofList_toList]
    · rw [← Text.utf8ByteSize_ofList]
      rfl

/-- Exactly the spans that fit a text can be read from it. -/
theorem isSome_slice?_iff : (span.slice? text).isSome ↔ span.Fits text := by
  rw [Option.isSome_iff_exists]
  constructor
  · rintro ⟨part, hpart⟩
    obtain ⟨before, after, rfl, rfl⟩ := slice?_eq_some_iff.mp hpart
    have hstart : Text.RestAt (before ++ part ++ after).toList before.utf8ByteSize
        (part ++ after).toList :=
      ⟨before.toList, by simp, (byteLength_toList before).symm⟩
    have hstop : Text.RestAt (before ++ part ++ after).toList (before ++ part).utf8ByteSize
        after.toList :=
      ⟨(before ++ part).toList, String.toList_append, (byteLength_toList _).symm⟩
    refine ⟨?_, ?_, isBoundary_iff.mpr ⟨_, hstart⟩, isBoundary_iff.mpr ⟨_, hstop⟩⟩
    · simp
    · simp
  · rintro ⟨hle, -, hstart, hstop⟩
    obtain ⟨rest, hrest⟩ := isBoundary_iff.mp hstart
    obtain ⟨rest', hrest'⟩ := isBoundary_iff.mp hstop
    obtain ⟨before, middle, hcut⟩ := exists_cut?_of_le hrest hrest' hle
    exact ⟨String.ofList middle, by rw [slice?, hcut]; rfl⟩

/-! ### A single splice -/

theorem slice?_append (before part after : String) :
    slice? ⟨before.utf8ByteSize, (before ++ part).utf8ByteSize⟩ (before ++ part ++ after) =
      some part :=
  slice?_eq_some_iff.mpr ⟨before, after, rfl, rfl⟩

/-- What can be read can be replaced, and nothing else. -/
theorem isSome_splice?_iff :
    (span.splice? text replacement).isSome ↔ (span.slice? text).isSome := by
  rw [splice?, slice?, Option.isSome_map, Option.isSome_map]

/-- Where a replacement stands after the splice. -/
def filledBy (span : Span) (replacement : String) : Span :=
  ⟨span.start, span.start + replacement.utf8ByteSize⟩

/-- The replacement is read where it has been put, and the splice is taken back there. -/
theorem slice?_filledBy (h : span.splice? text replacement = some result) :
    (span.filledBy replacement).slice? result = some replacement ∧
      ∃ old, span.slice? text = some old ∧
        (span.filledBy replacement).splice? result old = some text := by
  obtain ⟨before, middle, after, rfl, rfl, rfl⟩ := splice?_eq_some_iff.mp h
  rw [filledBy, ← String.utf8ByteSize_append]
  refine ⟨slice?_append before replacement after, middle, slice?_append before middle after, ?_⟩
  exact splice?_append before replacement after middle

/-! ### Two splices -/

/-- The part behind another one, moved along when that one is replaced. -/
def movedBy (span replaced : Span) (replacement : String) : Span :=
  ⟨span.start + replacement.utf8ByteSize - (replaced.stop - replaced.start),
    span.stop + replacement.utf8ByteSize - (replaced.stop - replaced.start)⟩

/-- Of two texts that start a text, the longer one starts with the shorter one. -/
theorem exists_append_of_size_le {a b c d : String} (h : a ++ b = c ++ d)
    (hle : a.utf8ByteSize ≤ c.utf8ByteSize) : ∃ between, c = a ++ between := by
  have hchars : a.toList ++ b.toList = c.toList ++ d.toList := by
    rw [← String.toList_append, h, String.toList_append]
  rw [← byteLength_toList, ← byteLength_toList] at hle
  rcases List.append_eq_append_iff.mp hchars with ⟨between, hc, -⟩ | ⟨more, ha, -⟩
  · exact ⟨String.ofList between, String.toList_inj.mp (by simp [hc])⟩
  · -- the shorter one cannot go on behind the longer one
    rw [ha, byteLength_append] at hle
    have hlength := Text.length_le_byteLength more
    obtain rfl : more = [] := List.length_eq_zero_iff.mp (by omega)
    exact ⟨"", String.toList_inj.mp (by simp [ha])⟩

/-- A text with two parts that do not overlap. -/
theorem exists_parts (hfirst : first.Fits text) (hsecond : second.Fits text)
    (hle : first.stop ≤ second.start) :
    ∃ a b c d e, text = a ++ b ++ c ++ d ++ e ∧
      first = ⟨a.utf8ByteSize, (a ++ b).utf8ByteSize⟩ ∧
      second = ⟨(a ++ b ++ c).utf8ByteSize, (a ++ b ++ c ++ d).utf8ByteSize⟩ := by
  obtain ⟨b, hb⟩ := Option.isSome_iff_exists.mp (isSome_slice?_iff.mpr hfirst)
  obtain ⟨d, hd⟩ := Option.isSome_iff_exists.mp (isSome_slice?_iff.mpr hsecond)
  obtain ⟨a, rest, htext, rfl⟩ := slice?_eq_some_iff.mp hb
  obtain ⟨front, e, rfl, rfl⟩ := slice?_eq_some_iff.mp hd
  rw [@String.append_assoc front] at htext
  obtain ⟨c, rfl⟩ := exists_append_of_size_le htext.symm hle
  exact ⟨a, b, c, d, e, rfl, rfl, rfl⟩

/-- Two parts that do not overlap can be replaced in either order. -/
theorem splice?_splice? (hfirst : first.Fits text) (hsecond : second.Fits text)
    (hle : first.stop ≤ second.start) (one two : String) :
    ∃ afterSecond afterFirst result,
      second.splice? text two = some afterSecond ∧
      first.splice? afterSecond one = some result ∧
      first.splice? text one = some afterFirst ∧
      (second.movedBy first one).splice? afterFirst two = some result := by
  obtain ⟨a, b, c, d, e, rfl, rfl, rfl⟩ := exists_parts hfirst hsecond hle
  have hmoved : movedBy ⟨(a ++ b ++ c).utf8ByteSize, (a ++ b ++ c ++ d).utf8ByteSize⟩
      ⟨a.utf8ByteSize, (a ++ b).utf8ByteSize⟩ one =
      ⟨(a ++ one ++ c).utf8ByteSize, (a ++ one ++ c ++ d).utf8ByteSize⟩ := by
    simp only [movedBy, String.utf8ByteSize_append, Span.mk.injEq]
    omega
  refine ⟨a ++ b ++ c ++ two ++ e, a ++ one ++ c ++ d ++ e, a ++ one ++ c ++ two ++ e,
    splice?_append (a ++ b ++ c) d e two, ?_, ?_, ?_⟩
  · simpa only [String.append_assoc] using splice?_append a b (c ++ two ++ e) one
  · simpa only [String.append_assoc] using splice?_append a b (c ++ d ++ e) one
  · rw [hmoved]
    exact splice?_append (a ++ one ++ c) d e two

/-! ### The laws of splices -/

/-- Splices are possible at the spans that fit, can be taken back, and do not depend on the order in
which parts that do not overlap are replaced. -/
theorem splice?_laws (text : String) :
    (∀ (span : Span) (replacement : String),
      (span.splice? text replacement).isSome ↔ (span.slice? text).isSome) ∧
    (∀ span : Span, (span.slice? text).isSome ↔ span.Fits text) ∧
    (∀ (span : Span) (replacement result : String),
      span.splice? text replacement = some result →
      (span.filledBy replacement).slice? result = some replacement ∧
        ∃ old, span.slice? text = some old ∧
          (span.filledBy replacement).splice? result old = some text) ∧
    (∀ first second : Span, first.Fits text → second.Fits text → first.stop ≤ second.start →
      ∀ one two, ∃ afterSecond afterFirst result,
        second.splice? text two = some afterSecond ∧
        first.splice? afterSecond one = some result ∧
        first.splice? text one = some afterFirst ∧
        (second.movedBy first one).splice? afterFirst two = some result) := by
  refine ⟨?_, ?_, ?_, ?_⟩
  · intro span replacement
    exact isSome_splice?_iff
  · intro span
    exact isSome_slice?_iff
  · intro span replacement result h
    exact slice?_filledBy h
  · intro first second hfirst hsecond hle one two
    exact splice?_splice? hfirst hsecond hle one two

/-- The first part is a character of two bytes, the second one an empty span that touches it. -/
theorem splice?_laws_touching :
    Fits ⟨1, 3⟩ "aéb" ∧ Fits ⟨3, 3⟩ "aéb" ∧ ¬ Fits ⟨2, 3⟩ "aéb" ∧
    ∃ afterSecond afterFirst result,
      splice? ⟨3, 3⟩ "aéb" "→" = some afterSecond ∧
      splice? ⟨1, 3⟩ afterSecond "" = some result ∧
      splice? ⟨1, 3⟩ "aéb" "" = some afterFirst ∧
      (movedBy ⟨3, 3⟩ ⟨1, 3⟩ "").splice? afterFirst "→" = some result := by
  obtain ⟨-, hfits, -, hswap⟩ := splice?_laws "aéb"
  have hfirst : Fits ⟨1, 3⟩ "aéb" := (hfits _).mp (by decide)
  have hsecond : Fits ⟨3, 3⟩ "aéb" := (hfits _).mp (by decide)
  have hinside : ¬ Fits ⟨2, 3⟩ "aéb" := mt (hfits _).mpr (by decide)
  exact ⟨hfirst, hsecond, hinside, hswap _ _ hfirst hsecond (by decide) "" "→"⟩

end SfcWeave.Span
