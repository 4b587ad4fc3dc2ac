import SfcWeave.Text.Span

/-!
# Cuts of a text

A span that can be cut out of a text is known from the parts of the text before, under and after
it. `cut?_eq_some_iff` says so once; that a span lies inside a text, in order and on character
boundaries, is never looked at again.
-/

namespace SfcWeave

open Text (byteLength byteLength_append)

namespace Text

theorem utf8ByteSize_ofList (cs : List Char) : (String.ofList cs).utf8ByteSize = byteLength cs := by
  induction cs with
  | nil => rfl
  | cons c cs ih =>
    rw [String.ofList_cons, String.utf8ByteSize_append, String.utf8ByteSize_singleton, ih]
    rfl

/-- The size of a text is that of its characters. -/
theorem byteLength_toList (text : String) : byteLength text.toList = text.utf8ByteSize := by
  rw [← utf8ByteSize_ofList, String.ofList_toList]

/-- From an offset on, what is left of a text is `rest`. -/
def RestAt (text : List Char) (offset : Nat) (rest : List Char) : Prop :=
  ∃ before, text = before ++ rest ∧ offset = byteLength before

variable {text front rest rest' : List Char} {offset start stop : Nat}

theorem restAt_zero (text : List Char) : RestAt text 0 text := ⟨[], rfl, rfl⟩

/-- What has been passed is left no more. -/
theorem RestAt.append (h : RestAt text offset (front ++ rest)) :
    RestAt text (offset + byteLength front) rest := by
  obtain ⟨before, rfl, rfl⟩ := h
  exact ⟨before ++ front, by rw [List.append_assoc], (byteLength_append before front).symm⟩

/-- Where a text ends. -/
theorem RestAt.size (h : RestAt text offset rest) : offset + byteLength rest = byteLength text := by
  obtain ⟨before, rfl, rfl⟩ := h
  exact (byteLength_append before rest).symm

theorem RestAt.nil (h : RestAt text offset rest) : RestAt text (byteLength text) [] := by
  rw [← h.size]
  exact RestAt.append (by rwa [List.append_nil])

/-- What is left from an offset on is one text. -/
theorem RestAt.unique (h : RestAt text offset rest) (h' : RestAt text offset rest') :
    rest = rest' := by
  obtain ⟨before, hbefore, hoffset⟩ := h
  obtain ⟨before', hbefore', hoffset'⟩ := h'
  have hcut := splitAt?_eq_some_iff.mpr ⟨hbefore, hoffset⟩
  rw [splitAt?_eq_some_iff.mpr ⟨hbefore', hoffset'⟩] at hcut
  exact (Prod.mk.inj (Option.some.inj hcut)).2.symm

/-- Nothing is left at the end. -/
theorem RestAt.eq_nil {source : String} (h : RestAt source.toList source.utf8ByteSize rest) :
    rest = [] := by
  have hend := h.nil
  rw [byteLength_toList] at hend
  exact h.unique hend

end Text

namespace Span

open Text (byteLength_toList utf8ByteSize_ofList)

variable {span : Span} {before middle after cs : List Char} {text part replacement result : String}

@[simp] theorem shift_start (base : Nat) (span : Span) :
    (span.shift base).start = base + span.start := rfl

@[simp] theorem shift_stop (base : Nat) (span : Span) :
    (span.shift base).stop = base + span.stop := rfl

theorem shift_inj {base : Nat} {a b : Span} (h : a.shift base = b.shift base) : a = b := by
  obtain ⟨hstart, hstop⟩ := Span.mk.inj h
  cases a
  cases b
  simp_all

theorem shift_shift (a b : Nat) (span : Span) : (span.shift b).shift a = span.shift (a + b) := by
  simp [shift, Nat.add_assoc]

theorem cut?_eq_some_iff :
    span.cut? cs = some (before, middle, after) ↔
      cs = before ++ middle ++ after ∧
        span = ⟨byteLength before, byteLength (before ++ middle)⟩ := by
  obtain ⟨start, stop⟩ := span
  constructor
  · intro h
    unfold cut? at h
    split at h
    · next hle =>
      simp only [bind, Option.bind_eq_some_iff, Option.some.injEq, Prod.mk.injEq, Prod.exists]
        at h
      obtain ⟨_, _, hfirst, _, _, hsecond, rfl, rfl, rfl⟩ := h
      obtain ⟨rfl, rfl⟩ := Text.splitAt?_eq_some_iff.mp hfirst
      obtain ⟨rfl, hmiddle⟩ := Text.splitAt?_eq_some_iff.mp hsecond
      refine ⟨by rw [List.append_assoc], ?_⟩
      rw [byteLength_append, ← hmiddle, Nat.add_sub_cancel' hle]
    · cases h
  · rintro ⟨rfl, hspan⟩
    obtain ⟨rfl, rfl⟩ := Span.mk.inj hspan
    unfold cut?
    rw [if_pos (by simp), List.append_assoc, Text.splitAt?_append]
    simp [Text.splitAt?_append]

/-- What has been passed can be cut out. -/
theorem exists_cut?_of_restAt {front rest : List Char} {offset : Nat}
    (h : Text.RestAt cs offset (front ++ rest)) :
    ∃ before, cut? ⟨offset, offset + byteLength front⟩ cs = some (before, front, rest) := by
  obtain ⟨before, rfl, rfl⟩ := h
  refine ⟨before, cut?_eq_some_iff.mpr ⟨by rw [List.append_assoc], ?_⟩⟩
  rw [byteLength_append]

/-- Between two offsets there is a part of the text, if both are offsets of the text. -/
theorem exists_cut?_of_le {start stop : Nat} {rest rest' : List Char}
    (hstart : Text.RestAt cs start rest) (hstop : Text.RestAt cs stop rest') (hle : start ≤ stop) :
    ∃ before middle, cut? ⟨start, stop⟩ cs = some (before, middle, rest') := by
  obtain ⟨before, hbefore, rfl⟩ := hstart
  obtain ⟨before', rfl, rfl⟩ := hstop
  rcases List.append_eq_append_iff.mp hbefore with ⟨middle, rfl, -⟩ | ⟨middle, rfl, rfl⟩
  · -- nothing is between them
    rw [byteLength_append] at hle
    have hlength := Text.length_le_byteLength middle
    obtain rfl : middle = [] := List.length_eq_zero_iff.mp (by omega)
    rw [List.append_nil]
    exact ⟨before', [], cut?_eq_some_iff.mpr (by simp)⟩
  · exact ⟨before, middle, cut?_eq_some_iff.mpr ⟨rfl, rfl⟩⟩

/-- A text is cut into the parts that it is put together from. -/
theorem cut?_toList_eq_some_iff {before middle after : String} :
    span.cut? text.toList = some (before.toList, middle.toList, after.toList) ↔
      text = before ++ middle ++ after ∧
        span = ⟨before.utf8ByteSize, (before ++ middle).utf8ByteSize⟩ := by
  rw [cut?_eq_some_iff, ← String.toList_append, ← String.toList_append, String.toList_inj,
    byteLength_toList, byteLength_toList]

/-- The text under a span, and what stands around it. -/
theorem slice?_eq_some_iff :
    span.slice? text = some part ↔
      ∃ before after, text = before ++ part ++ after ∧
        span = ⟨before.utf8ByteSize, (before ++ part).utf8ByteSize⟩ := by
  rw [slice?, Option.map_eq_some_iff]
  constructor
  · rintro ⟨⟨before, middle, after⟩, hcut, rfl⟩
    refine ⟨String.ofList before, String.ofList after, cut?_toList_eq_some_iff.mp ?_⟩
    simpa using hcut
  · rintro ⟨before, after, hparts⟩
    exact ⟨_, cut?_toList_eq_some_iff.mpr hparts, String.ofList_toList⟩

/-- A part of a part is a part of the whole. -/
theorem slice?_shift {inner : Span} {line : String} (h : span.slice? text = some part)
    (hinner : inner.slice? part = some line) :
    (inner.shift span.start).slice? text = some line := by
  obtain ⟨before, after, rfl, rfl⟩ := slice?_eq_some_iff.mp h
  obtain ⟨front, back, rfl, rfl⟩ := slice?_eq_some_iff.mp hinner
  refine slice?_eq_some_iff.mpr ⟨before ++ front, back ++ after, ?_, ?_⟩
  · simp only [String.append_assoc]
  · simp [shift, String.utf8ByteSize_append, Nat.add_assoc]

theorem slice?_of_restAt {front rest : List Char} {offset : Nat}
    (h : Text.RestAt text.toList offset (front ++ rest)) :
    slice? ⟨offset, offset + byteLength front⟩ text = some (String.ofList front) := by
  obtain ⟨before, hcut⟩ := exists_cut?_of_restAt h
  rw [slice?, hcut]
  rfl

/-- The text under a span is what is left from its start on, up to what is left from its stop on. -/
theorem restAt_of_slice? (h : span.slice? text = some part) :
    ∃ rest, Text.RestAt text.toList span.start (part.toList ++ rest) ∧
      Text.RestAt text.toList span.stop rest ∧ span.stop = span.start + byteLength part.toList := by
  obtain ⟨before, after, rfl, rfl⟩ := slice?_eq_some_iff.mp h
  have hstart : Text.RestAt (before ++ part ++ after).toList before.utf8ByteSize
      (part.toList ++ after.toList) :=
    ⟨before.toList, by simp, (byteLength_toList before).symm⟩
  refine ⟨after.toList, hstart, ?_, ?_⟩
  · simpa [String.utf8ByteSize_append, byteLength_toList] using hstart.append
  · simp [String.utf8ByteSize_append, byteLength_toList]

/-- A splice takes the text apart at the span, and puts it together with another middle. -/
theorem splice?_eq_some_iff :
    span.splice? text replacement = some result ↔
      ∃ before middle after, text = before ++ middle ++ after ∧
        span = ⟨before.utf8ByteSize, (before ++ middle).utf8ByteSize⟩ ∧
        result = before ++ replacement ++ after := by
  rw [splice?, Option.map_eq_some_iff]
  constructor
  · rintro ⟨⟨before, middle, after⟩, hcut, rfl⟩
    refine ⟨String.ofList before, String.ofList middle, String.ofList after, ?_⟩
    rw [← and_assoc]
    refine ⟨cut?_toList_eq_some_iff.mp (by simpa using hcut), ?_⟩
    simp [String.append_assoc]
  · rintro ⟨before, middle, after, htext, hspan, rfl⟩
    refine ⟨_, cut?_toList_eq_some_iff.mpr ⟨htext, hspan⟩, ?_⟩
    simp [String.append_assoc]

/-- The splice of a text in three parts. -/
theorem splice?_append (before middle after replacement : String) :
    splice? ⟨before.utf8ByteSize, (before ++ middle).utf8ByteSize⟩ (before ++ middle ++ after)
      replacement = some (before ++ replacement ++ after) :=
  splice?_eq_some_iff.mpr ⟨before, middle, after, rfl, rfl, rfl⟩

/-- Replacing nothing inserts a text. -/
theorem splice?_empty (before after replacement : String) :
    (Span.empty before.utf8ByteSize).splice? (before ++ after) replacement =
      some (before ++ replacement ++ after) := by
  simpa only [String.append_empty, empty] using splice?_append before "" after replacement

end Span

end SfcWeave
