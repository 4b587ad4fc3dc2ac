import SfcWeave.Proofs.Document.Deindent

/-!
# Printing what has been read, over and over

What is printed of a document that was read can be read, and printed, again. The second text can
still differ from the first: contents are deindented once more, and the first line with content
may by then start with indentation of another kind, or still hold a carriage return. It does not
differ exactly if the contents are settled,

    reprint_eq_iff : parse source = document → ∃ again, parse document.print = again ∧
      (again.print = document.print ↔ every content in document is settled)

and so it does not if the contents of the source are indented uniformly (`reprint_eq_of_isUniform`).
-/

namespace SfcWeave.Document

variable {source : String} {document other again : Document}

/-! ### What is printed -/

theorem print_withoutSpans (document : Document) :
    document.withoutSpans.print = document.print := by
  have hattribute : ∀ a : Attribute, a.withoutSpan.print = a.print := fun _ => rfl
  have hblock : ∀ block : Block, block.withoutSpans.print = block.print := by
    intro block
    simp [Block.withoutSpans, Block.print, Function.comp_def, hattribute]
  rw [print, print, withoutSpans, toList_map, List.map_map]
  simp only [Function.comp_def, hblock]

/-- Documents that are printed the same are the same, as far as they can be read. -/
theorem withoutSpans_eq_of_print_eq (h : document.IsPrintable) (hother : other.IsPrintable)
    (heq : document.print = other.print) :
    document.asRead.withoutSpans = other.asRead.withoutSpans := by
  obtain ⟨read, hread, hsame⟩ := parse_print h
  obtain ⟨read', hread', hsame'⟩ := parse_print hother
  rw [heq, hread'] at hread
  obtain rfl := Except.ok.inj hread
  rw [← hsame, hsame']

/-! ### What is read of it -/

theorem withoutSpans_deindented (document : Document) :
    (document.map deindented).withoutSpans = document.withoutSpans.map deindented := by
  simp only [withoutSpans, map, Option.map_map, List.map_map]
  rfl

/-- What is printed is read again, with every content deindented once more. -/
theorem exists_parse_print (h : parse source = .ok document) :
    ∃ again, parse document.print = .ok again ∧
      again.withoutSpans = (document.map deindented).withoutSpans := by
  obtain ⟨hprintable, hread⟩ := isPrintable_of_parse_deindent h
  obtain ⟨plain, hplain, hsame⟩ := parse_print hprintable
  rw [asRead, map_eq_self hread] at hsame
  refine ⟨plain.map deindented, parse_deindent_eq_ok_iff.mpr ⟨plain, hplain, rfl⟩, ?_⟩
  rw [withoutSpans_deindented, hsame, withoutSpans_deindented]

/-- Contents that are settled are printed as they were. -/
theorem print_eq_of_isSettled (hsame : again.withoutSpans = (document.map deindented).withoutSpans)
    (hsettled : ∀ block ∈ document.toList, Text.IsSettled block.content) :
    again.print = document.print := by
  have hself : document.map deindented = document := by
    apply map_eq_self
    intro block hblock
    rw [deindented, Text.deindent_eq_self_iff.mpr (hsettled block hblock)]
  rw [← print_withoutSpans, hsame, hself, print_withoutSpans]

/-- What is printed of a document that was read can be read again, and is then printed as it was
exactly if no content can be deindented any further. -/
theorem reprint_eq_iff (h : parse source = .ok document) :
    ∃ again, parse document.print = .ok again ∧
      (again.print = document.print ↔
        ∀ block ∈ document.toList, Text.IsSettled block.content) := by
  obtain ⟨hprintable, hread⟩ := isPrintable_of_parse_deindent h
  obtain ⟨again, hagain, hsame⟩ := exists_parse_print h
  refine ⟨again, hagain, ?_⟩
  constructor
  · intro heq block hblock
    obtain ⟨hprintable', hread'⟩ := isPrintable_of_parse_deindent hagain
    have hwithout := withoutSpans_eq_of_print_eq hprintable' hprintable heq
    rw [asRead, map_eq_self hread', asRead, map_eq_self hread, hsame] at hwithout
    -- block by block, the contents have stayed the same
    have hblocks := congrArg toList hwithout
    rw [withoutSpans, withoutSpans, toList_map, toList_map, toList_map, List.map_map,
      List.map_inj_left] at hblocks
    exact Text.deindent_eq_self_iff.mp (congrArg Block.content (hblocks block hblock))
  · exact print_eq_of_isSettled hsame

/-- A source with lines of different indentation, with tabs, and with carriage returns. -/
def indentedSample : String :=
  "<script>\n    a\n  b\r\n</script>\r\n<style>\t.a\n\t \tb</style>"

theorem reprint_eq_iff_indentedSample :
    ∃ document again, parse indentedSample = .ok document ∧ parse document.print = .ok again ∧
      again.print = document.print := by
  have hdone : ∃ document ∈ (parse indentedSample).toOption,
      ∀ block ∈ document.toList, Text.IsSettled block.content := by
    decide +kernel
  obtain ⟨document, hparse, hsettled⟩ := hdone
  rw [Except.mem_toOption_iff] at hparse
  obtain ⟨again, hagain, hiff⟩ := reprint_eq_iff hparse
  exact ⟨document, again, hparse, hagain, hiff.mpr hsettled⟩

/-- A space in front of a tab: the tab becomes indentation once the space is gone. -/
theorem reprint_ne_mixedIndentation :
    ∃ document again, parse "<script> \ta</script>" = .ok document ∧
      parse document.print = .ok again ∧ again.print ≠ document.print := by
  have hdone : ∃ document ∈ (parse "<script> \ta</script>").toOption,
      ∃ again ∈ (parse document.print).toOption, again.print ≠ document.print := by
    decide +kernel
  obtain ⟨document, hparse, again, hagain, hne⟩ := hdone
  rw [Except.mem_toOption_iff] at hparse hagain
  exact ⟨document, again, hparse, hagain, hne⟩

/-- A source whose contents are each indented in one way is printed for good the first time. -/
theorem reprint_eq_of_isUniform {plain : Document} (h : parse source false = .ok plain)
    (huniform : ∀ block ∈ plain.toList, Text.IsUniform block.content) :
    ∃ document again, parse source = .ok document ∧ parse document.print = .ok again ∧
      again.print = document.print := by
  have hparse : parse source = .ok (plain.map deindented) :=
    parse_deindent_eq_ok_iff.mpr ⟨plain, h, rfl⟩
  obtain ⟨again, hagain, hsame⟩ := exists_parse_print hparse
  refine ⟨_, again, hparse, hagain, print_eq_of_isSettled hsame ?_⟩
  rw [toList_map, List.forall_mem_map]
  intro block hblock
  exact Text.isSettled_deindent (huniform block hblock)

end SfcWeave.Document
