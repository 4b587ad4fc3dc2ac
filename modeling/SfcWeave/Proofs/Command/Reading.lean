import SfcWeave.Proofs.Command.Location
import SfcWeave.Proofs.Document.Agreement

/-!
# Reading stays inside the source

A source of less than 4 GiB is read without a misstep: every part that is taken of it is there,
every loop goes forward, and no more templates are closed than have been opened. What comes out is
about places of the source: the attributes of a block stand in its header, and an error has a span,
so that the report on a file that cannot be read says where (`parse_inside_source`).
-/

namespace SfcWeave

open Script Text

variable {source : String} {error : ParseError}

/-- A part of a text is in order and inside the text. -/
theorem bounds_of_slice? {span : Span} {part : String} (h : span.slice? source = some part) :
    span.start ≤ span.stop ∧ span.stop ≤ source.utf8ByteSize := by
  obtain ⟨before, after, rfl, rfl⟩ := Span.slice?_eq_some_iff.mp h
  simp [String.utf8ByteSize_append, Nat.add_assoc]

/-- The report on a source that cannot be read. -/
theorem Job.weaveFile_of_parse_error {σ : Type} {job : Job} {path : Path} {effects : Effects}
    {location : LineColumn} (parse : Parser) (toolchain : Toolchain σ) (state : σ)
    (hread : effects.tree.readText path = .ok source)
    (hparse : Document.parse source = .error error)
    (hlocation : (LineIndex.ofText source).find? error.span.start = some location) :
    (job.weaveFile parse toolchain path state effects).1 =
      ⟨path, .failed (Outcome.fullMessage (.document error)) (some location)⟩ := by
  have hrun : (weave parse toolchain job.options path.text source).run.run { toolchain := state } =
      (.error (.document error), { toolchain := state }) := by
    rw [run_weave, hparse]
  rw [weaveFile_of_error hread hrun, Outcome.ofError, Outcome.errorLocation?, hlocation]

/-- A source whose offsets fit into 32 bits is read inside its bounds. Reading it by offsets makes
no misstep; the blocks have their headers in it, with their attributes; and the span of an error is
one of a part of it, which has a line and a column. These are reported for the file with the
source. -/
theorem parse_inside_source (source : String) (deindent : Bool)
    (hsize : source.utf8ByteSize < UInt32.size) :
    Document.Addressed.parse source deindent =
      (Document.parse source deindent).mapError .error ∧
    (∀ document, Document.parse source deindent = .ok document →
      ∀ block ∈ document.toList, Document.HasHeader source block) ∧
    (∀ error, Document.parse source deindent = .error error →
      error.span.start ≤ error.span.stop ∧ error.span.stop ≤ source.utf8ByteSize ∧
      (∃ part, error.span.slice? source = some part) ∧
      ∃ location, (LineIndex.ofText source).find? error.span.start = some location) ∧
    ∀ (σ : Type) (job : Job) (parse : Parser) (toolchain : Toolchain σ) (path : Path) (state : σ)
      (effects : Effects) (error : ParseError), effects.tree.readText path = .ok source →
      Document.parse source = .error error →
      ∃ location, (LineIndex.ofText source).find? error.span.start = some location ∧
        (job.weaveFile parse toolchain path state effects).1 =
          ⟨path, .failed (Outcome.fullMessage (.document error)) (some location)⟩ := by
  refine ⟨Document.parse_addressed hsize, fun _ hparse _ => Document.hasHeader_of_parse hparse,
    ?_, ?_⟩
  · intro error hparse
    obtain ⟨part, hpart⟩ := Document.exists_slice?_of_parse_error hsize hparse
    obtain ⟨hle, hstop⟩ := bounds_of_slice? hpart
    exact ⟨hle, hstop, ⟨part, hpart⟩, exists_start_of_slice? hpart⟩
  · intro σ job parse toolchain path state effects error hread hparse
    obtain ⟨part, hpart⟩ := Document.exists_slice?_of_parse_error hsize hparse
    obtain ⟨location, hlocation⟩ := exists_start_of_slice? hpart
    exact ⟨location, hlocation,
      Job.weaveFile_of_parse_error parse toolchain state hread hparse hlocation⟩

/-- A quote without a partner, behind characters of two and three bytes. -/
def unquotedSource : String := "é\n<docs>ü</docs>\n<script lang=\"→\n"

/-- Attributes with all that may stand between them. -/
def attributedSource : String := "→<style lang = 'scss' é/ scoped>\n  a \x7b\x7d\n</style>"

def attributedBlock : Block where
  kind := .style
  content := "\na \x7b\x7d\n"
  attributes := [⟨"lang", .text "scss", ⟨10, 23⟩⟩, ⟨"é", .flag true, ⟨24, 26⟩⟩,
    ⟨"scoped", .flag true, ⟨28, 34⟩⟩]
  span := ⟨3, 51⟩
  contentSpan := ⟨35, 43⟩

theorem parse_inside_source_samples :
    attributedSource.utf8ByteSize < UInt32.size ∧
    Document.parse attributedSource = .ok { blocks := [attributedBlock] } ∧
    Document.HasHeader attributedSource attributedBlock ∧
    unquotedSource.utf8ByteSize < UInt32.size ∧
    (∃ error, Document.parse unquotedSource = .error error ∧
      Document.Addressed.parse unquotedSource true = .error (.error error) ∧
      error.span.slice? unquotedSource = some "\"→\n") ∧
    ∃ message, Job.sampleReport "" unquotedSource =
      ⟨Job.samplePath, .failed message (some ⟨2, 13⟩)⟩ := by
  have hattributed : attributedSource.utf8ByteSize < UInt32.size := by decide +kernel
  have hunquoted : unquotedSource.utf8ByteSize < UInt32.size := by decide +kernel
  have hread : Document.parse attributedSource = .ok { blocks := [attributedBlock] } :=
    Except.mem_toOption_iff.mp (by decide +kernel)
  have hunread : Document.parse unquotedSource =
      .error ⟨.unexpectedToken .attributeValue .invalid, ⟨32, 37⟩⟩ :=
    Except.error?_eq_some_iff.mp (by decide +kernel)
  obtain ⟨-, hheaders, -, -⟩ := parse_inside_source attributedSource true hattributed
  obtain ⟨haddressed, -, -, hreport⟩ := parse_inside_source unquotedSource true hunquoted
  obtain ⟨location, hlocation, hfailed⟩ := hreport Unit Job.sampleJob Script.parse
    (constantToolchain "") Job.samplePath () (Job.sampleEffects unquotedSource) _
    (Job.readText_sampleEffects unquotedSource) hunread
  obtain rfl : ⟨2, 13⟩ = location := by
    rw [← Option.some_inj, ← hlocation]
    decide +kernel
  rw [hunread] at haddressed
  exact ⟨hattributed, hread, hheaders _ hread _ (by decide), hunquoted,
    ⟨_, hunread, haddressed, by decide +kernel⟩, _, hfailed⟩

end SfcWeave
