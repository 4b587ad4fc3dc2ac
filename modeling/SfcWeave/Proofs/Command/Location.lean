import SfcWeave.Command.Delivery
import SfcWeave.Proofs.Document.Position
import SfcWeave.Proofs.Text.LineIndex
import SfcWeave.Proofs.Weaving.Insertion
import SfcWeave.Script.Parser

/-!
# Where script errors are said to be

An error of a script is known by its offset in the content of the script block, which has lost its
common indentation, and is reported by its line and column in the file. Removing indentation keeps
lines as lines, so that the line is the right one (`Job.weaveFile_scriptFault_line`). The column is
that of the file on the first line of a script at most, and there it leaves out what the line has
lost (`Job.weaveFile_scriptFault_column`).
-/

namespace SfcWeave

open Script Text

variable {σ : Type} {parse : Parser} {toolchain : Toolchain σ} {options : WeavingOptions}
  {source raw part file : String} {document : Document} {block : Block} {n offset : Nat}
  {inner span : Span} {start location : LineColumn} {error : WeavingError}

/-! ### Lines of a block -/

/-- The line `n` of the content of a block, as it was written, is what the line `number` of the
source has of the content. -/
def HoldsLine (source : String) (block : Block) (n number : Nat) : Prop :=
  ∃ raw inner whole, block.contentSpan.slice? source = some raw ∧ lineSpan? raw n = some inner ∧
    lineSpan? source number = some whole ∧
    whole.inter block.contentSpan = inner.shift block.contentSpan.start

/-- The part that a line of the source has of the content of a block. -/
def partOfLine? (source : String) (block : Block) (number : Nat) : Option String :=
  (lineSpan? source number).bind fun whole => (whole.inter block.contentSpan).slice? source

/-- What a line of the source has of a content is the line as it was written. -/
theorem HoldsLine.partOfLine? {number : Nat} (h : HoldsLine source block n number)
    (hraw : block.contentSpan.slice? source = some raw) :
    ∃ line, (splitOn '\n' raw.toList)[n]? = some line ∧
      partOfLine? source block number = some (String.ofList line) := by
  obtain ⟨raw', inner, whole, hraw', hinner, hwhole, hinter⟩ := h
  obtain rfl := Option.some.inj (hraw.symm.trans hraw')
  obtain ⟨line, hline, hslice⟩ := slice?_of_lineSpan? hinner
  refine ⟨line, hline, ?_⟩
  rw [SfcWeave.partOfLine?, hwhole, Option.bind_some, hinter]
  exact Span.slice?_shift hraw hslice

/-- A line of the source holds one line of a content. -/
theorem HoldsLine.unique {m number : Nat} (hm : HoldsLine source block m number)
    (hn : HoldsLine source block n number) : m = n := by
  obtain ⟨raw, above, whole, hraw, habove, hwhole, hinter⟩ := hm
  obtain ⟨raw', below, whole', hraw', hbelow, hwhole', hinter'⟩ := hn
  obtain rfl := Option.some.inj (hraw.symm.trans hraw')
  obtain rfl := Option.some.inj (hwhole.symm.trans hwhole')
  obtain rfl := Span.shift_inj (hinter.symm.trans hinter')
  exact lineSpan?_inj habove hbelow

/-! ### The place of an offset -/

/-- The lines of a content are those that were written, without their indentation. -/
theorem exists_lineSpan?_of_deindent (h : lineSpan? (deindent raw) n = some span) :
    ∃ inner, lineSpan? raw n = some inner := by
  have hlt := exists_spanOfLine?_iff.mp ⟨span, h⟩
  rw [splitOn_deindent_eq_map, List.length_map] at hlt
  exact exists_spanOfLine?_iff.mpr hlt

/-- A script is written in the source that it was read from. -/
theorem exists_raw_of_parse (hparse : Document.parse source = .ok document)
    (hscript : document.script = some block) :
    ∃ raw, block.contentSpan.slice? source = some raw ∧ block.content = deindent raw :=
  Document.exists_slice?_contentSpan hparse (by simp [Document.toList, hscript])

/-- The content of a block starts somewhere in the source. -/
theorem exists_start_of_slice? (h : span.slice? source = some part) :
    ∃ start, (LineIndex.ofText source).find? span.start = some start := by
  obtain ⟨before, after, rfl, rfl⟩ := Span.slice?_eq_some_iff.mp h
  have hle : before.utf8ByteSize ≤ (before ++ part ++ after).utf8ByteSize := by
    rw [String.utf8ByteSize_append, String.utf8ByteSize_append]
    omega
  rw [← Option.ne_none_iff_exists', Ne, LineIndex.find?_eq_none_iff]
  exact Nat.not_lt.mpr hle

namespace Outcome

theorem scriptLocation?_eq_some_iff :
    scriptLocation? (.ofText source) block.content block.contentSpan offset = some location ↔
      ∃ inScript start, (LineIndex.ofText block.content).find? offset = some inScript ∧
        (LineIndex.ofText source).find? block.contentSpan.start = some start ∧
        location = ⟨start.line + inScript.line,
          if inScript.line = 0 then start.column + inScript.column else inScript.column⟩ := by
  simp only [scriptLocation?, bind, Option.bind_eq_some_iff, exists_and_left]
  apply exists_congr
  intro inScript
  apply and_congr_right
  intro
  apply exists_congr
  intro start
  apply and_congr_right
  intro
  split
  · next hline => simp [hline, eq_comm]
  · simp [eq_comm]

/-- An offset up to the end of a script is on a line of the file: the one that holds the line of
the script. -/
theorem exists_scriptLocation? (hraw : block.contentSpan.slice? source = some raw)
    (hcontent : block.content = deindent raw) (hn : IsLineOf block.content offset n) :
    ∃ location,
      scriptLocation? (.ofText source) block.content block.contentSpan offset = some location ∧
      HoldsLine source block n location.line := by
  obtain ⟨column, hoffset⟩ := LineIndex.exists_find?_of_isLineOf hn
  obtain ⟨start, hstart⟩ := exists_start_of_slice? hraw
  obtain ⟨span, hspan, -⟩ := hn
  rw [hcontent] at hspan
  obtain ⟨inner, hinner⟩ := exists_lineSpan?_of_deindent hspan
  obtain ⟨whole, hwhole, hinter⟩ := exists_lineSpan?_of_slice? hraw hstart hinner
  exact ⟨_, scriptLocation?_eq_some_iff.mpr ⟨_, _, hoffset, hstart, rfl⟩,
    raw, inner, whole, hraw, hinner, hwhole, hinter⟩

/-- An offset has no place exactly if it is past the end of the script. -/
theorem scriptLocation?_eq_none_iff (hraw : block.contentSpan.slice? source = some raw) :
    scriptLocation? (.ofText source) block.content block.contentSpan offset = none ↔
      block.content.utf8ByteSize < offset := by
  obtain ⟨start, hstart⟩ := exists_start_of_slice? hraw
  rw [← LineIndex.find?_eq_none_iff, ← Option.not_isSome_iff_eq_none,
    ← Option.not_isSome_iff_eq_none, Option.isSome_iff_exists, Option.isSome_iff_exists]
  apply not_congr
  constructor
  · rintro ⟨location, hlocation⟩
    obtain ⟨inScript, -, hoffset, -⟩ := scriptLocation?_eq_some_iff.mp hlocation
    exact ⟨inScript, hoffset⟩
  · rintro ⟨inScript, hoffset⟩
    exact ⟨_, scriptLocation?_eq_some_iff.mpr ⟨inScript, start, hoffset, hstart, rfl⟩⟩

/-- On the first line of a script the column leaves out what the line has lost. -/
theorem find?_of_firstLine {lost line back : List Char} {others more : List (List Char)}
    (hlocation : scriptLocation? (.ofText source) block.content block.contentSpan offset =
      some location)
    (hholds : HoldsLine source block 0 location.line)
    (hraw : block.contentSpan.slice? source = some raw)
    (hwritten : splitOn '\n' raw.toList = (lost ++ line ++ back) :: others)
    (hline : splitOn '\n' block.content.toList = line :: more)
    (hfirst : IsLineOf block.content offset 0) :
    (LineIndex.ofText source).find? (block.contentSpan.start + byteLength lost + offset) =
      some ⟨location.line, location.column + byteLength lost⟩ := by
  obtain ⟨inScript, start, hoffset, hstart, rfl⟩ := scriptLocation?_eq_some_iff.mp hlocation
  have hzero : inScript.line = 0 := (LineIndex.isLineOf_of_find? hoffset).unique hfirst
  obtain ⟨span, hspan, hcolumn, hstop⟩ := LineIndex.find?_eq_some_iff.mp hoffset
  obtain ⟨whole, hwhole, hstartColumn, -⟩ := LineIndex.find?_eq_some_iff.mp hstart
  obtain ⟨raw', inner, whole', hraw', hinner, hwhole', hinter⟩ := hholds
  -- the first line of the script, as it is and as it was written
  rw [lineSpan?, hzero, hline] at hspan
  cases hspan
  obtain rfl := Option.some.inj (hraw.symm.trans hraw')
  rw [lineSpan?, hwritten] at hinner
  cases hinner
  rw [hzero, Nat.add_zero] at hwhole'
  obtain rfl := Option.some.inj (hwhole.symm.trans hwhole')
  have hend := congrArg Span.stop hinter
  simp only [Span.inter, Span.shift_stop, byteLength_append] at hend
  simp only [hzero, if_true, Nat.add_zero]
  refine LineIndex.find?_eq_some_iff.mpr ⟨whole, hwhole, ?_, ?_⟩
  · simp only at hcolumn hstartColumn ⊢
    omega
  · simp only at hstop ⊢
    omega

/-- An error about a part of the script is placed by the offset of the part. -/
theorem errorLocation?_of_scriptSpan? (hparse : Document.parse source = .ok document)
    (hscript : document.script = some block) (hspan : error.scriptSpan? = some span) :
    errorLocation? source error =
      scriptLocation? (.ofText source) block.content block.contentSpan span.start := by
  cases error with
  | document => cases hspan
  | _ => simp [errorLocation?, hspan, hparse, hscript, Except.toOption]

end Outcome

/-! ### Errors of a script as it is -/

theorem Weavable.block_eq {template template' block' : Block}
    (h : Weavable options document template block)
    (h' : Weavable options document template' block') : block' = block :=
  Option.some.inj (h'.script.symm.trans h.script)

namespace Weaves

variable {template : Block} {session : Session σ}
  {ending : Except WeavingError (Document × Injection) × Session σ}

/-- A script that cannot be read is reported as such. -/
theorem result_of_syntaxError (h : Weaves parse toolchain options file document session ending)
    (hweavable : Weavable options document template block) {cause : SyntaxError}
    (hcause : parse block.content = .error cause) :
    ending.1 = .error (.scriptSyntax file cause) := by
  have hunread : ∀ script : Snapshot parse, script.text ≠ block.content := by
    intro script htext
    have hread := script.parsed
    rw [htext, hcause] at hread
    cases hread
  cases h with
  | untyped huntyped => exact absurd huntyped (by simp [hweavable.typed])
  | noTemplate _ hnone => exact absurd hnone (by simp [hweavable.template])
  | syntaxError hother hcause' =>
    obtain rfl := hweavable.block_eq hother
    cases hcause.symm.trans hcause'
    rfl
  | alreadyWoven hother htext =>
    obtain rfl := hweavable.block_eq hother
    exact absurd htext (hunread _)
  | noComponent hother hfinds | unnamedClass hother hfinds | compilerError hother hfinds
  | problems hother hfinds | loweringError hother hfinds | editError hother hfinds
  | woven hother hfinds =>
    obtain rfl := hweavable.block_eq hother
    exact absurd hfinds.text (hunread _)

/-- A script whose component is a class without a name is reported as such. -/
theorem result_of_unnamedClass (h : Weaves parse toolchain options file document session ending)
    (hweavable : Weavable options document template block) {script : Snapshot parse} {span : Span}
    (hfinds : Finds options file block script (some (.unnamedClass span))) :
    ending.1 = .error (.unnamedClass file span) := by
  -- there is one script of this text, and one component that comes first in it
  have hfirst : ∀ {first : Option Candidate} {other : Snapshot parse},
      Finds options file block other first → first = some (.unnamedClass span) := by
    intro first other hother
    obtain rfl := Snapshot.eq_of_text_eq (hother.text.trans hfinds.text.symm)
    exact hother.first.symm.trans hfinds.first
  cases h with
  | untyped huntyped => exact absurd huntyped (by simp [hweavable.typed])
  | noTemplate _ hnone => exact absurd hnone (by simp [hweavable.template])
  | syntaxError hother hcause =>
    obtain rfl := hweavable.block_eq hother
    have hread := script.parsed
    rw [hfinds.text, hcause] at hread
    cases hread
  | alreadyWoven hother htext himports =>
    obtain rfl := hweavable.block_eq hother
    obtain rfl := Snapshot.eq_of_text_eq (htext.trans hfinds.text.symm)
    exact absurd himports (by simp [hfinds.fresh])
  | unnamedClass hother hfinds' =>
    obtain rfl := hweavable.block_eq hother
    cases hfirst hfinds'
    rfl
  | noComponent hother hfinds' | compilerError hother hfinds' | problems hother hfinds'
  | loweringError hother hfinds' | editError hother hfinds' | woven hother hfinds' =>
    obtain rfl := hweavable.block_eq hother
    cases hfirst hfinds'

end Weaves

/-- A source whose script is refused before anything is put into it, and the offset in the script
that the error is about: the script is no script at all, or its component is a class without a
name. -/
inductive ScriptFault (parse : Parser) (options : WeavingOptions) (file source : String)
    (block : Block) : (offset : Nat) → Prop
  | syntaxError {document template cause} : Document.parse source = .ok document →
      Weavable options document template block → parse block.content = .error cause →
      ScriptFault parse options file source block cause.span.start
  | unnamedClass {document template span} {script : Snapshot parse} :
      Document.parse source = .ok document → Weavable options document template block →
      Finds options file block script (some (.unnamedClass span)) →
      ScriptFault parse options file source block span.start

namespace ScriptFault

theorem exists_parse (h : ScriptFault parse options file source block offset) :
    ∃ document, Document.parse source = .ok document ∧ document.script = some block := by
  cases h with
  | syntaxError hparse hweavable => exact ⟨_, hparse, hweavable.script⟩
  | unnamedClass hparse hweavable => exact ⟨_, hparse, hweavable.script⟩

/-- Weaving ends with the fault, in whatever state the toolchain is. -/
theorem exists_run_weave (h : ScriptFault parse options file source block offset)
    (toolchain : Toolchain σ) (session : Session σ) :
    ∃ error span next,
      (weave parse toolchain options file source).run.run session = (.error error, next) ∧
      error.scriptSpan? = some span ∧ span.start = offset := by
  have hresult : ∃ document error span, Document.parse source = .ok document ∧
      ((weaveDocument parse toolchain options file document).run.run session).1 = .error error ∧
      error.scriptSpan? = some span ∧ span.start = offset := by
    cases h with
    | @syntaxError document _ cause hparse hweavable hcause =>
      have hends := weaves_run parse toolchain options file document session
      exact ⟨document, .scriptSyntax file cause, cause.span, hparse,
        hends.result_of_syntaxError hweavable hcause, rfl, rfl⟩
    | @unnamedClass document _ span _ hparse hweavable hfinds =>
      have hends := weaves_run parse toolchain options file document session
      exact ⟨document, .unnamedClass file span, span, hparse,
        hends.result_of_unnamedClass hweavable hfinds, rfl, rfl⟩
  obtain ⟨document, error, span, hparse, herror, hspan, hoffset⟩ := hresult
  obtain ⟨next, hrun⟩ := exists_run_weave_of_error hparse herror
  exact ⟨error, span, next, hrun, hspan, hoffset⟩

end ScriptFault

namespace Job

variable {job : Job} {path : Path} {state : σ} {effects : Effects}

/-- The report on a source that cannot be woven. -/
theorem weaveFile_of_error {next : Session σ} (hread : effects.tree.readText path = .ok source)
    (hrun : (weave parse toolchain job.options path.text source).run.run { toolchain := state } =
      (.error error, next)) :
    (job.weaveFile parse toolchain path state effects).1 = ⟨path, .ofError source error⟩ := by
  have hrun' : (weave parse toolchain job.options path.text source).run
      { toolchain := state } = (.error error, next) := hrun
  simp only [weaveFile, hread, hrun']

/-- The report on a file whose script is refused as it is: the fault is placed by its offset. -/
theorem exists_weaveFile_of_scriptFault (toolchain : Toolchain σ) (state : σ)
    (hread : effects.tree.readText path = .ok source)
    (h : ScriptFault parse job.options path.text source block offset)
    (hn : IsLineOf block.content offset n) :
    ∃ message location,
      (job.weaveFile parse toolchain path state effects).1 =
        ⟨path, .failed message (some location)⟩ ∧
      Outcome.scriptLocation? (.ofText source) block.content block.contentSpan offset =
        some location ∧
      HoldsLine source block n location.line := by
  obtain ⟨document, hparse, hscript⟩ := h.exists_parse
  obtain ⟨raw, hraw, hcontent⟩ := exists_raw_of_parse hparse hscript
  obtain ⟨error, span, next, hrun, hspan, rfl⟩ :=
    h.exists_run_weave toolchain { toolchain := state }
  obtain ⟨location, hlocation, hline⟩ := Outcome.exists_scriptLocation? hraw hcontent hn
  refine ⟨Outcome.fullMessage error, location, ?_, hlocation, hline⟩
  rw [weaveFile_of_error hread hrun, Outcome.ofError,
    Outcome.errorLocation?_of_scriptSpan? hparse hscript hspan, hlocation]

/-- A fault of a script is reported on a line, up to the end of the script: on the line of the file
that holds the line of the script with the fault. What the script has there is the end of what the
file has there of the script, but for a carriage return. -/
theorem weaveFile_scriptFault_line (toolchain : Toolchain σ) (state : σ)
    (hread : effects.tree.readText path = .ok source)
    (h : ScriptFault parse job.options path.text source block offset)
    (hoffset : offset ≤ block.content.utf8ByteSize) :
    ∃ message location n line part,
      (job.weaveFile parse toolchain path state effects).1 =
        ⟨path, .failed message (some location)⟩ ∧
      IsLineOf block.content offset n ∧ lineText? block.content n = some line ∧
      HoldsLine source block n location.line ∧
      partOfLine? source block location.line = some part ∧
      (line.toList <:+ part.toList ∨ line.toList ++ ['\r'] <:+ part.toList) := by
  obtain ⟨n, hn⟩ := exists_isLineOf hoffset
  obtain ⟨message, location, hreport, -, hholds⟩ :=
    exists_weaveFile_of_scriptFault toolchain state hread h hn
  obtain ⟨document, hparse, hscript⟩ := h.exists_parse
  obtain ⟨raw, hraw, hcontent⟩ := exists_raw_of_parse hparse hscript
  obtain ⟨span, hspan, -⟩ := id hn
  obtain ⟨line, hline, hslice⟩ := slice?_of_lineSpan? hspan
  obtain ⟨written, hwritten, hpart⟩ := hholds.partOfLine? hraw
  -- the line of the script is the one that was written, cut at both ends
  have hcut : line = cutLine (commonIndent? (lines raw.toList)) written := by
    rw [hcontent, splitOn_deindent_eq_map, List.getElem?_map, hwritten] at hline
    exact (Option.some.inj hline).symm
  obtain ⟨back, heq, hback⟩ := exists_cutLine (commonIndent? (lines raw.toList)) written
  rw [← hcut, List.append_assoc] at heq
  refine ⟨message, location, n, String.ofList line, String.ofList written, hreport, hn, ?_, hholds,
    hpart, ?_⟩
  · rw [lineText?, hspan, Option.bind_some, hslice]
  · rw [String.toList_ofList, String.toList_ofList]
    rcases hback with rfl | rfl
    · exact .inl ⟨_, by rw [heq, List.append_nil]⟩
    · exact .inr ⟨_, heq.symm⟩

/-- What comes first in a script. -/
theorem exists_finds_of_ofText (parse : Parser) (options : WeavingOptions) (file : String)
    (block : Block) (first : Option Candidate)
    (h : (Snapshot.ofText parse block.content).toOption.map (fun script =>
      (script.importsFrom options.runtimeModule, (locate file script).first)) =
        some (false, first)) :
    ∃ script : Snapshot parse, Finds options file block script first := by
  obtain ⟨script, hscript, heq⟩ := Option.map_eq_some_iff.mp h
  obtain ⟨hfresh, hfirst⟩ := Prod.mk.inj heq
  exact ⟨script, Snapshot.ofText_eq_ok_iff.mp (Except.mem_toOption_iff.mp hscript), hfresh, hfirst⟩

/-- A job for the files at the root, and the only one of them. -/
def sampleJob : Job where
  workspace := .ofText "/"

def samplePath : Path := .ofText "/A.vue"

def sampleEffects (source : String) : Effects where
  tree := ⟨[(["A.vue"], .file (.text source))]⟩

theorem readText_sampleEffects (source : String) :
    (sampleEffects source).tree.readText samplePath = .ok source := by
  have hpieces : samplePath = ⟨.root, ["A.vue"]⟩ := by decide +kernel
  rw [hpieces]
  rfl

/-- The report on a source, when its template is compiled to `body`. -/
def sampleReport (body source : String) : Report :=
  (sampleJob.weaveFile Script.parse (constantToolchain body) samplePath ()
    (sampleEffects source)).1

/-- What a source is read as that starts with an empty template, and goes on with a script. -/
def sampleDocument (script : Block) : Document where
  template := some { kind := .template, content := "", span := ⟨0, 11⟩, contentSpan := ⟨11, 11⟩ }
  script := some script

theorem exists_weavable_sampleDocument (block : Block)
    (h : block.lang? = some sampleJob.options.typedLang) :
    ∃ template, Weavable sampleJob.options (sampleDocument block) template block :=
  ⟨_, by simp [Document.hasTypedScript, sampleDocument, h], rfl, rfl⟩

/-- The report on a sample is put together from what its source is read as, how weaving it ends, and
where the script has the error. -/
theorem sampleReport_eq (body : String) (error : WeavingError) {location? : Option LineColumn}
    (hparse : Document.parse source = .ok (sampleDocument block))
    (hdocument : ((weaveDocument Script.parse (constantToolchain body) sampleJob.options
      samplePath.text (sampleDocument block)).run.run { toolchain := () }).1.error? = some error)
    (hspan : error.scriptSpan? = some span)
    (hlocation : Outcome.scriptLocation? (.ofText source) block.content block.contentSpan
      span.start = location?) :
    sampleReport body source = ⟨samplePath, .failed (Outcome.fullMessage error) location?⟩ := by
  obtain ⟨next, hrun⟩ :=
    exists_run_weave_of_error hparse (Except.error?_eq_some_iff.mp hdocument)
  rw [sampleReport, weaveFile_of_error (readText_sampleEffects source) hrun, Outcome.ofError,
    Outcome.errorLocation?_of_scriptSpan? hparse rfl hspan, hlocation]

/-- A script with lines that are indented in several ways, with blank ones and with carriage
returns. -/
def mixedSource : String :=
  "<template/>\r\n<script lang=\"ts\">\r\n    let a\r\n\t \r\n  let b = ;\r\n</script>"

def mixedScript : Block where
  kind := .script
  content := "\n  let a\n\nlet b = ;\n"
  attributes := [⟨"lang", .text "ts", ⟨21, 30⟩⟩]
  span := ⟨13, 70⟩
  contentSpan := ⟨31, 61⟩

theorem weaveFile_scriptFault_line_mixedSource :
    ScriptFault Script.parse sampleJob.options samplePath.text mixedSource mixedScript 18 ∧
    18 ≤ mixedScript.content.utf8ByteSize ∧
    (∃ message, sampleReport "b()" mixedSource = ⟨samplePath, .failed message (some ⟨4, 8⟩)⟩) ∧
    lineText? mixedScript.content 3 = some "let b = ;" ∧ HoldsLine mixedSource mixedScript 3 4 ∧
    partOfLine? mixedSource mixedScript 4 = some "  let b = ;\r" := by
  have hparse : Document.parse mixedSource = .ok (sampleDocument mixedScript) :=
    Except.mem_toOption_iff.mp (by decide +kernel)
  have hcause : Script.parse mixedScript.content = .error ⟨.unexpectedToken, ⟨18, 19⟩⟩ :=
    Except.error?_eq_some_iff.mp (by decide +kernel)
  obtain ⟨template, hweavable⟩ := exists_weavable_sampleDocument mixedScript rfl
  have hfault : ScriptFault Script.parse sampleJob.options samplePath.text mixedSource mixedScript
      18 := .syntaxError hparse hweavable hcause
  have hsize : 18 ≤ mixedScript.content.utf8ByteSize := by decide +kernel
  obtain ⟨message, location, n, line, part, hreport, hn, hline, hholds, hpart, -⟩ :=
    weaveFile_scriptFault_line (constantToolchain "b()") () (readText_sampleEffects mixedSource)
      hfault hsize
  obtain rfl : n = 3 := hn.unique ⟨⟨10, 19⟩, by decide +kernel, by decide, by decide⟩
  have hlocation : Outcome.scriptLocation? (.ofText mixedSource) mixedScript.content
      mixedScript.contentSpan 18 = some ⟨4, 8⟩ := by
    decide +kernel
  have hplaced := sampleReport_eq "b()" (.scriptSyntax samplePath.text ⟨.unexpectedToken, ⟨18, 19⟩⟩)
    hparse (by decide +kernel) rfl hlocation
  cases hreport.symm.trans hplaced
  exact ⟨hfault, hsize, ⟨_, hplaced⟩, by decide +kernel, hholds, by decide +kernel⟩

/-- A fault on the first line of a script is reported in the column that it has in the file when
the indentation that the line has lost is left out; the column is right exactly if the line has lost
none. -/
theorem weaveFile_scriptFault_column (toolchain : Toolchain σ) (state : σ)
    (hread : effects.tree.readText path = .ok source)
    (h : ScriptFault parse job.options path.text source block offset)
    (hfirst : IsLineOf block.content offset 0) :
    ∃ message location raw lost line ending,
      (job.weaveFile parse toolchain path state effects).1 =
        ⟨path, .failed message (some location)⟩ ∧
      block.contentSpan.slice? source = some raw ∧
      (splitOn '\n' raw.toList).head? = some (lost ++ line ++ ending) ∧
      lost = lostIndent (commonIndent? (lines raw.toList)) (lost ++ line ++ ending) ∧
      (ending = [] ∨ ending = ['\r']) ∧
      (splitOn '\n' block.content.toList).head? = some line ∧
      (LineIndex.ofText source).find? (block.contentSpan.start + byteLength lost + offset) =
        some ⟨location.line, location.column + byteLength lost⟩ ∧
      ((LineIndex.ofText source).find? (block.contentSpan.start + byteLength lost + offset) =
        some location ↔ lost = []) := by
  obtain ⟨message, location, hreport, hlocation, hholds⟩ :=
    exists_weaveFile_of_scriptFault toolchain state hread h hfirst
  obtain ⟨document, hparse, hscript⟩ := h.exists_parse
  obtain ⟨raw, hraw, hcontent⟩ := exists_raw_of_parse hparse hscript
  obtain ⟨written, others, hlines⟩ :=
    List.exists_cons_of_ne_nil (splitOn_ne_nil '\n' raw.toList)
  obtain ⟨ending, heq, hending⟩ := exists_cutLine (commonIndent? (lines raw.toList)) written
  generalize hlost : lostIndent (commonIndent? (lines raw.toList)) written = lost at heq
  generalize hline : cutLine (commonIndent? (lines raw.toList)) written = line at heq
  have hcut : splitOn '\n' block.content.toList =
      line :: others.map (cutLine (commonIndent? (lines raw.toList))) := by
    rw [hcontent, splitOn_deindent_eq_map, hlines, List.map_cons, hline]
  rw [heq] at hlines
  have hplace := Outcome.find?_of_firstLine hlocation hholds hraw hlines hcut hfirst
  refine ⟨message, location, raw, lost, line, ending, hreport, hraw, by rw [hlines]; rfl,
    by rw [← heq, hlost], hending, by rw [hcut]; rfl, hplace, ?_⟩
  rw [hplace, Option.some_inj]
  constructor
  · intro hsame
    have hcolumn : location.column + byteLength lost = location.column :=
      congrArg LineColumn.column hsame
    have hlength := length_le_byteLength lost
    exact List.length_eq_zero_iff.mp (by omega)
  · rintro rfl
    rfl

/-- A first line that is indented, before one that is not. -/
def settledSource : String :=
  "<template/>\n<script lang=\"ts\"> export default class \x7b\x7d\r\nlet x = 1</script>"

def settledScript : Block where
  kind := .script
  content := " export default class \x7b\x7d\nlet x = 1"
  attributes := [⟨"lang", .text "ts", ⟨20, 29⟩⟩]
  span := ⟨12, 74⟩
  contentSpan := ⟨30, 65⟩

theorem weaveFile_scriptFault_column_settledSource :
    ScriptFault Script.parse sampleJob.options samplePath.text settledSource settledScript 16 ∧
    IsLineOf settledScript.content 16 0 ∧
    ∃ message location, sampleReport "b()" settledSource =
        ⟨samplePath, .failed message (some location)⟩ ∧
      (LineIndex.ofText settledSource).find? (settledScript.contentSpan.start + 16) =
        some location := by
  have hparse : Document.parse settledSource = .ok (sampleDocument settledScript) :=
    Except.mem_toOption_iff.mp (by decide +kernel)
  obtain ⟨template, hweavable⟩ := exists_weavable_sampleDocument settledScript rfl
  obtain ⟨script, hfinds⟩ :=
    exists_finds_of_ofText Script.parse sampleJob.options samplePath.text settledScript
      (some (.unnamedClass ⟨16, 24⟩)) (by decide +kernel)
  have hfault : ScriptFault Script.parse sampleJob.options samplePath.text settledSource
      settledScript 16 := .unnamedClass hparse hweavable hfinds
  have hfirst : IsLineOf settledScript.content 16 0 :=
    ⟨⟨0, 24⟩, by decide +kernel, by decide, by decide⟩
  obtain ⟨message, location, raw, lost, line, ending, hreport, hraw, hwritten, hlost, -, -, -,
    hexact⟩ := weaveFile_scriptFault_column (constantToolchain "b()") ()
      (readText_sampleEffects settledSource) hfault hfirst
  have hindent : (settledScript.contentSpan.slice? settledSource).map
      (fun raw => commonIndent? (lines raw.toList)) = some (some 0) := by
    decide +kernel
  rw [hraw, Option.map_some, Option.some_inj] at hindent
  rw [hindent] at hlost
  obtain rfl : lost = [] := hlost
  exact ⟨hfault, hfirst, message, location, hreport, hexact.mpr rfl⟩

/-- A script on the line of its tag, behind two spaces. -/
def indentedSource : String :=
  "<template/>\n<script lang=\"ts\">  export default class \x7b\x7d</script>"

def indentedScript : Block where
  kind := .script
  content := "export default class \x7b\x7d"
  attributes := [⟨"lang", .text "ts", ⟨20, 29⟩⟩]
  span := ⟨12, 64⟩
  contentSpan := ⟨30, 55⟩

/-- The class stands behind the two spaces that the script has lost, and is reported two columns in
front of its place. -/
theorem weaveFile_column_indented :
    ScriptFault Script.parse sampleJob.options samplePath.text indentedSource indentedScript 15 ∧
    IsLineOf indentedScript.content 15 0 ∧
    indentedScript.contentSpan.slice? indentedSource =
      some ("  " ++ indentedScript.content) ∧
    sampleReport "b()" indentedSource = ⟨samplePath,
      .failed (Outcome.fullMessage (.unnamedClass samplePath.text ⟨15, 23⟩)) (some ⟨1, 33⟩)⟩ ∧
    (LineIndex.ofText indentedSource).find?
      (indentedScript.contentSpan.start + "  ".utf8ByteSize + 15) = some ⟨1, 35⟩ := by
  have hparse : Document.parse indentedSource = .ok (sampleDocument indentedScript) :=
    Except.mem_toOption_iff.mp (by decide +kernel)
  obtain ⟨template, hweavable⟩ := exists_weavable_sampleDocument indentedScript rfl
  obtain ⟨script, hfinds⟩ :=
    exists_finds_of_ofText Script.parse sampleJob.options samplePath.text indentedScript
      (some (.unnamedClass ⟨15, 23⟩)) (by decide +kernel)
  have hlocation : Outcome.scriptLocation? (.ofText indentedSource) indentedScript.content
      indentedScript.contentSpan 15 = some ⟨1, 33⟩ := by
    decide +kernel
  have hreport := sampleReport_eq "b()" (.unnamedClass samplePath.text ⟨15, 23⟩) hparse
    (by decide +kernel) rfl hlocation
  exact ⟨.unnamedClass hparse hweavable hfinds, ⟨⟨0, 23⟩, by decide +kernel, by decide, by decide⟩,
    by decide +kernel, hreport, by decide +kernel⟩

end Job

end SfcWeave
