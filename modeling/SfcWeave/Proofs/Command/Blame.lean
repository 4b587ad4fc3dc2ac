import SfcWeave.Proofs.Command.Location
import SfcWeave.Proofs.Weaving.Splicing

/-!
# What is blamed for errors in inserted text

A script with insertions that is refused is reported at the offset of the error in the text with the
insertions, read as an offset in the script as it was. Past the end of the script there is no place
for it, and none is reported; before, the line that is reported is the right one only if the
insertions in front do not move the offset to another line (`Job.weaveFile_spliceError`).
-/

namespace SfcWeave

open Script Text

variable {σ : Type} {parse : Parser} {source raw : String} {document : Document} {block : Block}
  {fragments : List Fragment} {offset : Nat} {location : LineColumn} {cause : SyntaxError}

/-- The script is rightly blamed for what is wrong at an offset of the text with insertions: no
location is given, or it is the line of the file that holds the character of the script which the
offset stands for. -/
def BlamesOrigin (source : String) (block : Block) (fragments : List Fragment) (offset : Nat)
    (location? : Option LineColumn) : Prop :=
  ∀ location ∈ location?, ∃ origin n, Fragment.origin? fragments offset = some origin ∧
    IsLineOf block.content origin n ∧ HoldsLine source block n location.line

theorem exists_holdsLine_of_scriptLocation? (hraw : block.contentSpan.slice? source = some raw)
    (hcontent : block.content = deindent raw)
    (h : Outcome.scriptLocation? (.ofText source) block.content block.contentSpan offset =
      some location) :
    ∃ n, IsLineOf block.content offset n ∧ HoldsLine source block n location.line := by
  obtain ⟨inScript, -, hoffset, -⟩ := Outcome.scriptLocation?_eq_some_iff.mp h
  have hn := LineIndex.isLineOf_of_find? hoffset
  obtain ⟨location', hlocation', hholds⟩ := Outcome.exists_scriptLocation? hraw hcontent hn
  obtain rfl := Option.some.inj (h.symm.trans hlocation')
  exact ⟨inScript.line, hn, hholds⟩

/-- The place of an offset of a script is that of an offset with insertions if the insertions do not
move it to another line. -/
theorem blamesOrigin_iff (hraw : block.contentSpan.slice? source = some raw)
    (hcontent : block.content = deindent raw) :
    BlamesOrigin source block fragments offset
        (Outcome.scriptLocation? (.ofText source) block.content block.contentSpan offset) ↔
      Outcome.scriptLocation? (.ofText source) block.content block.contentSpan offset = none ∨
        ∃ origin n, Fragment.origin? fragments offset = some origin ∧
          IsLineOf block.content origin n ∧ IsLineOf block.content offset n := by
  rcases hlocation :
    Outcome.scriptLocation? (.ofText source) block.content block.contentSpan offset
    with _ | location
  · simp [BlamesOrigin]
  · obtain ⟨m, hm, hholds⟩ := exists_holdsLine_of_scriptLocation? hraw hcontent hlocation
    simp only [BlamesOrigin, Option.mem_some_iff, forall_eq', reduceCtorEq, false_or]
    constructor
    · rintro ⟨origin, n, horigin, hn, hholds'⟩
      obtain rfl := hholds.unique hholds'
      exact ⟨origin, m, horigin, hn, hm⟩
    · rintro ⟨origin, n, horigin, hn, hoffset⟩
      obtain rfl := hm.unique hoffset
      exact ⟨origin, m, horigin, hn, hholds⟩

/-- What is known when the script of a document is edited: its component, and the functions that the
toolchain has made for it. -/
def Prepares (parse : Parser) (toolchain : Toolchain σ) (options : WeavingOptions) (file : String)
    (document : Document) (state : σ) (block : Block) (target : Target)
    (functions : RenderFunctions) : Prop :=
  ∃ template compiled between last, ∃ script : Snapshot parse,
    Weavable options document template block ∧
    Finds options file block script (some (.component target)) ∧
    toolchain.compile template.content state = (.ok (.compiled compiled), between) ∧
    (RenderFunctions.ofCompiled toolchain compiled).run.run between = (.ok functions, last)

/-- If a script is accepted as it is, then a syntax error is one of the script with insertions. -/
theorem Weaves.exists_splicing {toolchain : Toolchain σ} {options : WeavingOptions} {file : String}
    {session next : Session σ} {module : Module}
    (h : Weaves parse toolchain options file document session
      (.error (.scriptSyntax file cause), next))
    (hscript : document.script = some block) (hmodule : parse block.content = .ok module) :
    ∃ target functions fragments,
      Prepares parse toolchain options file document session.toolchain block target functions ∧
      Splicing options functions block.content target fragments ∧
      parse (Fragment.join fragments) = .error cause := by
  generalize herror : WeavingError.scriptSyntax file cause = error at h
  cases h with
  | syntaxError hweavable hcause =>
    obtain rfl := Option.some.inj (hscript.symm.trans hweavable.script)
    rw [hmodule] at hcause
    cases hcause
  | @loweringError _ _ _ compiled _ _ _ _ _ _ _ hlower =>
    rcases FailsWith.ofCompiled toolchain compiled _ _ _ hlower with ⟨_, rfl⟩ | ⟨_, rfl⟩
    · cases herror
    · cases herror
  | @editError template _ target compiled between functions last error script hweavable hfinds
      hcompile hlower hedit =>
    obtain rfl := Option.some.inj (hscript.symm.trans hweavable.script)
    cases error with
    | invalidSpan => cases herror
    | syntaxError error =>
      cases herror
      obtain ⟨fragments, hsplicing, hrefused⟩ := exists_splicing_of_error hedit
      rw [hfinds.text] at hsplicing
      exact ⟨target, functions, fragments,
        ⟨template, compiled, between, last, script, hweavable, hfinds, hcompile, hlower⟩,
        hsplicing, hrefused⟩
  | alreadyWoven | unnamedClass | compilerError => cases herror

namespace Job

variable {job : Job} {path : Path} {effects : Effects}

/-- A script with insertions that is refused is reported on the line that the script itself has at
the offset of the error, and without a location past the end of the script. Without the insertions
in front of it the offset is that of the same character in the script. So the script is rightly
blamed exactly if no location is given, or if that offset is on the same line. -/
theorem weaveFile_spliceError (toolchain : Toolchain σ) (state : σ)
    (hread : effects.tree.readText path = .ok source)
    (hparse : Document.parse source = .ok document) (hscript : document.script = some block)
    {module : Module} (hmodule : parse block.content = .ok module) {next : Session σ}
    (hrun : (weave parse toolchain job.options path.text source).run.run { toolchain := state } =
      (.error (.scriptSyntax path.text cause), next)) :
    ∃ target functions fragments location?,
      Prepares parse toolchain job.options path.text document state block target functions ∧
      Splicing job.options functions block.content target fragments ∧
      Fragment.original fragments = block.content ∧
      parse (Fragment.join fragments) = .error cause ∧
      (job.weaveFile parse toolchain path state effects).1 = ⟨path,
        .failed (Outcome.fullMessage (.scriptSyntax path.text cause)) location?⟩ ∧
      (location? = none ↔ block.content.utf8ByteSize < cause.span.start) ∧
      (∀ location ∈ location?, ∃ n, IsLineOf block.content cause.span.start n ∧
        HoldsLine source block n location.line) ∧
      (∀ origin ∈ Fragment.origin? fragments cause.span.start,
        Fragment.StoodAt fragments cause.span.start origin) ∧
      (BlamesOrigin source block fragments cause.span.start location? ↔
        location? = none ∨ ∃ origin n,
          Fragment.origin? fragments cause.span.start = some origin ∧
          IsLineOf block.content origin n ∧ IsLineOf block.content cause.span.start n) := by
  obtain ⟨raw, hraw, hcontent⟩ := exists_raw_of_parse hparse hscript
  have hends := weaves_of_run_weave hparse hrun
  obtain ⟨target, functions, fragments, hprepares, hsplicing, hrefused⟩ :=
    hends.exists_splicing hscript hmodule
  have hlocation : Outcome.errorLocation? source (.scriptSyntax path.text cause) =
      Outcome.scriptLocation? (.ofText source) block.content block.contentSpan cause.span.start :=
    Outcome.errorLocation?_of_scriptSpan? hparse hscript rfl
  refine ⟨target, functions, fragments, _, hprepares, hsplicing, hsplicing.original, hrefused, ?_,
    Outcome.scriptLocation?_eq_none_iff hraw,
    fun location h => exists_holdsLine_of_scriptLocation? hraw hcontent h,
    fun origin h => Fragment.stoodAt_of_origin? h, blamesOrigin_iff hraw hcontent⟩
  rw [weaveFile_of_error hread hrun, Outcome.ofError, hlocation]

/-- A component with a comment that ends the one which the functions open. -/
def remarkSource : String :=
  "<template/><script lang=\"ts\">export default f(\x7b/**/\x7d)" ++
    "// longer than the insertion, which is long itself</script>"

def remarkScript : Block where
  kind := .script
  content := "export default f(\x7b/**/\x7d)// longer than the insertion, which is long itself"
  attributes := [⟨"lang", .text "ts", ⟨19, 28⟩⟩]
  span := ⟨11, 112⟩
  contentSpan := ⟨29, 103⟩

theorem weaveFile_spliceError_remarkSource :
    ∃ fragments message location, Fragment.original fragments = remarkScript.content ∧
      Script.parse (Fragment.join fragments) = .error ⟨.unexpectedToken, ⟨74, 75⟩⟩ ∧
      Fragment.origin? fragments 74 = some 23 ∧
      sampleReport "/*" remarkSource = ⟨samplePath, .failed message (some location)⟩ ∧
      BlamesOrigin remarkSource remarkScript fragments 74 (some location) := by
  have hparse : Document.parse remarkSource = .ok (sampleDocument remarkScript) :=
    Except.mem_toOption_iff.mp (by decide +kernel)
  obtain ⟨script, hfinds⟩ :=
    exists_finds_of_ofText Script.parse sampleJob.options samplePath.text remarkScript
      (some (.component (.options ⟨17, 23⟩))) (by decide +kernel)
  have hmodule : Script.parse remarkScript.content = .ok script.module :=
    hfinds.text ▸ script.parsed
  obtain ⟨next, hrun⟩ : ∃ next,
      (weave Script.parse (constantToolchain "/*") sampleJob.options samplePath.text
        remarkSource).run.run { toolchain := () } =
          (.error (.scriptSyntax samplePath.text ⟨.unexpectedToken, ⟨74, 75⟩⟩), next) :=
    exists_run_weave_of_error hparse (Except.error?_eq_some_iff.mp (by decide +kernel))
  obtain ⟨target, functions, fragments, location?, hprepares, hsplicing, horiginal, hrefused,
    hreport, hnone, -, -, hblames⟩ := weaveFile_spliceError (constantToolchain "/*") ()
      (readText_sampleEffects remarkSource) hparse rfl hmodule hrun
  obtain ⟨template, compiled, between, last, script', -, hfinds', hcompile, hlower⟩ := hprepares
  -- the component and the functions are those of the sample
  obtain rfl := Snapshot.eq_of_text_eq (hfinds'.text.trans hfinds.text.symm)
  cases hfinds'.first.symm.trans hfinds.first
  cases hcompile
  have hfunctions : ((RenderFunctions.ofCompiled (constantToolchain "/*") ⟨"/*", []⟩).run.run
      ()).1.toOption = some ⟨"/*", []⟩ := by
    decide +kernel
  rw [hlower] at hfunctions
  cases hfunctions
  have hsize : remarkScript.content.utf8ByteSize = 74 := by decide +kernel
  have hsome : location? ≠ none := by
    rw [Ne, hnone, hsize]
    decide
  obtain ⟨location, rfl⟩ := Option.ne_none_iff_exists'.mp hsome
  cases hsplicing with
  | @members _ before after htext hbrace =>
    have hbefore : before.utf8ByteSize = 18 := hbrace
    have hafter : after.utf8ByteSize = 56 := by
      have htotal := congrArg String.utf8ByteSize htext
      rw [String.utf8ByteSize_append, hbefore, hsize] at htotal
      omega
    have hmembers : (RenderFunctions.mk "/*" []).optionMembers.utf8ByteSize = 51 := by
      decide +kernel
    have horigin : Fragment.origin? [.kept before,
        .added (RenderFunctions.mk "/*" []).optionMembers, .kept after] 74 = some 23 := by
      simp [Fragment.origin?, hbefore, hafter, hmembers]
    have hline : ∀ offset ≤ 74, IsLineOf remarkScript.content offset 0 := fun offset h =>
      ⟨⟨0, 74⟩, by decide +kernel, Nat.zero_le _, h⟩
    exact ⟨_, _, location, horiginal, hrefused, horigin, hreport,
      hblames.mpr (.inr ⟨23, 0, horigin, hline 23 (by decide), hline 74 (by decide)⟩)⟩

/-- A component with its options on lines of their own. -/
def blamedSource : String :=
  "<template/><script lang=\"ts\">export default f(\x7b\n  data: 1,\n  name: \"a\",\n" ++
    "  other: \"b\"\n\x7d)</script>"

def blamedScript : Block where
  kind := .script
  content := "export default f(\x7b\n  data: 1,\n  name: \"a\",\n  other: \"b\"\n\x7d)"
  attributes := [⟨"lang", .text "ts", ⟨19, 28⟩⟩]
  span := ⟨11, 96⟩
  contentSpan := ⟨29, 87⟩

/-- The script of the sample with its functions, the body of one of which is `)`. -/
def blamedFragments : List Fragment :=
  [.kept "export default f(\x7b", .added (RenderFunctions.mk ")" []).optionMembers,
    .kept "\n  data: 1,\n  name: \"a\",\n  other: \"b\"\n\x7d)"]

/-- The third line of the script is blamed for a body that cannot be read. -/
theorem weaveFile_blames_source :
    (Script.parse blamedScript.content).toOption.isSome ∧
    Splicing sampleJob.options ⟨")", []⟩ blamedScript.content (.options ⟨17, 57⟩)
      blamedFragments ∧
    Script.parse (Fragment.join blamedFragments) = .error ⟨.unexpectedToken, ⟨42, 43⟩⟩ ∧
    Fragment.origin? blamedFragments 42 = none ∧
    sampleReport ")" blamedSource = ⟨samplePath,
      .failed (Outcome.fullMessage (.scriptSyntax samplePath.text ⟨.unexpectedToken, ⟨42, 43⟩⟩))
        (some ⟨2, 12⟩)⟩ ∧
    ¬ BlamesOrigin blamedSource blamedScript blamedFragments 42 (some ⟨2, 12⟩) := by
  have hparse : Document.parse blamedSource = .ok (sampleDocument blamedScript) :=
    Except.mem_toOption_iff.mp (by decide +kernel)
  have hlocation : Outcome.scriptLocation? (.ofText blamedSource) blamedScript.content
      blamedScript.contentSpan 42 = some ⟨2, 12⟩ := by
    decide +kernel
  have hreport := sampleReport_eq ")" (.scriptSyntax samplePath.text ⟨.unexpectedToken, ⟨42, 43⟩⟩)
    hparse (by decide +kernel) rfl hlocation
  have horigin : Fragment.origin? blamedFragments 42 = none := by decide +kernel
  refine ⟨by decide +kernel, .members (by decide +kernel) (by decide +kernel),
    Except.error?_eq_some_iff.mp (by decide +kernel), horigin, hreport, ?_⟩
  intro h
  obtain ⟨origin, n, hsome, -⟩ := h _ rfl
  rw [horigin] at hsome
  cases hsome

end Job

end SfcWeave
