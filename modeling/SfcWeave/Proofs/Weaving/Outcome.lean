import SfcWeave.Proofs.Script.Snapshot
import SfcWeave.Weaving.Injection

/-!
# How weaving ends

`Weaves parse toolchain options file document session` lists the ways in which weaving a document
can end, one constructor for each, with all that was found out on the way there. A run always ends
in one of them,

    weaves_run : Weaves parse toolchain options file document session
      ((weaveDocument parse toolchain options file document).run.run session)

so that a statement about all runs is a case analysis, and no proof after this one looks at how
`weaveInPlace` is written. `WeavesInPlace` says the same of the document that is left behind, which
also a run that fails leaves.
-/

namespace SfcWeave

open Script

variable {σ α β : Type} {parse : Parser}

/-- The session with these warnings given, in order. -/
def Session.warned (session : Session σ) (warnings : List Warning) : Session σ :=
  { session with warnings := warnings.reverse ++ session.warnings }

/-! ### Runs of the parts -/

namespace Weaving

theorem run_mk_pure (result : Except WeavingError α) (session : Session σ) :
    (ExceptT.mk (pure result) : Weaving σ α).run.run session = (result, session) := rfl

theorem run_ofEdit (file : String) (result : Except EditError α) (session : Session σ) :
    (ofEdit file result).run.run session = (result.mapError (WeavingError.ofEdit file), session) :=
  rfl

theorem run_onToolchain (computation : ExceptT WeavingError (StateM σ) α) (session : Session σ) :
    (onToolchain computation).run.run session =
      ((computation.run.run session.toolchain).1,
        { session with toolchain := (computation.run.run session.toolchain).2 }) := rfl

theorem run_forM_warn {γ : Type} (warning : γ → Warning) (items : List γ) (session : Session σ) :
    (items.forM fun item => warn (warning item)).run.run session =
      (.ok (), session.warned (items.map warning)) := by
  induction items generalizing session with
  | nil => rfl
  | cons item items ih =>
    show (warn (warning item) >>= fun _ => items.forM fun item => warn (warning item)).run.run
      session = _
    rw [ExceptT.run_run_bind]
    show (items.forM fun item => warn (warning item)).run.run (session.warned [warning item]) = _
    rw [ih]
    simp [Session.warned]

end Weaving

namespace Editing

theorem run_onSession (computation : Weaving σ α) (session : Session σ) (document : Document) :
    (onSession computation).run.run (session, document) =
      ((computation.run.run session).1, (computation.run.run session).2, document) := rfl

theorem run_document (session : Session σ) (here : Document) :
    (Editing.document : Editing σ Document).run.run (session, here) = (.ok here, session, here) :=
  rfl

end Editing

open Weaving Editing

theorem run_findTarget (file : String) (script : Snapshot parse) (session : Session σ) :
    (findTarget file script).run.run session =
      (match (locate file script).first with
        | none => .ok none
        | some (.component target) => .ok (some target)
        | some (.unnamedClass span) => .error (.unnamedClass file span),
        session.warned (locate file script).warnings) := by
  unfold findTarget
  rw [ExceptT.run_run_bind, run_forM_warn, List.map_id']
  dsimp only
  cases (locate file script).first with
  | none => rfl
  | some candidate => cases candidate <;> rfl

theorem run_compileTemplate (toolchain : Toolchain σ) (template : String) (session : Session σ) :
    (compileTemplate toolchain template).run.run session =
      ((toolchain.compile template session.toolchain).1.mapError .toolchain,
        { session with toolchain := (toolchain.compile template session.toolchain).2 }) := rfl

theorem run_lowerBody (toolchain : Toolchain σ) (body : String) (state : σ) :
    (RenderFunctions.lowerBody toolchain body).run.run state =
      (match (toolchain.transpile (wrap body) state).1 with
        | .error error => .error (.toolchain error)
        | .ok code =>
          match unwrap? code with
          | some lowered => .ok lowered
          | none => .error (.lostWrapper code),
        (toolchain.transpile (wrap body) state).2) := by
  unfold RenderFunctions.lowerBody
  simp only [ExceptT.run_mk, StateT.run_bind, StateT.run_modifyGet]
  rcases toolchain.transpile (wrap body) state with ⟨result, last⟩
  cases result with
  | error error => rfl
  | ok code =>
    rw [pure_bind]
    dsimp only
    cases unwrap? code <;> rfl

/-! ### Errors of lowering -/

/-- Every error of a computation meets a condition. -/
def FailsWith (condition : WeavingError → Prop) (x : ExceptT WeavingError (StateM σ) α) : Prop :=
  ∀ state error last, x.run.run state = (.error error, last) → condition error

namespace FailsWith

variable {condition : WeavingError → Prop}

theorem pure (a : α) : FailsWith condition (pure a : ExceptT WeavingError (StateM σ) α) := by
  intro state error last h
  cases h

theorem bind {x : ExceptT WeavingError (StateM σ) α} {f : α → ExceptT WeavingError (StateM σ) β}
    (hx : FailsWith condition x) (hf : ∀ a, FailsWith condition (f a)) :
    FailsWith condition (x >>= f) := by
  intro state error last h
  rw [ExceptT.run_run_bind] at h
  rcases hrun : x.run.run state with ⟨result, next⟩
  rw [hrun] at h
  cases result with
  | ok a => exact hf a next error last h
  | error cause =>
    cases h
    exact hx state error last hrun

theorem mapM {f : α → ExceptT WeavingError (StateM σ) β} (hf : ∀ a, FailsWith condition (f a))
    (items : List α) : FailsWith condition (items.mapM f) := by
  induction items with
  | nil => exact pure []
  | cons a items ih =>
    rw [List.mapM_cons]
    apply (hf a).bind
    intro first
    apply ih.bind
    intro rest
    exact pure _

/-- Lowering fails because of the toolchain, or because the toolchain lost the wrapper. -/
theorem ofCompiled (toolchain : Toolchain σ) (compiled : CompiledTemplate) :
    FailsWith (fun error => (∃ cause, error = .toolchain cause) ∨ ∃ code, error = .lostWrapper code)
      (RenderFunctions.ofCompiled toolchain compiled) := by
  have hlower : ∀ body, FailsWith
      (fun error => (∃ cause, error = .toolchain cause) ∨ ∃ code, error = .lostWrapper code)
      (RenderFunctions.lowerBody toolchain body) := by
    intro body state error last h
    rw [run_lowerBody] at h
    split at h
    · next cause _ =>
      cases h
      exact .inl ⟨cause, rfl⟩
    · next code _ =>
      split at h
      · cases h
      · cases h
        exact .inr ⟨code, rfl⟩
  -- the body comes first, then the functions of the static trees
  apply (hlower _).bind
  intro render
  apply (mapM hlower _).bind
  intro statics
  exact pure _

end FailsWith

/-! ### All ways to end -/

/-- What is done to a document that is woven. -/
def Target.injection : Target → Injection
  | .cls target => .cls target.name target.childTags
  | .options _ => .options

/-- Gives render functions to the component of a script. -/
def injectInto (options : WeavingOptions) (functions : RenderFunctions) (script : Snapshot parse) :
    Target → Except EditError (Snapshot parse)
  | .cls target => injectClass options functions target script
  | .options span => injectOptions functions span script

/-- The document can be woven if its script is accepted. -/
structure Weavable (options : WeavingOptions) (document : Document) (template block : Block) :
    Prop where
  typed : document.hasTypedScript options.typedLang = true
  template : document.template = some template
  script : document.script = some block

/-- The component of a script without render functions. -/
structure Finds (options : WeavingOptions) (file : String) (block : Block)
    (script : Snapshot parse) (first : Option Candidate) : Prop where
  text : script.text = block.content
  fresh : script.importsFrom options.runtimeModule = false
  first : (locate file script).first = first

/-- The ways in which weaving a document can end: with which result, and in which session. -/
inductive Weaves (parse : Parser) (toolchain : Toolchain σ) (options : WeavingOptions)
    (file : String) (document : Document) (session : Session σ) :
    Except WeavingError (Document × Injection) × Session σ → Prop
  | untyped : document.hasTypedScript options.typedLang = false →
      Weaves parse toolchain options file document session
        (.ok (document, .skipped .noTypedScript), session)
  | noTemplate : document.hasTypedScript options.typedLang = true → document.template = none →
      Weaves parse toolchain options file document session
        (.ok (document, .skipped .noTemplate), session)
  | syntaxError {template block error} : Weavable options document template block →
      parse block.content = .error error →
      Weaves parse toolchain options file document session
        (.error (.scriptSyntax file error), session)
  | alreadyWoven {template block} {script : Snapshot parse} :
      Weavable options document template block → script.text = block.content →
      script.importsFrom options.runtimeModule = true →
      Weaves parse toolchain options file document session (.error (.alreadyWoven file), session)
  | noComponent {template block} {script : Snapshot parse} :
      Weavable options document template block → Finds options file block script none →
      Weaves parse toolchain options file document session
        (.ok (document, .skipped .noComponent), session.warned (locate file script).warnings)
  | unnamedClass {template block span} {script : Snapshot parse} :
      Weavable options document template block →
      Finds options file block script (some (.unnamedClass span)) →
      Weaves parse toolchain options file document session
        (.error (.unnamedClass file span), session.warned (locate file script).warnings)
  | compilerError {template block target error state} {script : Snapshot parse} :
      Weavable options document template block →
      Finds options file block script (some (.component target)) →
      toolchain.compile template.content session.toolchain = (.error error, state) →
      Weaves parse toolchain options file document session
        (.error (.toolchain error),
          { session.warned (locate file script).warnings with toolchain := state })
  | problems {template block target problems state} {script : Snapshot parse} :
      Weavable options document template block →
      Finds options file block script (some (.component target)) →
      toolchain.compile template.content session.toolchain = (.ok (.problems problems), state) →
      Weaves parse toolchain options file document session
        (.ok (document, .compileFailed problems),
          Session.warned { session.warned (locate file script).warnings with toolchain := state }
            (problems.map (.templateProblem file)))
  | loweringError {template block target compiled state error last} {script : Snapshot parse} :
      Weavable options document template block →
      Finds options file block script (some (.component target)) →
      toolchain.compile template.content session.toolchain = (.ok (.compiled compiled), state) →
      (RenderFunctions.ofCompiled toolchain compiled).run.run state = (.error error, last) →
      Weaves parse toolchain options file document session
        (.error error, { session.warned (locate file script).warnings with toolchain := last })
  | editError {template block target compiled state functions last error}
      {script : Snapshot parse} :
      Weavable options document template block →
      Finds options file block script (some (.component target)) →
      toolchain.compile template.content session.toolchain = (.ok (.compiled compiled), state) →
      (RenderFunctions.ofCompiled toolchain compiled).run.run state = (.ok functions, last) →
      injectInto options functions script target = .error error →
      Weaves parse toolchain options file document session
        (.error (.ofEdit file error),
          { session.warned (locate file script).warnings with toolchain := last })
  | woven {template block target compiled state functions last} {script edited : Snapshot parse} :
      Weavable options document template block →
      Finds options file block script (some (.component target)) →
      toolchain.compile template.content session.toolchain = (.ok (.compiled compiled), state) →
      (RenderFunctions.ofCompiled toolchain compiled).run.run state = (.ok functions, last) →
      injectInto options functions script target = .ok edited →
      Weaves parse toolchain options file document session
        (.ok ({ document with
            template := none
            script := some { block with content := edited.text } }, target.injection),
          { session.warned (locate file script).warnings with toolchain := last })

/-- The ways in which weaving a document in place can end: the document that is left is the one that
has come about, and a run that fails leaves the document that it was given. -/
inductive WeavesInPlace (parse : Parser) (toolchain : Toolchain σ) (options : WeavingOptions)
    (file : String) (document : Document) (session : Session σ) :
    Except WeavingError Injection × Session σ × Document → Prop
  | done {woven injection next} :
      Weaves parse toolchain options file document session (.ok (woven, injection), next) →
      WeavesInPlace parse toolchain options file document session (.ok injection, next, woven)
  | failed {error next} :
      Weaves parse toolchain options file document session (.error error, next) →
      WeavesInPlace parse toolchain options file document session (.error error, next, document)

/-- Every run in place ends in one of these ways. -/
theorem weavesInPlace_run (parse : Parser) (toolchain : Toolchain σ) (options : WeavingOptions)
    (file : String) (document : Document) (session : Session σ) :
    WeavesInPlace parse toolchain options file document session
      ((weaveInPlace parse toolchain options file).run.run (session, document)) := by
  -- each choice of the run is made in turn, and leaves what has been found out behind
  unfold weaveInPlace
  rw [ExceptT.run_run_bind, run_document]
  dsimp only
  rcases htyped : document.hasTypedScript options.typedLang with _ | _
  · exact .done (.untyped htyped)
  rcases htemplate : document.template with _ | template
  · exact .done (.noTemplate htyped htemplate)
  rcases hblock : document.script with _ | block
  · -- a script in the right language is a script
    simp [Document.hasTypedScript, hblock] at htyped
  have hweavable : Weavable options document template block := ⟨htyped, htemplate, hblock⟩
  simp only [if_pos]
  rw [ExceptT.run_run_bind, run_onSession, run_mk_pure]
  rcases hscript : Snapshot.ofText parse block.content with error | script
  · exact .failed (.syntaxError hweavable (Snapshot.ofText_eq_error_iff.mp hscript))
  have htext := Snapshot.ofText_eq_ok_iff.mp hscript
  dsimp only [Except.mapError]
  rcases hfresh : script.importsFrom options.runtimeModule with _ | _
  case true => exact .failed (.alreadyWoven hweavable htext hfresh)
  rw [if_neg Bool.false_ne_true, ExceptT.run_run_bind, run_onSession, run_findTarget]
  rcases hfirst : (locate file script).first with _ | candidate
  · exact .done (.noComponent hweavable ⟨htext, hfresh, hfirst⟩)
  have hfinds : Finds options file block script (some candidate) := ⟨htext, hfresh, hfirst⟩
  rcases candidate with target | span
  case unnamedClass => exact .failed (.unnamedClass hweavable hfinds)
  dsimp only
  rw [ExceptT.run_run_bind, run_onSession, run_compileTemplate]
  rcases hcompile : toolchain.compile template.content session.toolchain with ⟨answer, state⟩
  rw [show toolchain.compile template.content
    (session.warned (locate file script).warnings).toolchain = (answer, state) from hcompile]
  rcases answer with error | output
  · exact .failed (.compilerError hweavable hfinds hcompile)
  dsimp only [Except.mapError]
  rcases output with compiled | problems
  case problems =>
    rw [ExceptT.run_run_bind, run_onSession, run_forM_warn]
    exact .done (.problems hweavable hfinds hcompile)
  dsimp only
  rw [ExceptT.run_run_bind, run_onSession, run_onToolchain]
  rcases hlower : (RenderFunctions.ofCompiled toolchain compiled).run.run state with ⟨result, last⟩
  rcases result with error | functions
  · exact .failed (.loweringError hweavable hfinds hcompile hlower)
  -- the document is changed at the very end, in its template and in the content of its script
  have hchanged : ∀ content : String,
      document.script.map (fun block => { block with content }) = some { block with content } := by
    intro content
    rw [hblock]
    rfl
  rcases target with target | span
  · dsimp only
    rw [ExceptT.run_run_bind, run_onSession, ExceptT.run_run_bind, run_ofEdit]
    rcases hedit : injectClass options functions target script with error | edited
    · exact .failed (.editError hweavable hfinds hcompile hlower hedit)
    · have hwoven := Weaves.woven hweavable hfinds hcompile hlower hedit
      rw [← hchanged edited.text] at hwoven
      exact .done hwoven
  · dsimp only
    rw [ExceptT.run_run_bind, run_onSession, ExceptT.run_run_bind, run_ofEdit]
    rcases hedit : injectOptions functions span script with error | edited
    · exact .failed (.editError hweavable hfinds hcompile hlower hedit)
    · have hwoven := Weaves.woven hweavable hfinds hcompile hlower hedit
      rw [← hchanged edited.text] at hwoven
      exact .done hwoven

/-- What is given back is the document that is left behind. -/
theorem run_weaveDocument (parse : Parser) (toolchain : Toolchain σ) (options : WeavingOptions)
    (file : String) (document : Document) (session : Session σ) :
    (weaveDocument parse toolchain options file document).run.run session =
      match (weaveInPlace parse toolchain options file).run.run (session, document) with
      | (result, next, woven) => (result.map fun injection => (woven, injection), next) := rfl

/-- Every run ends in one of these ways. -/
theorem weaves_run (parse : Parser) (toolchain : Toolchain σ) (options : WeavingOptions)
    (file : String) (document : Document) (session : Session σ) :
    Weaves parse toolchain options file document session
      ((weaveDocument parse toolchain options file document).run.run session) := by
  have hends := weavesInPlace_run parse toolchain options file document session
  rw [run_weaveDocument]
  generalize (weaveInPlace parse toolchain options file).run.run (session, document) = ending at *
  cases hends with
  | done hweaves => exact hweaves
  | failed hweaves => exact hweaves

/-! ### Sources -/

theorem run_weave (parse : Parser) (toolchain : Toolchain σ) (options : WeavingOptions)
    (file source : String) (session : Session σ) :
    (weave parse toolchain options file source).run.run session =
      match Document.parse source with
      | .error error => (.error (.document error), session)
      | .ok document =>
        match (weaveDocument parse toolchain options file document).run.run session with
        | (.error error, next) => (.error error, next)
        | (.ok (woven, injection), next) => (.ok ⟨woven.print, injection⟩, next) := by
  unfold weave
  rw [ExceptT.run_run_bind, run_mk_pure]
  cases Document.parse source with
  | error error => rfl
  | ok document =>
    dsimp only [Except.mapError]
    rw [ExceptT.run_run_bind]
    rcases (weaveDocument parse toolchain options file document).run.run session with
      ⟨error | ⟨woven, injection⟩, next⟩
    · rfl
    · rfl

/-- A source that has been woven is the text of a document that has been. -/
theorem exists_run_of_run_weave {toolchain : Toolchain σ} {options : WeavingOptions}
    {file source : String} {woven : Woven} {session next : Session σ}
    (h : (weave parse toolchain options file source).run.run session = (.ok woven, next)) :
    ∃ document built, Document.parse source = .ok document ∧
      (weaveDocument parse toolchain options file document).run.run session =
        (.ok (built, woven.injection), next) ∧
      woven.code = built.print := by
  rw [run_weave] at h
  cases hparse : Document.parse source with
  | error error =>
    rw [hparse] at h
    cases h
  | ok document =>
    rw [hparse] at h
    dsimp only at h
    rcases hrun : (weaveDocument parse toolchain options file document).run.run session with
      ⟨error | ⟨built, injection⟩, last⟩
    · rw [hrun] at h
      cases h
    · rw [hrun] at h
      cases h
      exact ⟨document, built, rfl, hrun, rfl⟩

/-- A document that cannot be woven cannot be woven as a source. -/
theorem exists_run_weave_of_error {toolchain : Toolchain σ} {options : WeavingOptions}
    {file source : String} {document : Document} {error : WeavingError} {session : Session σ}
    (hparse : Document.parse source = .ok document)
    (h : ((weaveDocument parse toolchain options file document).run.run session).1 =
      .error error) :
    ∃ next, (weave parse toolchain options file source).run.run session = (.error error, next) := by
  rw [run_weave, hparse]
  dsimp only
  rcases hrun : (weaveDocument parse toolchain options file document).run.run session with
    ⟨result, next⟩
  rw [hrun] at h
  obtain rfl : result = .error error := h
  exact ⟨next, rfl⟩

/-- A source that cannot be woven is the text of a document that cannot be, if it is one at all. -/
theorem weaves_of_run_weave {toolchain : Toolchain σ} {options : WeavingOptions}
    {file source : String} {document : Document} {error : WeavingError} {session next : Session σ}
    (hparse : Document.parse source = .ok document)
    (h : (weave parse toolchain options file source).run.run session = (.error error, next)) :
    Weaves parse toolchain options file document session (.error error, next) := by
  have hends := weaves_run parse toolchain options file document session
  rw [run_weave, hparse] at h
  dsimp only at h
  rcases hrun : (weaveDocument parse toolchain options file document).run.run session with
    ⟨cause | woven, last⟩
  · rw [hrun] at h hends
    cases h
    exact hends
  · rw [hrun] at h
    cases h

end SfcWeave
