import SfcWeave.Proofs.Result
import SfcWeave.Proofs.Weaving.Recording

/-!
# Which calls weaving makes

A source is checked before the toolchain hears of it: `Refused` lists the checks in their order,
with the result of a source that does not pass. A source that passes (`Admitted`) has its template
compiled once, and then the bodies of the render functions are lowered in order, up to the first
answer that cannot be used. `Transcript` puts this together, and

    weave_calls : Transcript parse toolchain options file source state result calls

holds of the result of every run and the calls that it makes.
-/

namespace SfcWeave

open Script

variable {σ : Type} {parse : Parser} {toolchain : Toolchain σ} {options : WeavingOptions}
  {file source : String} {state next : σ}

/-! ### Lowering bodies in order -/

/-- The bodies of a compiled template in the order in which they are lowered. -/
def CompiledTemplate.bodies (compiled : CompiledTemplate) : List String :=
  compiled.render :: compiled.staticRenders

/-- What a toolchain answers when it is given bodies to lower, one after another. -/
def Toolchain.answers (toolchain : Toolchain σ) :
    List String → σ → List (Except ToolchainError String)
  | [], _ => []
  | body :: bodies, state =>
    let (answer, next) := toolchain.transpile (wrap body) state
    answer :: toolchain.answers bodies next

/-- Why an answer cannot be used: it is an error, or code without the wrapper. -/
def loweringFailure? : Except ToolchainError String → Option WeavingError
  | .error error => some (.toolchain error)
  | .ok code => if unwrap? code = none then some (.lostWrapper code) else none

/-- Which of the bodies are given to a toolchain, and what lowering them fails with: all of them if
every answer can be used, and otherwise those up to the first answer that cannot. -/
inductive Lowering (toolchain : Toolchain σ) (state : σ) (bodies : List String) :
    (given : List String) → Option WeavingError → Prop
  | finished : (∀ answer ∈ toolchain.answers bodies state, loweringFailure? answer = none) →
      Lowering toolchain state bodies bodies none
  | stopped {done rest : List String} {body : String} {good answer error} :
      bodies = done ++ body :: rest →
      toolchain.answers (done ++ [body]) state = good ++ [answer] →
      (∀ answer ∈ good, loweringFailure? answer = none) → loweringFailure? answer = some error →
      Lowering toolchain state bodies (done ++ [body]) (some error)

/-- One more body in front, whose answer can be used. -/
theorem Lowering.cons {bodies given : List String} {body : String} {failure : Option WeavingError}
    {answer : Except ToolchainError String}
    (hanswer : toolchain.transpile (wrap body) state = (answer, next))
    (hgood : loweringFailure? answer = none) (h : Lowering toolchain next bodies given failure) :
    Lowering toolchain state (body :: bodies) (body :: given) failure := by
  have hanswers : ∀ bodies, toolchain.answers (body :: bodies) state =
      answer :: toolchain.answers bodies next := by
    intro bodies
    simp only [Toolchain.answers, hanswer]
  cases h with
  | finished hall =>
    apply Lowering.finished
    rw [hanswers, List.forall_mem_cons]
    exact ⟨hgood, hall⟩
  | @stopped done rest last good answer' error hbodies hgiven hall hfailure =>
    have hbodies' : body :: bodies = (body :: done) ++ last :: rest := by
      rw [hbodies, List.cons_append]
    have hgiven' : toolchain.answers ((body :: done) ++ [last]) state =
        (answer :: good) ++ [answer'] := by
      rw [List.cons_append, hanswers, hgiven, List.cons_append]
    exact .stopped hbodies' hgiven' (List.forall_mem_cons.mpr ⟨hgood, hall⟩) hfailure

/-- The call that a body is lowered by. -/
def loweringCall (body : String) : ToolchainCall := .transpile (wrap body)

/-- Bodies are given to the toolchain in order, up to the first answer that cannot be used. -/
theorem lowering_mapM (toolchain : Toolchain σ) (bodies : List String) (state : σ)
    (calls : List ToolchainCall) :
    ∃ result last given,
      (bodies.mapM (RenderFunctions.lowerBody toolchain.recorded)).run.run (state, calls) =
        (result, last, (given.map loweringCall).reverse ++ calls) ∧
      Lowering toolchain state bodies given result.error? := by
  induction bodies generalizing state calls with
  | nil => exact ⟨.ok [], state, [], rfl, .finished (by simp [Toolchain.answers])⟩
  | cons body bodies ih =>
    rcases hanswer : toolchain.transpile (wrap body) state with ⟨answer, next⟩
    have hrecorded : toolchain.recorded.transpile (wrap body) (state, calls) =
        (answer, next, loweringCall body :: calls) := by
      simp only [Toolchain.recorded, hanswer, loweringCall]
    rw [List.mapM_cons, ExceptT.run_run_bind, run_lowerBody, hrecorded]
    have hstopped : ∀ error, loweringFailure? answer = some error →
        Lowering toolchain state (body :: bodies) [body] (some error) := by
      intro error hfailure
      have hgiven : toolchain.answers ([] ++ [body]) state = [] ++ [answer] := by
        simp only [List.nil_append, Toolchain.answers, hanswer]
      exact .stopped rfl hgiven (by simp) hfailure
    rcases answer with error | code
    · exact ⟨_, next, [body], rfl, hstopped _ rfl⟩
    dsimp only
    rcases hunwrap : unwrap? code with _ | lowered
    · exact ⟨_, next, [body], rfl, hstopped _ (if_pos hunwrap)⟩
    -- this answer can be used, and the rest is lowered from the next state on
    have hgood : loweringFailure? (.ok code) = none := by simp [loweringFailure?, hunwrap]
    obtain ⟨result, last, given, hrun, hlowering⟩ := ih next (loweringCall body :: calls)
    have hcalls : (given.map loweringCall).reverse ++ loweringCall body :: calls =
        ((body :: given).map loweringCall).reverse ++ calls := by simp
    refine ⟨result.map (lowered :: ·), last, body :: given, ?_, ?_⟩
    · dsimp only
      rw [ExceptT.run_run_bind, hrun, hcalls]
      cases result with
      | ok rest => rfl
      | error error => rfl
    · rw [Except.error?_map]
      exact .cons hanswer hgood hlowering

/-- All bodies of a compiled template are lowered as one list. -/
theorem ofCompiled_eq_mapM (toolchain : Toolchain σ) (compiled : CompiledTemplate) :
    (fun functions => functions.render :: functions.staticRenders) <$>
      RenderFunctions.ofCompiled toolchain compiled =
    compiled.bodies.mapM (RenderFunctions.lowerBody toolchain) := by
  simp [RenderFunctions.ofCompiled, CompiledTemplate.bodies]

theorem lowering_ofCompiled (toolchain : Toolchain σ) (compiled : CompiledTemplate) (state : σ)
    (calls : List ToolchainCall) :
    ∃ result last given,
      (RenderFunctions.ofCompiled toolchain.recorded compiled).run.run (state, calls) =
        (result, last, (given.map loweringCall).reverse ++ calls) ∧
      Lowering toolchain state compiled.bodies given result.error? := by
  obtain ⟨result, last, given, hrun, hlowering⟩ :=
    lowering_mapM toolchain compiled.bodies state calls
  rw [← ofCompiled_eq_mapM, ← bind_pure_comp, ExceptT.run_run_bind] at hrun
  rcases hfunctions : (RenderFunctions.ofCompiled toolchain.recorded compiled).run.run
    (state, calls) with ⟨functions, after⟩
  rw [hfunctions] at hrun
  cases functions with
  | ok functions =>
    cases hrun
    exact ⟨_, last, given, rfl, hlowering⟩
  | error error =>
    cases hrun
    exact ⟨_, last, given, rfl, hlowering⟩

/-! ### Checks before the first call -/

/-- The results of sources that the toolchain does not hear of. Each check is made after those
before it have been passed. -/
inductive Refused (parse : Parser) (options : WeavingOptions) (file source : String) :
    Except WeavingError Woven → Prop
  | document {error : ParseError} : Document.parse source = .error error →
      Refused parse options file source (.error (.document error))
  | untyped {document : Document} : Document.parse source = .ok document →
      document.hasTypedScript options.typedLang = false →
      Refused parse options file source (.ok ⟨document.print, .skipped .noTypedScript⟩)
  | noTemplate {document : Document} : Document.parse source = .ok document →
      document.hasTypedScript options.typedLang = true → document.template = none →
      Refused parse options file source (.ok ⟨document.print, .skipped .noTemplate⟩)
  | script {document : Document} {template block : Block} {error : SyntaxError} :
      Document.parse source = .ok document → Weavable options document template block →
      parse block.content = .error error →
      Refused parse options file source (.error (.scriptSyntax file error))
  | alreadyWoven {document : Document} {template block : Block} {script : Snapshot parse} :
      Document.parse source = .ok document → Weavable options document template block →
      script.text = block.content → script.importsFrom options.runtimeModule = true →
      Refused parse options file source (.error (.alreadyWoven file))
  | unnamedClass {document : Document} {template block : Block} {script : Snapshot parse}
      {span : Span} :
      Document.parse source = .ok document → Weavable options document template block →
      Finds options file block script (some (.unnamedClass span)) →
      Refused parse options file source (.error (.unnamedClass file span))
  | noComponent {document : Document} {template block : Block} {script : Snapshot parse} :
      Document.parse source = .ok document → Weavable options document template block →
      Finds options file block script none →
      Refused parse options file source (.ok ⟨document.print, .skipped .noComponent⟩)

/-- The source passes all checks: it is that of a document with a template and with a script whose
component can be woven. -/
inductive Admitted (parse : Parser) (options : WeavingOptions) (file source : String) :
    Document → Block → Target → Prop
  | intro {document : Document} {template block : Block} {script : Snapshot parse}
      {target : Target} :
      Document.parse source = .ok document → Weavable options document template block →
      Finds options file block script (some (.component target)) →
      Admitted parse options file source document template target

/-! ### Whole runs -/

/-- The result of weaving a source and the calls that are made for it, in order. -/
inductive Transcript (parse : Parser) (toolchain : Toolchain σ) (options : WeavingOptions)
    (file source : String) (state : σ) :
    Except WeavingError Woven → List ToolchainCall → Prop
  | refused {result} : Refused parse options file source result →
      Transcript parse toolchain options file source state result []
  | compilerError {document template target error next} :
      Admitted parse options file source document template target →
      toolchain.compile template.content state = (.error error, next) →
      Transcript parse toolchain options file source state (.error (.toolchain error))
        [.compile template.content]
  | problems {document template target problems next} :
      Admitted parse options file source document template target →
      toolchain.compile template.content state = (.ok (.problems problems), next) →
      Transcript parse toolchain options file source state
        (.ok ⟨document.print, .compileFailed problems⟩) [.compile template.content]
  | loweringError {document template target compiled next given error} :
      Admitted parse options file source document template target →
      toolchain.compile template.content state = (.ok (.compiled compiled), next) →
      Lowering toolchain next compiled.bodies given (some error) →
      Transcript parse toolchain options file source state (.error error)
        (.compile template.content :: given.map loweringCall)
  | lowered {document template target compiled next given result} :
      Admitted parse options file source document template target →
      toolchain.compile template.content state = (.ok (.compiled compiled), next) →
      Lowering toolchain next compiled.bodies given none →
      (∃ error, result = .error (.ofEdit file error)) ∨
        (∃ code, result = .ok ⟨code, target.injection⟩) →
      Transcript parse toolchain options file source state result
        (.compile template.content :: given.map loweringCall)

/-- The session with a list for the calls of its toolchain. -/
def Session.recording (session : Session σ) (calls : List ToolchainCall) :
    Session (σ × List ToolchainCall) :=
  ⟨(session.toolchain, calls), session.warnings⟩

theorem exists_of_recorded_compile {template : String} {calls : List ToolchainCall}
    {answer : Except ToolchainError TemplateOutput} {last : σ × List ToolchainCall}
    (h : toolchain.recorded.compile template (state, calls) = (answer, last)) :
    ∃ next, toolchain.compile template state = (answer, next) ∧
      last = (next, .compile template :: calls) := by
  cases h
  exact ⟨_, rfl, rfl⟩

/-- The bodies of a template are lowered after it has been compiled. -/
theorem exists_of_recorded_ofCompiled {template : String} {compiled : CompiledTemplate}
    {between last : σ × List ToolchainCall} {result : Except WeavingError RenderFunctions}
    (hcompile : toolchain.recorded.compile template (state, []) =
      (.ok (.compiled compiled), between))
    (hlower : (RenderFunctions.ofCompiled toolchain.recorded compiled).run.run between =
      (result, last)) :
    ∃ next given, toolchain.compile template state = (.ok (.compiled compiled), next) ∧
      Lowering toolchain next compiled.bodies given result.error? ∧
      last.2 = (.compile template :: given.map loweringCall).reverse := by
  obtain ⟨next, hanswer, rfl⟩ := exists_of_recorded_compile hcompile
  obtain ⟨result', last', given, hrun, hlowering⟩ :=
    lowering_ofCompiled toolchain compiled next [.compile template]
  rw [hlower] at hrun
  cases hrun
  exact ⟨next, given, hanswer, hlowering, by simp⟩

/-- What a run of weaving a document has as its result when it is part of weaving a source. -/
def printed (result : Except WeavingError (Document × Injection)) : Except WeavingError Woven :=
  result.map fun (woven, injection) => ⟨woven.print, injection⟩

/-- Each way to end goes with the calls that lead there. -/
theorem exists_transcript_of_weaves {document : Document} {session : Session σ}
    {result : Except WeavingError (Document × Injection)}
    {next : Session (σ × List ToolchainCall)} (hparse : Document.parse source = .ok document)
    (h : Weaves parse toolchain.recorded options file document (session.recording [])
      (result, next)) :
    ∃ calls, next.toolchain.2 = calls.reverse ∧
      Transcript parse toolchain options file source session.toolchain (printed result) calls := by
  cases h with
  | untyped huntyped => exact ⟨[], rfl, .refused (.untyped hparse huntyped)⟩
  | noTemplate htyped htemplate => exact ⟨[], rfl, .refused (.noTemplate hparse htyped htemplate)⟩
  | syntaxError hweavable herror => exact ⟨[], rfl, .refused (.script hparse hweavable herror)⟩
  | alreadyWoven hweavable htext himports =>
    exact ⟨[], rfl, .refused (.alreadyWoven hparse hweavable htext himports)⟩
  | noComponent hweavable hfinds => exact ⟨[], rfl, .refused (.noComponent hparse hweavable hfinds)⟩
  | unnamedClass hweavable hfinds =>
    exact ⟨[], rfl, .refused (.unnamedClass hparse hweavable hfinds)⟩
  | compilerError hweavable hfinds hcompile =>
    obtain ⟨next, hanswer, rfl⟩ := exists_of_recorded_compile hcompile
    have hadmitted := Admitted.intro hparse hweavable hfinds
    exact ⟨_, rfl, .compilerError hadmitted hanswer⟩
  | problems hweavable hfinds hcompile =>
    obtain ⟨next, hanswer, rfl⟩ := exists_of_recorded_compile hcompile
    have hadmitted := Admitted.intro hparse hweavable hfinds
    exact ⟨_, rfl, .problems hadmitted hanswer⟩
  | loweringError hweavable hfinds hcompile hlower =>
    obtain ⟨next, given, hanswer, hlowering, hcalls⟩ :=
      exists_of_recorded_ofCompiled hcompile hlower
    have hadmitted := Admitted.intro hparse hweavable hfinds
    exact ⟨_, hcalls, .loweringError hadmitted hanswer hlowering⟩
  | editError hweavable hfinds hcompile hlower _ =>
    obtain ⟨next, given, hanswer, hlowering, hcalls⟩ :=
      exists_of_recorded_ofCompiled hcompile hlower
    have hadmitted := Admitted.intro hparse hweavable hfinds
    exact ⟨_, hcalls, .lowered hadmitted hanswer hlowering (.inl ⟨_, rfl⟩)⟩
  | woven hweavable hfinds hcompile hlower _ =>
    obtain ⟨next, given, hanswer, hlowering, hcalls⟩ :=
      exists_of_recorded_ofCompiled hcompile hlower
    have hadmitted := Admitted.intro hparse hweavable hfinds
    exact ⟨_, hcalls, .lowered hadmitted hanswer hlowering (.inr ⟨_, rfl⟩)⟩

/-- Every run of weaving a source has a transcript: its result, and the calls that it makes of its
toolchain. The calls are those that the toolchain lists when it is recorded, which changes nothing
else. -/
theorem weave_calls (parse : Parser) (toolchain : Toolchain σ) (options : WeavingOptions)
    (file source : String) (session : Session σ) :
    ∃ result next calls,
      (weave parse toolchain options file source).run.run session = (result, next) ∧
      (weave parse toolchain.recorded options file source).run.run (session.recording []) =
        (result, next.recording calls.reverse) ∧
      Transcript parse toolchain options file source session.toolchain result calls := by
  have hmirrors := mirrors_weave parse toolchain options file source (session.recording [])
  change (weave parse toolchain options file source).run.run session = _ at hmirrors
  have htranscript : ∃ calls,
      ((weave parse toolchain.recorded options file source).run.run
        (session.recording [])).2.toolchain.2 = calls.reverse ∧
      Transcript parse toolchain options file source session.toolchain
        ((weave parse toolchain.recorded options file source).run.run
          (session.recording [])).1 calls := by
    rw [run_weave]
    rcases hparse : Document.parse source with error | document
    · exact ⟨[], rfl, .refused (.document hparse)⟩
    have hends := weaves_run parse toolchain.recorded options file document (session.recording [])
    dsimp only
    rcases hrun : (weaveDocument parse toolchain.recorded options file document).run.run
      (session.recording []) with ⟨result, next⟩
    rw [hrun] at hends
    obtain ⟨calls, hcalls, htranscript⟩ := exists_transcript_of_weaves hparse hends
    cases result with
    | ok woven => exact ⟨calls, hcalls, htranscript⟩
    | error error => exact ⟨calls, hcalls, htranscript⟩
  obtain ⟨calls, hcalls, htranscript⟩ := htranscript
  refine ⟨_, _, calls, hmirrors, ?_, htranscript⟩
  -- a recorded session is the session itself with the calls that it lists
  rw [← hcalls]
  rfl

end SfcWeave
