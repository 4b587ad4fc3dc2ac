import SfcWeave.Component.Target
import SfcWeave.Document.Parser
import SfcWeave.Document.Printer
import SfcWeave.Weaving.Options
import SfcWeave.Weaving.RenderFunctions

/-!
# Weaving a document

`weaveInPlace` compiles the template of a document and puts the render functions into its script.
A class gets a statement after it that installs them, and a declaration of the tags of its child
components; an options object gets two members. The template is gone afterwards. In every other
case the document stays as it was. `weaveDocument` gives back the document that has come about.
-/

namespace SfcWeave

open Script

/-- Why a document is left as it is. -/
inductive SkipReason where
  /-- There is no script in the typed language. -/
  | noTypedScript
  | noTemplate
  | noComponent
deriving DecidableEq, Repr

/-- What weaving has done to a document. -/
inductive Injection where
  | skipped (reason : SkipReason)
  /-- The template was refused, for these reasons. -/
  | compileFailed (problems : List String)
  /-- The functions are installed on a class; the tags are those declared on it. -/
  | cls (name : String) (childTags : List String)
  /-- The functions are members of the options object. -/
  | options
deriving DecidableEq, Repr

namespace Injection

/-- Has the template been replaced by render functions? -/
def isInjected : Injection → Bool
  | cls .. => true
  | options => true
  | _ => false

end Injection

/-- The state while a document is woven: that of the toolchain, and the warnings so far, the latest
first. -/
structure Session (σ : Type) where
  toolchain : σ
  warnings : List Warning := []

/-- A computation with a session that may fail. -/
abbrev Weaving (σ : Type) := ExceptT WeavingError (StateM (Session σ))

namespace Weaving

variable {σ : Type}

/-- Adds a warning. -/
def warn (warning : Warning) : Weaving σ Unit :=
  modify fun session => { session with warnings := warning :: session.warnings }

/-- Runs a computation on the state of the toolchain. -/
def onToolchain {α : Type} (computation : ExceptT WeavingError (StateM σ) α) : Weaving σ α :=
  ExceptT.mk fun session =>
    let (result, toolchain) := computation.run session.toolchain
    (result, { session with toolchain })

/-- The result of an edit of the script of a file. -/
def ofEdit {α : Type} (file : String) (result : Except EditError α) : Weaving σ α :=
  ExceptT.mk (pure (result.mapError (WeavingError.ofEdit file)))

end Weaving

/-- A computation with a session and with a document that it may change. What it has done to either
of them is done, also when it fails later on. -/
abbrev Editing (σ : Type) := ExceptT WeavingError (StateM (Session σ × Document))

namespace Editing

variable {σ : Type}

/-- Runs a computation on the session. -/
def onSession {α : Type} (computation : Weaving σ α) : Editing σ α :=
  ExceptT.mk fun (session, document) =>
    let (result, session) := computation.run session
    (result, session, document)

/-- The document as it stands. -/
def document : Editing σ Document := return (← get).2

/-- Changes the document. -/
def change (edit : Document → Document) : Editing σ Unit :=
  modify fun (session, document) => (session, edit document)

end Editing

variable {σ : Type} {parse : Parser}

/-- The text added after a script whose class gets render functions. -/
def classTail (options : WeavingOptions) (functions : RenderFunctions) (name : String)
    (text : String) : String :=
  (if text.toList.getLast? = some '\n' then "" else "\n") ++
    "\n" ++ options.runtimeImport ++ "\n" ++ functions.injectCall name ++ "\n"

/-- Gives render functions to a class: first the declaration of its child tags goes into the class
and the import for it to the start, then the statement that installs the functions to the end. -/
def injectClass (options : WeavingOptions) (functions : RenderFunctions) (target : ClassTarget)
    (script : Snapshot parse) : Except EditError (Snapshot parse) := do
  let script ←
    if target.childTags = [] then pure script
    else do
      let script ← script.splice (Span.empty target.closingBrace)
        (childDeclaration target.childTags)
      script.splice (Span.empty 0) (options.builtInImport ++ "\n")
  script.append (classTail options functions target.name script.text)

/-- Gives render functions to an options object, as its first members. -/
def injectOptions (functions : RenderFunctions) (span : Span) (script : Snapshot parse) :
    Except EditError (Snapshot parse) :=
  script.splice (Span.empty (span.start + 1)) functions.optionMembers

/-- The component of a script; a class without a name is an error. -/
def findTarget (file : String) (script : Snapshot parse) : Weaving σ (Option Target) := do
  let located := locate file script
  located.warnings.forM Weaving.warn
  match located.first with
  | none => return none
  | some (.component target) => return some target
  | some (.unnamedClass span) => throw (.unnamedClass file span)

/-- Compiles a template. -/
def compileTemplate (toolchain : Toolchain σ) (template : String) : Weaving σ TemplateOutput :=
  Weaving.onToolchain <| ExceptT.mk do
    let result ← modifyGet (toolchain.compile template)
    return result.mapError .toolchain

/-- Weaves the document at hand, and tells what was done. The document is changed last, when nothing
can fail any more. -/
def weaveInPlace (parse : Parser) (toolchain : Toolchain σ) (options : WeavingOptions)
    (file : String) : Editing σ Injection := do
  let document ← Editing.document
  unless document.hasTypedScript options.typedLang do
    return .skipped .noTypedScript
  match document.template, document.script with
  | some template, some block =>
    let script ← Editing.onSession (ExceptT.mk (pure
      ((Snapshot.ofText parse block.content).mapError (WeavingError.scriptSyntax file))))
    if script.importsFrom options.runtimeModule then throw (.alreadyWoven file)
    match ← Editing.onSession (findTarget file script) with
    | none => return .skipped .noComponent
    | some target =>
      match ← Editing.onSession (compileTemplate toolchain template.content) with
      | .problems problems =>
        Editing.onSession
          (problems.forM fun problem => Weaving.warn (.templateProblem file problem))
        return .compileFailed problems
      | .compiled compiled =>
        let functions ← Editing.onSession
          (Weaving.onToolchain (RenderFunctions.ofCompiled toolchain compiled))
        let (script, injection) ← Editing.onSession <|
          match target with
          | .cls target => do
            let script ← Weaving.ofEdit file (injectClass options functions target script)
            pure (script, Injection.cls target.name target.childTags)
          | .options span => do
            let script ← Weaving.ofEdit file (injectOptions functions span script)
            pure (script, Injection.options)
        Editing.change ({ · with template := none })
        Editing.change fun document =>
          { document with script := document.script.map ({ · with content := script.text }) }
        return injection
  | _, _ => return .skipped .noTemplate

/-- Weaves a document, and gives it back with what was done. -/
def weaveDocument (parse : Parser) (toolchain : Toolchain σ) (options : WeavingOptions)
    (file : String) (document : Document) : Weaving σ (Document × Injection) :=
  ExceptT.mk fun session =>
    let (result, session, woven) :=
      (weaveInPlace parse toolchain options file).run (session, document)
    (result.map fun injection => (woven, injection), session)

/-- A woven source, and what was done. -/
structure Woven where
  code : String
  injection : Injection
deriving DecidableEq, Repr

/-- Reads a source, weaves it, and writes it. -/
def weave (parse : Parser) (toolchain : Toolchain σ) (options : WeavingOptions) (file : String)
    (source : String) : Weaving σ Woven := do
  let document ← ExceptT.mk (pure ((Document.parse source).mapError WeavingError.document))
  let (document, injection) ← weaveDocument parse toolchain options file document
  return ⟨document.print, injection⟩

end SfcWeave
