import SfcWeave.Proofs.Weaving.Outcome

/-!
# Weaving with a toolchain that shows another

A toolchain shows another one if it gives the same answers and has the state of that one in view,
as a part of its own state or as all that is to be known of it (`Toolchain.Shows`). Weaving with it
goes the same way, step by step, as weaving with the one that it shows:

    Shows.mirrors_weave : toolchain.Shows view other →
      Mirrors (Session.seen view) (weave parse toolchain options file source)
        (weave parse other options file source)
-/

namespace SfcWeave

open Script

variable {σ ρ τ τ' ε α β : Type} {parse : Parser}

/-! ### Two computations side by side -/

/-- `y` does to a large state what `x` does to the part of it that is in view, with the same
result. -/
def Mirrors (view : τ' → τ) (x : ExceptT ε (StateM τ) α) (y : ExceptT ε (StateM τ') α) : Prop :=
  ∀ state, x.run.run (view state) = ((y.run.run state).1, view (y.run.run state).2)

namespace Mirrors

variable {view : τ' → τ}

/-- A result that is at hand, be it an error. -/
theorem result (result : Except ε α) :
    Mirrors view (ExceptT.mk (pure result)) (ExceptT.mk (pure result)) :=
  fun _ => rfl

theorem pure (a : α) :
    Mirrors view (pure a : ExceptT ε (StateM τ) α) (pure a : ExceptT ε (StateM τ') α) :=
  result (.ok a)

theorem bind {x : ExceptT ε (StateM τ) α} {y : ExceptT ε (StateM τ') α}
    {f : α → ExceptT ε (StateM τ) β} {g : α → ExceptT ε (StateM τ') β}
    (hxy : Mirrors view x y) (hfg : ∀ a, Mirrors view (f a) (g a)) :
    Mirrors view (x >>= f) (y >>= g) := by
  intro state
  rw [ExceptT.run_run_bind, ExceptT.run_run_bind, hxy state]
  rcases y.run.run state with ⟨result, next⟩
  cases result with
  | ok a => exact hfg a next
  | error error => rfl

theorem mapM {f : α → ExceptT ε (StateM τ) β} {g : α → ExceptT ε (StateM τ') β}
    (hfg : ∀ a, Mirrors view (f a) (g a)) (items : List α) :
    Mirrors view (items.mapM f) (items.mapM g) := by
  induction items with
  | nil => exact pure []
  | cons a items ih =>
    rw [List.mapM_cons, List.mapM_cons]
    apply (hfg a).bind
    intro first
    apply ih.bind
    intro rest
    exact pure _

end Mirrors

/-! ### What is in view -/

/-- `other` answers like `toolchain` does, and goes on like it as far as its state is in view. -/
structure Toolchain.Shows (view : ρ → σ) (toolchain : Toolchain σ) (other : Toolchain ρ) :
    Prop where
  compile : ∀ template state, toolchain.compile template (view state) =
    ((other.compile template state).1, view (other.compile template state).2)
  transpile : ∀ code state, toolchain.transpile code (view state) =
    ((other.transpile code state).1, view (other.transpile code state).2)

/-- The session as far as the state of its toolchain is in view. -/
def Session.seen (view : ρ → σ) (session : Session ρ) : Session σ :=
  ⟨view session.toolchain, session.warnings⟩

/-- The session as far as it is in view, and the document. -/
def seenWith (view : ρ → σ) (state : Session ρ × Document) : Session σ × Document :=
  (state.1.seen view, state.2)

variable {view : ρ → σ}

theorem seen_warned (session : Session ρ) (warnings : List Warning) :
    (session.warned warnings).seen view = (session.seen view).warned warnings := rfl

theorem mirrors_onToolchain {x : ExceptT WeavingError (StateM σ) α}
    {y : ExceptT WeavingError (StateM ρ) α} (h : Mirrors view x y) :
    Mirrors (Session.seen view) (Weaving.onToolchain x) (Weaving.onToolchain y) := by
  intro session
  rw [Weaving.run_onToolchain, Weaving.run_onToolchain]
  dsimp only [Session.seen]
  rw [h session.toolchain]

theorem mirrors_forM_warn {γ : Type} (view : ρ → σ) (warning : γ → Warning) (items : List γ) :
    Mirrors (Session.seen view)
      (items.forM fun item => Weaving.warn (warning item))
      (items.forM fun item => Weaving.warn (warning item)) := by
  intro session
  rw [Weaving.run_forM_warn, Weaving.run_forM_warn, seen_warned]

theorem mirrors_findTarget (view : ρ → σ) (file : String) (script : Snapshot parse) :
    Mirrors (Session.seen view) (findTarget file script) (findTarget file script) := by
  intro session
  rw [run_findTarget, run_findTarget, seen_warned]

theorem mirrors_onSession {x : Weaving σ α} {y : Weaving ρ α}
    (h : Mirrors (Session.seen view) x y) :
    Mirrors (seenWith view) (Editing.onSession x) (Editing.onSession y) := by
  rintro ⟨session, document⟩
  rw [seenWith, Editing.run_onSession, Editing.run_onSession, h session]
  rfl

/-! ### Weaving -/

namespace Toolchain.Shows

variable {toolchain : Toolchain σ} {other : Toolchain ρ}

theorem mirrors_lowerBody (h : toolchain.Shows view other) (body : String) :
    Mirrors view (RenderFunctions.lowerBody toolchain body)
      (RenderFunctions.lowerBody other body) := by
  intro state
  rw [run_lowerBody, run_lowerBody, h.transpile]

theorem mirrors_ofCompiled (h : toolchain.Shows view other) (compiled : CompiledTemplate) :
    Mirrors view (RenderFunctions.ofCompiled toolchain compiled)
      (RenderFunctions.ofCompiled other compiled) := by
  apply (h.mirrors_lowerBody compiled.render).bind
  intro render
  apply (Mirrors.mapM h.mirrors_lowerBody compiled.staticRenders).bind
  intro statics
  exact .pure _

theorem mirrors_compileTemplate (h : toolchain.Shows view other) (template : String) :
    Mirrors (Session.seen view) (compileTemplate toolchain template)
      (compileTemplate other template) := by
  intro session
  rw [run_compileTemplate, run_compileTemplate]
  dsimp only [Session.seen]
  rw [h.compile]

theorem mirrors_weaveInPlace (h : toolchain.Shows view other) (parse : Parser)
    (options : WeavingOptions) (file : String) :
    Mirrors (seenWith view) (weaveInPlace parse toolchain options file)
      (weaveInPlace parse other options file) := by
  have hdocument : Mirrors (seenWith view) Editing.document Editing.document :=
    fun _ => rfl
  have hchange : ∀ edit, Mirrors (seenWith view) (Editing.change edit)
      (Editing.change edit) := fun _ _ => rfl
  unfold weaveInPlace
  apply hdocument.bind
  intro document
  split
  case isFalse => exact .pure _
  split
  case h_2 => exact .pure _
  next template block _ _ =>
    apply (mirrors_onSession (.result _)).bind
    intro script
    split
    case isTrue => exact fun _ => rfl
    apply (mirrors_onSession (mirrors_findTarget view file script)).bind
    rintro (_ | target)
    case none => exact .pure _
    apply (mirrors_onSession (h.mirrors_compileTemplate template.content)).bind
    rintro (compiled | problems)
    case problems =>
      apply (mirrors_onSession (mirrors_forM_warn view _ problems)).bind
      intro _
      exact .pure _
    apply (mirrors_onSession (mirrors_onToolchain (h.mirrors_ofCompiled compiled))).bind
    intro functions
    refine Mirrors.bind (mirrors_onSession ?_) ?_
    · -- an edit of the script does not look at the session
      cases target with
      | cls target => exact (Mirrors.result _).bind fun _ => .pure _
      | options span => exact (Mirrors.result _).bind fun _ => .pure _
    · rintro ⟨script, injection⟩
      apply (hchange _).bind
      intro _
      apply (hchange _).bind
      intro _
      exact .pure _

theorem mirrors_weaveDocument (h : toolchain.Shows view other) (parse : Parser)
    (options : WeavingOptions) (file : String) (document : Document) :
    Mirrors (Session.seen view) (weaveDocument parse toolchain options file document)
      (weaveDocument parse other options file document) := by
  intro session
  have hrun := h.mirrors_weaveInPlace parse options file (session, document)
  rw [seenWith] at hrun
  rw [run_weaveDocument, run_weaveDocument, hrun]
  rfl

theorem mirrors_weave (h : toolchain.Shows view other) (parse : Parser) (options : WeavingOptions)
    (file source : String) :
    Mirrors (Session.seen view) (weave parse toolchain options file source)
      (weave parse other options file source) := by
  unfold weave
  apply (Mirrors.result _).bind
  intro document
  apply (h.mirrors_weaveDocument parse options file document).bind
  rintro ⟨woven, injection⟩
  exact .pure _

end Toolchain.Shows

end SfcWeave
