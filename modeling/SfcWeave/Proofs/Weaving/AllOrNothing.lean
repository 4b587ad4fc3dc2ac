import SfcWeave.Proofs.Weaving.Reread

/-!
# Weaving is all or nothing

A run may end in many places, some of them after parts of the new script have been made. Only a run
that injects render functions touches the document, and it touches exactly the template and the
content of the script:

    weaveInPlace_all_or_nothing : Leaves document result after ∧
      (after.template ≠ document.template ↔ result injects)

A source that is woven without an injection is printed as it was read.
-/

namespace SfcWeave

open Script

variable {σ : Type} {document after : Document} {result : Except WeavingError Injection}

/-- What is left of a document, by the result: with an injection its template is gone and its script
has another content, and otherwise it is the document that it was. -/
inductive Leaves (document : Document) : Except WeavingError Injection → Document → Prop
  | woven {injection : Injection} {template block : Block} {content : String} :
      injection.isInjected → document.template = some template → document.script = some block →
      Leaves document (.ok injection) (document.withScript block content)
  | kept {injection : Injection} : injection.isInjected = false →
      Leaves document (.ok injection) document
  | failed {error : WeavingError} : Leaves document (.error error) document

theorem Target.isInjected_injection (target : Target) : target.injection.isInjected := by
  cases target <;> rfl

/-- Every run leaves either the document that it found or the woven one, as its result says. -/
theorem leaves_of_weavesInPlace {parse : Parser} {toolchain : Toolchain σ}
    {options : WeavingOptions} {file : String} {session next : Session σ}
    (h : WeavesInPlace parse toolchain options file document session (result, next, after)) :
    Leaves document result after := by
  cases h with
  | failed => exact .failed
  | done hweaves =>
    cases hweaves with
    | @woven _ _ target _ _ _ _ _ _ hweavable =>
      exact .woven target.isInjected_injection hweavable.template hweavable.script
    | untyped | noTemplate | noComponent | problems => exact .kept rfl

/-- The template goes exactly if there is an injection. -/
theorem Leaves.template_ne_iff (h : Leaves document result after) :
    after.template ≠ document.template ↔
      ∃ injection, result = .ok injection ∧ injection.isInjected := by
  cases h with
  | woven hinjected htemplate _ =>
    simp [Document.withScript, htemplate, hinjected]
  | kept hkept =>
    simp [hkept]
  | failed => simp

/-- A run of weaving leaves the document alone unless it injects render functions; then it takes out
the template and puts another content into the script, and nothing else is changed. A source that
is woven without an injection is printed as it was read. -/
theorem weaveInPlace_all_or_nothing (parse : Parser) (toolchain : Toolchain σ)
    (options : WeavingOptions) (file : String) (session : Session σ) :
    (∀ document result next after,
      (weaveInPlace parse toolchain options file).run.run (session, document) =
        (result, next, after) →
      Leaves document result after ∧
      (after.template ≠ document.template ↔
        ∃ injection, result = .ok injection ∧ injection.isInjected)) ∧
    ∀ source woven next,
      (weave parse toolchain options file source).run.run session = (.ok woven, next) →
      woven.injection.isInjected = false →
      ∃ document, Document.parse source = .ok document ∧ woven.code = document.print := by
  constructor
  · intro document result next after hrun
    have hends := weavesInPlace_run parse toolchain options file document session
    rw [hrun] at hends
    have hleaves := leaves_of_weavesInPlace hends
    exact ⟨hleaves, hleaves.template_ne_iff⟩
  · intro source woven next hrun hkept
    obtain ⟨document, built, hparse, hweave, hcode⟩ := exists_run_of_run_weave hrun
    have hends := weaves_run parse toolchain options file document session
    rw [hweave] at hends
    -- the document that is printed is the one that a run in place would have left
    cases leaves_of_weavesInPlace (.done hends) with
    | woven hinjected => simp [hinjected] at hkept
    | kept => exact ⟨document, hparse, hcode⟩

/-- A toolchain that lowers one body and then stops working. -/
def stoppingToolchain : Toolchain Nat where
  compile _ calls := (.ok (.compiled ⟨"a()", ["b()"]⟩), calls + 1)
  transpile code calls :=
    if calls < 2 then (.ok code, calls + 1) else (.error ⟨"stopped", []⟩, calls + 1)

theorem weaveInPlace_all_or_nothing_stopped :
    (∃ next after,
      (weaveInPlace Script.parse stoppingToolchain {} "A.vue").run.run (⟨0, []⟩, accentedSample) =
        (.error (.toolchain ⟨"stopped", []⟩), next, after) ∧ after = accentedSample) ∧
    ∃ woven next document,
      (weave Script.parse stoppingToolchain {} "A.vue" "<b>  x</b>").run.run ⟨0, []⟩ =
        (.ok woven, next) ∧
      woven.injection = .skipped .noTypedScript ∧
      Document.parse "<b>  x</b>" = .ok document ∧ woven.code = document.print := by
  obtain ⟨hplace, hsource⟩ :=
    weaveInPlace_all_or_nothing Script.parse stoppingToolchain {} "A.vue" ⟨0, []⟩
  constructor
  · rcases hrun : (weaveInPlace Script.parse stoppingToolchain {} "A.vue").run.run
      (⟨0, []⟩, accentedSample) with ⟨result, next, after⟩
    have hresult : ((weaveInPlace Script.parse stoppingToolchain {} "A.vue").run.run
        (⟨0, []⟩, accentedSample)).1 = .error (.toolchain ⟨"stopped", []⟩) := by
      decide +kernel
    rw [hrun] at hresult
    obtain rfl := hresult
    obtain ⟨hleaves, -⟩ := hplace _ _ _ _ hrun
    cases hleaves
    exact ⟨next, _, rfl, rfl⟩
  · have hdone : ∃ woven ∈ ((weave Script.parse stoppingToolchain {} "A.vue"
        "<b>  x</b>").run.run ⟨0, []⟩).1.toOption, woven.injection = .skipped .noTypedScript := by
      decide +kernel
    obtain ⟨woven, hwoven, hskipped⟩ := hdone
    rw [Except.mem_toOption_iff] at hwoven
    have hkept : woven.injection.isInjected = false := by rw [hskipped]; rfl
    obtain ⟨document, hparse, hcode⟩ := hsource _ woven _ (Prod.ext hwoven rfl) hkept
    exact ⟨woven, _, document, Prod.ext hwoven rfl, hskipped, hparse, hcode⟩

end SfcWeave
