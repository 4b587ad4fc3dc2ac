import SfcWeave.Proofs.Document.Deindent
import SfcWeave.Proofs.Weaving.Insertion

/-!
# Reading a woven source again

The text of a woven document should be read as that document. Render functions go into the script
as they come from the toolchain, and nothing keeps them from holding a closing tag of the script;
such a text is cut short when it is read. That is the only way in which it can go wrong,

    weave_reread_iff : (∃ reread, parse woven.code = reread ∧ reread = built up to spans) ↔
      ¬ closingTag "script" <:+: script of built

and otherwise weaving the text once more finds no template and stops.
-/

namespace SfcWeave

open Script
open Document (closingTag deindented)

variable {σ : Type} {parse : Parser} {options : WeavingOptions} {source : String}
  {document : Document} {block : Block}

/-! ### The document that is built -/

/-- The document without its template, and with a new content in its script. -/
def Document.withScript (document : Document) (block : Block) (content : String) : Document :=
  { document with template := none, script := some { block with content } }

namespace Document

theorem toList_withScript (content : String) :
    (document.withScript block content).toList = { block with content } :: document.blocks := rfl

/-- What has been woven can be printed unless the script holds its own closing tag. -/
theorem isPrintable_withScript_iff (hparse : Document.parse source = .ok document)
    (hblock : document.script = some block) (content : String) :
    (document.withScript block content).IsPrintable ↔
      ¬ closingTag "script".toList <:+: content.toList := by
  obtain ⟨⟨hplace, hall⟩, -⟩ := isPrintable_of_parse_deindent hparse
  have hkind : block.kind = .script := hplace.script block hblock
  have hcontent : IsContent block.kind.tag.toList content.toList ↔
      ¬ closingTag "script".toList <:+: content.toList := by
    rw [hkind]
    rfl
  constructor
  · intro h
    exact hcontent.mp (h.blocks { block with content } List.mem_cons_self).content
  · intro h
    have hread := hall block (by simp [toList, hblock])
    refine ⟨⟨by simp [withScript], by simp [withScript, hkind], hplace.others⟩, ?_⟩
    rw [toList_withScript, List.forall_mem_cons]
    refine ⟨⟨hread.kind, hread.attributes, hcontent.mpr h⟩, ?_⟩
    intro other hother
    exact hall other (by simp [toList, hother])

theorem asRead_withScript (hparse : Document.parse source = .ok document)
    (hblock : document.script = some block) (content : String) :
    (document.withScript block content).asRead = document.withScript block content := by
  obtain ⟨-, hall⟩ := isPrintable_of_parse_deindent hparse
  apply map_eq_self
  rw [toList_withScript, List.forall_mem_cons]
  constructor
  · show ({ block.asRead with content } : Block) = { block with content }
    rw [hall block (by simp [toList, hblock])]
  · intro other hother
    exact hall other (by simp [toList, hother])

/-- The text of what has been woven is read as it was, but for spans, unless the script holds its
own closing tag: documents that are read are those that can be printed. -/
theorem exists_reread_iff (hparse : Document.parse source = .ok document)
    (hblock : document.script = some block) (content : String) :
    (∃ reread, Document.parse (document.withScript block content).print false = .ok reread ∧
        reread.withoutSpans = (document.withScript block content).withoutSpans) ↔
      ¬ closingTag "script".toList <:+: content.toList := by
  rw [← isPrintable_withScript_iff hparse hblock]
  constructor
  · rintro ⟨reread, hread, hsame⟩
    rw [← isPrintable_withoutSpans_iff, ← hsame, isPrintable_withoutSpans_iff]
    exact (isPrintable_of_parse hread).1
  · intro h
    obtain ⟨reread, hread, hsame⟩ := parse_print h
    rw [asRead_withScript hparse hblock] at hsame
    exact ⟨reread, hread, hsame⟩

theorem attribute?_withoutSpans (block : Block) (name : String) :
    block.withoutSpans.attribute? name = block.attribute? name := by
  unfold Block.attribute? Block.withoutSpans
  rw [List.find?_map, Option.map_map]
  rfl

/-- The language of a block does not depend on spans. -/
theorem lang?_withoutSpans (block : Block) : block.withoutSpans.lang? = block.lang? := by
  unfold Block.lang? Block.attributeText?
  rw [attribute?_withoutSpans]

end Document

/-! ### Weaving again -/

/-- A document that has got render functions is the one it was, but for its script and template. -/
theorem exists_withScript_of_weaves {toolchain : Toolchain σ} {file : String} {built : Document}
    {injection : Injection} {session next : Session σ}
    (h : Weaves parse toolchain options file document session (.ok (built, injection), next))
    (hinjected : injection.isInjected) :
    ∃ block content, document.hasTypedScript options.typedLang = true ∧
      document.script = some block ∧ built = document.withScript block content := by
  cases h with
  | woven hweavable => exact ⟨_, _, hweavable.typed, hweavable.script, rfl⟩
  | _ => cases hinjected

/-- Without a template nothing is woven. -/
theorem run_weaveDocument_noTemplate (parse : Parser) (toolchain : Toolchain σ) (file : String)
    (htyped : document.hasTypedScript options.typedLang = true)
    (htemplate : document.template = none)
    (session : Session σ) :
    (weaveDocument parse toolchain options file document).run.run session =
      (.ok (document, .skipped .noTemplate), session) := by
  have hends := weaves_run parse toolchain options file document session
  generalize (weaveDocument parse toolchain options file document).run.run session = ending at *
  cases hends with
  | noTemplate => rfl
  | untyped huntyped => simp [htyped] at huntyped
  | syntaxError hweavable | alreadyWoven hweavable | noComponent hweavable
  | unnamedClass hweavable | compilerError hweavable | problems hweavable
  | loweringError hweavable | editError hweavable | woven hweavable =>
    have htemplate' := hweavable.template
    simp [htemplate] at htemplate'

/-- A text that is read as what was woven is not woven again. -/
theorem run_weave_reread {reread : Document} {block : Block} {content code : String}
    (hparse : Document.parse code false = .ok reread)
    (hsame : reread.withoutSpans = (document.withScript block content).withoutSpans)
    (hblock : document.script = some block)
    (htyped : document.hasTypedScript options.typedLang = true)
    (parse : Parser) (toolchain : Toolchain σ) (file : String) (session : Session σ) :
    (weave parse toolchain options file code).run.run session =
      (.ok ⟨(reread.map deindented).print, .skipped .noTemplate⟩, session) := by
  have hdeindent : Document.parse code = .ok (reread.map deindented) :=
    Document.parse_deindent_eq_ok_iff.mpr ⟨reread, hparse, rfl⟩
  have htemplate : (reread.map deindented).template = none := by
    have h := congrArg Document.template hsame
    simpa [Document.withoutSpans, Document.map, Document.withScript] using h
  have htyped' : (reread.map deindented).hasTypedScript options.typedLang = true := by
    have h := congrArg (·.hasTypedScript options.typedLang) hsame
    unfold Document.withoutSpans at h
    rw [Document.hasTypedScript_map Document.lang?_withoutSpans,
      Document.hasTypedScript_map Document.lang?_withoutSpans] at h
    -- neither spans nor indentation nor the new content have a part in the language
    have hlang : ∀ block, (deindented block).lang? = block.lang? := fun _ => rfl
    rw [Document.hasTypedScript_map hlang, h, ← htyped]
    simp [Document.hasTypedScript, Document.withScript, hblock, Block.lang?, Block.attributeText?,
      Block.attribute?]
  rw [run_weave, hdeindent]
  dsimp only
  rw [run_weaveDocument_noTemplate parse toolchain file htyped' htemplate]

/-- The text of a woven document is read as this document, but for spans, unless a closing tag has
come into its script; then it is not woven a second time, whatever the toolchain. -/
theorem weave_reread_iff (parse : Parser) (toolchain : Toolchain σ) (options : WeavingOptions)
    (file source : String) {woven : Woven} {session next : Session σ}
    (hrun : (weave parse toolchain options file source).run.run session = (.ok woven, next))
    (hinjected : woven.injection.isInjected) :
    ∃ document block content, Document.parse source = .ok document ∧
      document.script = some block ∧
      (weaveDocument parse toolchain options file document).run.run session =
        (.ok (document.withScript block content, woven.injection), next) ∧
      ((∃ reread, Document.parse woven.code false = .ok reread ∧
          reread.withoutSpans = (document.withScript block content).withoutSpans) ↔
        ¬ closingTag "script".toList <:+: content.toList) ∧
      (¬ closingTag "script".toList <:+: content.toList →
        ∀ {τ : Type} (toolchain : Toolchain τ) (file : String) (session : Session τ),
          ∃ code, (weave parse toolchain options file woven.code).run.run session =
            (.ok ⟨code, .skipped .noTemplate⟩, session)) := by
  obtain ⟨document, built, hparse, hweave, hcode⟩ := exists_run_of_run_weave hrun
  have hends := weaves_run parse toolchain options file document session
  rw [hweave] at hends
  obtain ⟨block, content, htyped, hblock, rfl⟩ := exists_withScript_of_weaves hends hinjected
  have hreread := Document.exists_reread_iff hparse hblock content
  rw [← hcode] at hreread
  refine ⟨document, block, content, hparse, hblock, hweave, hreread, ?_⟩
  intro hclosing τ toolchain file session
  obtain ⟨reread, hread, hsame⟩ := hreread.mpr hclosing
  exact ⟨_, run_weave_reread hread hsame hblock htyped parse toolchain file session⟩

/-- A source with an options object and a template. -/
def optionsSource : String :=
  "<template></template><script lang=\"ts\">export default f(\x7b\x7d)</script>"

theorem weave_reread_iff_optionsSource :
    ∃ woven next reread,
      (weave Script.parse (constantToolchain "b()") {} "A.vue" optionsSource).run.run ⟨(), []⟩ =
        (.ok woven, next) ∧
      woven.injection = .options ∧
      Document.parse woven.code false = .ok reread ∧ reread.template = none := by
  have hdone : ∃ document ∈ (Document.parse optionsSource).toOption,
      ∃ result ∈ ((weaveDocument Script.parse (constantToolchain "b()") {} "A.vue"
        document).run.run ⟨(), []⟩).1.toOption,
      result.2 = .options ∧
        ∀ block ∈ result.1.script, ¬ closingTag "script".toList <:+: block.content.toList := by
    decide +kernel
  obtain ⟨document, hparse, ⟨built, _⟩, hresult, rfl, hclosing⟩ := hdone
  rw [Except.mem_toOption_iff] at hparse hresult
  rcases hweave : (weaveDocument Script.parse (constantToolchain "b()") {} "A.vue" document).run.run
    ⟨(), []⟩ with ⟨_, next⟩
  rw [hweave] at hresult
  obtain rfl := hresult
  have hrun := run_weave Script.parse (constantToolchain "b()") {} "A.vue" optionsSource ⟨(), []⟩
  rw [hparse] at hrun
  dsimp only at hrun
  rw [hweave] at hrun
  obtain ⟨document', block, content, hparse', -, hweave', hreread, -⟩ :=
    weave_reread_iff Script.parse (constantToolchain "b()") {} "A.vue" optionsSource hrun rfl
  obtain rfl := Except.ok.inj (hparse.symm.trans hparse')
  rw [hweave'] at hweave
  cases hweave
  obtain ⟨reread, hread, hsame⟩ := hreread.mpr (hclosing _ rfl)
  have htemplate := congrArg Document.template hsame
  refine ⟨_, next, reread, hrun, rfl, hread, ?_⟩
  simpa [Document.withoutSpans, Document.map, Document.withScript] using htemplate

/-- A body that closes the script and opens a template: what has been woven cannot be read. -/
theorem weave_not_reread :
    ∃ woven next,
      (weave Script.parse (constantToolchain "a('</script><template>')") {} "A.vue"
        optionsSource).run.run ⟨(), []⟩ = (.ok woven, next) ∧
      woven.injection.isInjected ∧
      ∀ reread, Document.parse woven.code false ≠ .ok reread := by
  have hdone : ∃ woven ∈ ((weave Script.parse (constantToolchain "a('</script><template>')") {}
      "A.vue" optionsSource).run.run ⟨(), []⟩).1.toOption,
      woven.injection.isInjected ∧ (Document.parse woven.code false).toOption = none := by
    decide +kernel
  obtain ⟨woven, hwoven, hinjected, hparse⟩ := hdone
  rw [Except.mem_toOption_iff] at hwoven
  refine ⟨woven, _, Prod.ext hwoven rfl, hinjected, ?_⟩
  intro reread hread
  rw [hread] at hparse
  cases hparse

end SfcWeave
