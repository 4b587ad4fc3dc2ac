import SfcWeave.Proofs.Result
import SfcWeave.Proofs.Script.Literal
import SfcWeave.Proofs.Weaving.Insertion

/-!
# Weaving a class once

The statement that is put behind a class comes with an import, and a script with this import is not
woven again. The module is written between quotes as it was named, and is found again by the value
of the literal. So what the woven script imports from is the module that its name decodes to, and
only a name in which every character stands for itself keeps the class from being woven twice:

    weaveDocument_once : ReadsImport parse options.runtimeModule → … →
      (∀ value, DecodesTo options.runtimeModule value → the woven script imports from value) ∧
      (IsVerbatim options.runtimeModule → weaving the script again is an error)

Nothing is assumed of a parser but that it reads the import. A path with backslashes is another
module once it is read, and there the class is woven twice (`weaveDocument_twice`).
-/

namespace SfcWeave

open Script

variable {σ : Type} {parse : Parser} {options : WeavingOptions} {functions : RenderFunctions}
  {target : ClassTarget} {script other front edited : Snapshot parse} {document : Document}
  {template block : Block} {name value : String}

/-! ### The import -/

/-- The script can be read, and a closing brace on a line after it is one too many. A parser may
accept a namespace or a comment that is not closed, and what follows then belongs to that. -/
def LeavesNothingOpen (parse : Parser) (text : String) : Prop :=
  (∃ module, parse text = .ok module) ∧ ∃ error, parse (text ++ "\n\x7d") = .error error

/-- On a line of its own, behind a script that leaves nothing open, an import is an item of the
module, and its source is the value of the literal. -/
def ReadsImport (parse : Parser) (literal : String) : Prop :=
  ∀ value front gap back module, DecodesTo literal value → LeavesNothingOpen parse front →
    gap ≠ "" → (∀ c ∈ gap.toList, c = '\n') →
    parse (front ++ gap ++ "import \x7b inject \x7d from \"" ++ literal ++ "\";" ++ "\n" ++
      back) = .ok module →
    ∃ item ∈ module.items, item.role = .importFrom value

/-- What is put behind the script of a class stands behind a script that has been read. -/
theorem exists_front_of_injectClass
    (h : injectClass options functions target script = .ok edited) :
    ∃ front : Snapshot parse,
      edited.text = front.text ++ classTail options functions target.name front.text := by
  have hbehind : ∀ front : Snapshot parse,
      front.append (classTail options functions target.name front.text) = .ok edited →
      edited.text = front.text ++ classTail options functions target.name front.text := by
    intro front hfront
    have hedited := Edited.append front (classTail options functions target.name front.text)
    rw [hfront] at hedited
    exact hedited.text_eq
  unfold injectClass at h
  dsimp only at h
  split at h
  · exact ⟨script, hbehind script h⟩
  · -- the tags of child components are declared first
    obtain ⟨declared, -, h⟩ := Except.bind_eq_ok_iff.mp h
    obtain ⟨imported, -, h⟩ := Except.bind_eq_ok_iff.mp h
    exact ⟨imported, hbehind imported h⟩

/-- The import stands on a line of its own. -/
theorem exists_gap_classTail (options : WeavingOptions) (functions : RenderFunctions)
    (name text : String) :
    ∃ gap, gap ≠ "" ∧ (∀ c ∈ gap.toList, c = '\n') ∧
      classTail options functions name text =
        gap ++ options.runtimeImport ++ "\n" ++ functions.injectCall name ++ "\n" := by
  by_cases hline : text.toList.getLast? = some '\n'
  · exact ⟨"\n", by decide, by simp, by simp [classTail, hline]⟩
  · exact ⟨"\n\n", by decide, by simp, by simp [classTail, hline]⟩

theorem append_line (front gap opening name closing newline call : String) :
    front ++ (gap ++ (opening ++ name ++ closing) ++ newline ++ call ++ newline) =
      front ++ gap ++ opening ++ name ++ closing ++ newline ++ (call ++ newline) := by
  simp only [String.append_assoc]

/-- A woven class imports from the module that the name of the runtime module decodes to. -/
theorem importsFrom_of_classTail (hreads : ReadsImport parse options.runtimeModule)
    (hvalue : DecodesTo options.runtimeModule value)
    {front : String} (hclosed : LeavesNothingOpen parse front)
    (htext : edited.text = front ++ classTail options functions name front) :
    edited.importsFrom value := by
  obtain ⟨gap, hne, hgap, htail⟩ := exists_gap_classTail options functions name front
  have hlayout : edited.text = front ++ gap ++ "import \x7b inject \x7d from \"" ++
      options.runtimeModule ++ "\";" ++ "\n" ++ (functions.injectCall name ++ "\n") := by
    rw [htext, htail]
    exact append_line front gap _ options.runtimeModule _ "\n" _
  have hparsed := edited.parsed
  rw [hlayout] at hparsed
  have himport := hreads value front gap _ edited.module hvalue hclosed hne hgap hparsed
  exact Snapshot.importsFrom_iff.mpr himport

/-! ### The guard -/

/-- A script with the import is not woven, whatever its template, and no toolchain is called. -/
theorem run_weaveDocument_importsFrom (toolchain : Toolchain σ) (file : String)
    (hweavable : Weavable options document template block) (htext : script.text = block.content)
    (himports : script.importsFrom options.runtimeModule) (session : Session σ) :
    (weaveDocument parse toolchain options file document).run.run session =
      (.error (.alreadyWoven file), session) := by
  have hends := weaves_run parse toolchain options file document session
  generalize (weaveDocument parse toolchain options file document).run.run session = ending at *
  have hblock : ∀ {template' block'}, Weavable options document template' block' →
      script.text = block'.content := by
    intro template' block' hweavable'
    obtain rfl := Option.some.inj (hweavable.script.symm.trans hweavable'.script)
    exact htext
  have hfresh : ∀ {template' block' first} {other : Snapshot parse},
      Weavable options document template' block' → ¬ Finds options file block' other first := by
    intro template' block' first other hweavable' hfinds
    obtain rfl := Snapshot.eq_of_text_eq ((hblock hweavable').trans hfinds.text.symm)
    simp [hfinds.fresh] at himports
  cases hends with
  | alreadyWoven => rfl
  | untyped huntyped => simp [hweavable.typed] at huntyped
  | noTemplate _ hnone => simp [hweavable.template] at hnone
  | syntaxError hweavable' herror =>
    rw [← hblock hweavable', script.parsed] at herror
    cases herror
  | noComponent hweavable' hfinds | unnamedClass hweavable' hfinds
  | compilerError hweavable' hfinds | problems hweavable' hfinds | loweringError hweavable' hfinds
  | editError hweavable' hfinds | woven hweavable' hfinds =>
    exact absurd hfinds (hfresh hweavable')

/-- A script whose class has got render functions, and which left nothing open before, imports from
the module that the name of the runtime module decodes to; if the name stands for itself, then
weaving the script again is an error, with whatever template, toolchain and file name. -/
theorem weaveDocument_once (parse : Parser) (toolchain : Toolchain σ) (options : WeavingOptions)
    (file : String) (document : Document) (hreads : ReadsImport parse options.runtimeModule)
    {session next : Session σ} {woven : Document} {tags : List String}
    (hrun : (weaveDocument parse toolchain options file document).run.run session =
      (.ok (woven, .cls name tags), next)) :
    ∃ (edited : Snapshot parse) (block : Block),
      woven.script = some block ∧ block.content = edited.text ∧
      (∃ (front : Snapshot parse) (functions : RenderFunctions),
        edited.text = front.text ++ classTail options functions name front.text) ∧
      ∀ front functions, edited.text = front ++ classTail options functions name front →
        LeavesNothingOpen parse front →
        (∀ value, DecodesTo options.runtimeModule value → edited.importsFrom value) ∧
        (IsVerbatim options.runtimeModule →
          edited.importsFrom options.runtimeModule ∧
          ∀ {τ : Type} (toolchain : Toolchain τ) (file : String) (document : Document)
            (session : Session τ),
            document.script = woven.script → document.template.isSome →
            (weaveDocument parse toolchain options file document).run.run session =
              (.error (.alreadyWoven file), session)) := by
  have hends := weaves_run parse toolchain options file document session
  rw [hrun] at hends
  generalize hinjection : Injection.cls name tags = injection at hends
  cases hends with
  | @woven template block target compiled state functions last script edited hweavable hfinds
      hcompile hlower hedit =>
    cases target with
    | options span => cases hinjection
    | cls target =>
      obtain ⟨rfl, rfl⟩ := Injection.cls.inj hinjection
      obtain ⟨front, htext⟩ := exists_front_of_injectClass hedit
      refine ⟨edited, _, rfl, rfl, ⟨front, functions, htext⟩, ?_⟩
      intro front functions htext hclosed
      have himports : ∀ value, DecodesTo options.runtimeModule value → edited.importsFrom value :=
        fun value hvalue => importsFrom_of_classTail hreads hvalue hclosed htext
      refine ⟨himports, ?_⟩
      intro hverbatim
      have hself := himports _ (decodesTo_self_iff.mpr hverbatim)
      refine ⟨hself, ?_⟩
      intro τ toolchain file again session hscript hsome
      obtain ⟨template', htemplate⟩ := Option.isSome_iff_exists.mp hsome
      -- the language of the script is the one that it had
      have htyped : again.hasTypedScript options.typedLang = true := by
        rw [← hweavable.typed, Document.hasTypedScript, Document.hasTypedScript, hscript,
          hweavable.script]
        rfl
      exact run_weaveDocument_importsFrom toolchain file ⟨htyped, htemplate, hscript⟩ rfl hself
        session
  | _ => cases hinjection

/-! ### Samples -/

/-- The options with another runtime module. -/
def WeavingOptions.ofRuntime (name : String) : WeavingOptions := { runtimeModule := name }

/-- The script of `accentedSample`, and that script with a closing brace too many and with render
functions. -/
def accentedScripts : List String :=
  ["export default class É\x7b\x7d", "export default class É\x7b\x7d\n\x7d",
    "export default class É\x7b\x7d\n\nimport \x7b inject \x7d from \"./rt\";\n" ++
      "inject(É, function (this: É) \x7bb()\x7d, []);\n"]

/-- The parser of scripts, as far as `accentedSample` is concerned. -/
def accentedParser : Parser := fun text =>
  if text ∈ accentedScripts then Script.parse text else .error ⟨.unexpectedEnd, Span.empty 0⟩

theorem mem_accentedScripts (script : Snapshot accentedParser) : script.text ∈ accentedScripts := by
  have hparsed := script.parsed
  unfold accentedParser at hparsed
  split at hparsed
  · assumption
  · cases hparsed

/-- Only the first script can be read and has another one behind it. -/
theorem leavesNothingOpen_accentedParser {front edited : Snapshot accentedParser}
    (htext : edited.text = front.text ++ classTail options functions name front.text) :
    LeavesNothingOpen accentedParser front.text := by
  have hlonger : front.text.length < edited.text.length := by
    obtain ⟨gap, hne, -, htail⟩ := exists_gap_classTail options functions name front.text
    have hgap : gap.length ≠ 0 := by simpa using hne
    rw [htext, htail]
    simp only [String.length_append]
    omega
  have hrefused : ∀ text ∈ accentedScripts, ∀ more ∈ accentedScripts, text.length < more.length →
      (accentedParser text).toOption.isSome →
      (accentedParser (text ++ "\n\x7d")).toOption = none := by
    decide +kernel
  have hread : (accentedParser front.text).toOption.isSome := by rw [front.parsed]; rfl
  have hnone := hrefused _ (mem_accentedScripts front) _ (mem_accentedScripts edited) hlonger hread
  refine ⟨⟨front.module, front.parsed⟩, ?_⟩
  cases hbrace : accentedParser (front.text ++ "\n\x7d") with
  | ok module => rw [hbrace] at hnone; cases hnone
  | error error => exact ⟨error, rfl⟩

theorem infix_append_line {needle : List Char} (front : String) {opening : String}
    (name closing newline back : String) (h : needle <:+: opening.toList) :
    needle <:+: (front ++ opening ++ name ++ closing ++ newline ++ back).toList := by
  simp only [String.toList_append]
  rw [List.append_assoc, List.append_assoc, List.append_assoc]
  exact h.trans (List.infix_append ..)

/-- Nothing but the woven script holds an import, and its source is the runtime module. -/
theorem readsImport_accentedParser : ReadsImport accentedParser "./rt" := by
  intro value front gap back module hvalue _ _ _ hparsed
  have hverbatim : IsVerbatim "./rt" := by decide
  obtain rfl := eq_of_decodesTo (decodesTo_self_iff.mpr hverbatim) hvalue
  have hall : ∀ text ∈ accentedScripts, ∀ script ∈ (Snapshot.ofText accentedParser text).toOption,
      "import ".toList <:+: text.toList → script.importsFrom "./rt" := by
    decide +kernel
  have hword : "import ".toList <:+: "import \x7b inject \x7d from \"".toList := by decide
  have hinfix := infix_append_line (front ++ gap) "./rt" "\";" "\n" back hword
  generalize front ++ gap ++ "import \x7b inject \x7d from \"" ++ "./rt" ++ "\";" ++
    "\n" ++ back = text at hparsed hinfix
  have hmem := mem_accentedScripts ⟨text, module, hparsed⟩
  have hscript : Snapshot.ofText accentedParser text = .ok ⟨text, module, hparsed⟩ :=
    Snapshot.ofText_eq_ok_iff.mpr rfl
  exact Snapshot.importsFrom_iff.mp (hall text hmem _ (Except.mem_toOption_iff.mpr hscript) hinfix)

theorem weaveDocument_once_accentedSample :
    ReadsImport accentedParser "./rt" ∧
    ∃ woven next,
      (weaveDocument accentedParser (constantToolchain "b()") (.ofRuntime "./rt") "A.vue"
        accentedSample).run.run ⟨(), []⟩ = (.ok (woven, .cls "É" []), next) ∧
      (weaveDocument accentedParser (constantToolchain "c()") (.ofRuntime "./rt") "B.vue"
        { woven with template := some { kind := .template, content := "<i/>" } }).run.run
          ⟨(), []⟩ = (.error (.alreadyWoven "B.vue"), ⟨(), []⟩) := by
  have hdone : ((weaveDocument accentedParser (constantToolchain "b()") (.ofRuntime "./rt") "A.vue"
      accentedSample).run.run ⟨(), []⟩).1.toOption.map (·.2) = some (.cls "É" []) := by
    decide +kernel
  rcases hrun : (weaveDocument accentedParser (constantToolchain "b()") (.ofRuntime "./rt") "A.vue"
    accentedSample).run.run ⟨(), []⟩ with ⟨_ | ⟨woven, _⟩, next⟩
  · rw [hrun] at hdone
    cases hdone
  rw [hrun] at hdone
  obtain rfl := Option.some.inj hdone
  refine ⟨readsImport_accentedParser, woven, next, rfl, ?_⟩
  obtain ⟨edited, block, hscript, -, ⟨front, functions, htext⟩, honce⟩ :=
    weaveDocument_once accentedParser (constantToolchain "b()") (.ofRuntime "./rt") "A.vue"
      accentedSample readsImport_accentedParser hrun
  have hclosed := leavesNothingOpen_accentedParser htext
  exact ((honce _ _ htext hclosed).2 (by decide)).2 _ _ _ _ rfl rfl

/-- A module whose name holds a backslash, which the value of the literal does not: a class gets its
statement twice. -/
theorem weaveDocument_twice :
    ∃ woven next again last,
      (weaveDocument Script.parse (constantToolchain "b()") (.ofRuntime ".\\rt") "A.vue"
        accentedSample).run.run ⟨(), []⟩ = (.ok (woven, .cls "É" []), next) ∧
      (weaveDocument Script.parse (constantToolchain "b()") (.ofRuntime ".\\rt") "A.vue"
        { woven with template := accentedSample.template }).run.run ⟨(), []⟩ =
          (.ok (again, .cls "É" []), last) := by
  have hdone : ∃ woven ∈ ((weaveDocument Script.parse (constantToolchain "b()")
      (.ofRuntime ".\\rt") "A.vue" accentedSample).run.run ⟨(), []⟩).1.toOption,
      woven.2 = .cls "É" [] ∧
      ∃ again ∈ ((weaveDocument Script.parse (constantToolchain "b()") (.ofRuntime ".\\rt") "A.vue"
        { woven.1 with template := accentedSample.template }).run.run ⟨(), []⟩).1.toOption,
        again.2 = .cls "É" [] := by
    decide +kernel
  obtain ⟨⟨woven, _⟩, hwoven, rfl, ⟨again, _⟩, hagain, rfl⟩ := hdone
  rw [Except.mem_toOption_iff] at hwoven hagain
  exact ⟨woven, _, again, _, Prod.ext hwoven rfl, Prod.ext hagain rfl⟩

end SfcWeave
