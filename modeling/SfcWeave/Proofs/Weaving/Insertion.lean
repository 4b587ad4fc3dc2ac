import SfcWeave.Proofs.Weaving.Outcome
import SfcWeave.Script.Parser

/-!
# Where render functions are put

Weaving changes a script by insertions alone. `Inserts options functions text target woven` says
which: a class gets the declaration of its child tags before its closing brace, the import for it
in front, and the statement that installs the functions behind everything; an options object gets
its members right after its opening brace. The rest of the text stays as it is, byte for byte.

The places are offsets into the text as it was found, while every insertion but the first is made
in a text that has grown. They meet because the insertions are made from the back to the front;
`edited_injectClass` carries this out. All that is needed of the parser is that spans fit the text
(`ItemsFit`).
-/

namespace SfcWeave

open Script

variable {σ : Type} {parse : Parser} {script : Snapshot parse} {text : String}

/-! ### Spans that fit a text -/

/-- The object literal that a call takes first. -/
def firstObject? : Expr → Option Span
  | .call _ (.plain (.object span _) :: _) => some span
  | _ => none

/-- The spans that weaving reads of an item are spans in `text`: that of a default-exported class
ends with a closing brace, and that of the options of a default-exported call starts with an
opening one. -/
def RoleFits (text : String) : ItemRole → Prop
  | .defaultClass declaration =>
    ∃ source ∈ declaration.span.slice? text, source.toList.getLast? = some '\x7d'
  | .defaultExpression value =>
    ∀ span ∈ firstObject? value, ∃ source ∈ span.slice? text, source.toList.head? = some '\x7b'
  | .importFrom _ | .plain => True

instance (text : String) : DecidablePred (RoleFits text)
  | .defaultClass _ => inferInstanceAs (Decidable (∃ source ∈ _, _))
  | .defaultExpression _ => inferInstanceAs (Decidable (∀ span ∈ _, ∃ source ∈ _, _))
  | .importFrom _ | .plain => .isTrue trivial

mutual

/-- The spans of an item and of all items inside it fit. -/
def ItemFits (text : String) : Item → Prop
  | .mk _ role nested => RoleFits text role ∧ ItemsFit text nested

def ItemsFit (text : String) : List Item → Prop
  | [] => True
  | item :: items => ItemFits text item ∧ ItemsFit text items

end

mutual

instance decidableItemFits (text : String) : (item : Item) → Decidable (ItemFits text item)
  | .mk _ _ nested =>
    have := decidableItemsFit text nested
    inferInstanceAs (Decidable (RoleFits text _ ∧ ItemsFit text nested))

instance decidableItemsFit (text : String) : (items : List Item) → Decidable (ItemsFit text items)
  | [] => .isTrue trivial
  | item :: items =>
    have := decidableItemFits text item
    have := decidableItemsFit text items
    inferInstanceAs (Decidable (ItemFits text item ∧ ItemsFit text items))

end

/-- Where a candidate says that functions can be put, there is a brace. -/
def Candidate.Addresses (text : String) : Candidate → Prop
  | .component (.cls target) => ∃ before after, text = before ++ "\x7d" ++ after ∧
      target.closingBrace = before.utf8ByteSize ∧ target.span.stop = before.utf8ByteSize + 1
  | .component (.options span) => ∃ before after, text = before ++ "\x7b" ++ after ∧
      span.start = before.utf8ByteSize
  | .unnamedClass _ => True

theorem byteLength_reverse (cs : List Char) : Text.byteLength cs.reverse = Text.byteLength cs := by
  induction cs with
  | nil => rfl
  | cons c cs ih =>
    rw [List.reverse_cons, Text.byteLength_append, ih]
    simp [Nat.add_comm]

/-- The last occurrence of a character is the one that no other follows. -/
theorem lastOffset?_append_cons {c : Char} {before after : List Char} (h : c ∉ after) :
    lastOffset? c (before ++ c :: after) = some (Text.byteLength before) := by
  have hrun : ∀ d ∈ after.reverse, (d != c) = true := by
    intro d hd
    rw [bne_iff_ne]
    rintro rfl
    exact h (List.mem_reverse.mp hd)
  unfold lastOffset?
  rw [List.reverse_append, List.reverse_cons, List.append_assoc,
    List.dropWhile_append_of_pos hrun]
  simp [byteLength_reverse]

theorem lastOffset?_append (c : Char) (body : String) :
    lastOffset? c (body ++ String.singleton c).toList = some body.utf8ByteSize := by
  rw [String.toList_append, String.toList_singleton, lastOffset?_append_cons List.not_mem_nil,
    Text.byteLength_toList]

theorem exists_append_of_getLast? {c : Char} (h : text.toList.getLast? = some c) :
    ∃ body, text = body ++ String.singleton c := by
  obtain ⟨body, hbody⟩ := List.getLast?_eq_some_iff.mp h
  refine ⟨String.ofList body, ?_⟩
  rw [← String.toList_inj, hbody]
  simp

theorem exists_append_of_head? {c : Char} (h : text.toList.head? = some c) :
    ∃ body, text = String.singleton c ++ body := by
  obtain ⟨body, hbody⟩ := List.head?_eq_some_iff.mp h
  refine ⟨String.ofList body, ?_⟩
  rw [← String.toList_inj, hbody]
  simp

theorem addresses_ofClass? {declaration : ClassDeclaration} {found : Found}
    (hfits : RoleFits script.text (.defaultClass declaration))
    (h : ofClass? script declaration = some found) : found.candidate.Addresses script.text := by
  obtain ⟨source, hsource, hlast⟩ := hfits
  obtain ⟨body, rfl⟩ := exists_append_of_getLast? hlast
  obtain ⟨before, after, htext, hspan⟩ := Span.slice?_eq_some_iff.mp hsource
  unfold ofClass? at h
  split at h
  · obtain rfl := Option.some.inj h
    trivial
  · next name hname =>
    -- the last brace in the text of the class is the one it ends with
    rw [Snapshot.source, hsource, Option.getD_some, lastOffset?_append] at h
    obtain rfl := Option.some.inj h
    refine ⟨before ++ body, after, ?_, ?_, ?_⟩
    · rw [htext, ← String.append_assoc]
      rfl
    · show declaration.span.start + body.utf8ByteSize = _
      rw [String.utf8ByteSize_append, hspan]
    · show declaration.span.stop = _
      rw [hspan, ← String.append_assoc, String.utf8ByteSize_append]
      rfl

theorem addresses_ofExpression? {value : Expr} {found : Found}
    (hfits : RoleFits text (.defaultExpression value)) (h : ofExpression? value = some found) :
    found.candidate.Addresses text := by
  unfold ofExpression? at h
  split at h
  · next callee span members rest =>
    obtain rfl := Option.some.inj h
    obtain ⟨source, hsource, hhead⟩ := hfits span rfl
    obtain ⟨body, rfl⟩ := exists_append_of_head? hhead
    obtain ⟨before, after, htext, hspan⟩ := Span.slice?_eq_some_iff.mp hsource
    refine ⟨before, body ++ after, ?_, ?_⟩
    · rw [htext, String.append_assoc, String.append_assoc, String.append_assoc]
      rfl
    · rw [hspan]
  · cases h

mutual

-- items hold items, so both lemmas go along with the two functions that list candidates
theorem addresses_candidatesOfItem {item : Item} (h : ItemFits script.text item) :
    ∀ found ∈ candidatesOfItem script item, found.candidate.Addresses script.text := by
  obtain ⟨span, role, nested⟩ := item
  obtain ⟨hrole, hnested⟩ := h
  have hmore := addresses_candidatesOfItems hnested
  unfold candidatesOfItem
  split
  · next declaration =>
    split
    · next found hfound =>
      rw [List.forall_mem_cons]
      exact ⟨addresses_ofClass? hrole hfound, hmore⟩
    · simp
  · next value =>
    intro found hmem
    rcases List.mem_append.mp hmem with hmem | hmem
    · exact addresses_ofExpression? hrole (Option.mem_toList.mp hmem)
    · exact hmore found hmem
  · exact hmore

theorem addresses_candidatesOfItems {items : List Item} (h : ItemsFit script.text items) :
    ∀ found ∈ candidatesOfItems script items, found.candidate.Addresses script.text := by
  cases items with
  | nil => simp [candidatesOfItems]
  | cons item items =>
    obtain ⟨hitem, hitems⟩ := h
    intro found hmem
    rcases List.mem_append.mp hmem with hmem | hmem
    · exact addresses_candidatesOfItem hitem found hmem
    · exact addresses_candidatesOfItems hitems found hmem

end

/-- The component that is found stands where it is said to stand. -/
theorem addresses_first {file : String} {candidate : Candidate}
    (hfits : ItemsFit script.text script.module.items)
    (h : (locate file script).first = some candidate) : candidate.Addresses script.text := by
  obtain ⟨found, hfound, rfl⟩ := Option.map_eq_some_iff.mp h
  exact addresses_candidatesOfItems hfits found (List.mem_of_mem_head? hfound)

/-! ### The edits -/

/-- The line in front of a script that imports the type of reserved tags, if they are declared. -/
def importLine (options : WeavingOptions) (tags : List String) : String :=
  if tags = [] then "" else options.builtInImport ++ "\n"

/-- What is put into a class for the tags of its child components. -/
def declaration (tags : List String) : String := if tags = [] then "" else childDeclaration tags

/-- The new text of a script: the old one, with render functions for a component put into it. -/
inductive Inserts (options : WeavingOptions) (functions : RenderFunctions) (text : String) :
    Target → (woven : String) → Prop
  | cls {target before after} : text = before ++ after →
      before.utf8ByteSize = target.span.stop - 1 →
      Inserts options functions text (.cls target)
        (importLine options target.childTags ++ before ++ declaration target.childTags ++ after ++
          (if text.toList.getLast? = some '\n' then "" else "\n") ++
          "\n" ++ options.runtimeImport ++ "\n" ++ functions.injectCall target.name ++ "\n")
  | options {span before after} : text = before ++ after →
      before.utf8ByteSize = span.start + 1 →
      Inserts options functions text (.options span) (before ++ functions.optionMembers ++ after)

theorem getLast?_append_of_ne {front back : String} (h : back ≠ "") :
    (front ++ back).toList.getLast? = back.toList.getLast? := by
  obtain ⟨c, hc⟩ : ∃ c, back.toList.getLast? = some c := by
    rw [← Option.isSome_iff_exists, List.getLast?_isSome]
    simpa using h
  rw [String.toList_append, List.getLast?_append, hc]
  rfl

/-- Insertions before the last character do not change what is put behind a script. -/
theorem classTail_append {options : WeavingOptions} {functions : RenderFunctions} {name : String}
    {front front' back : String} (h : back ≠ "") :
    classTail options functions name (front ++ back) =
      classTail options functions name (front' ++ back) := by
  unfold classTail
  rw [getLast?_append_of_ne h, getLast?_append_of_ne h]

theorem edited_injectClass {options : WeavingOptions} {functions : RenderFunctions}
    {target : ClassTarget} {before after : String} (htext : script.text = before ++ after)
    (hbrace : target.closingBrace = before.utf8ByteSize) (hne : after ≠ "") :
    Edited (importLine options target.childTags ++ before ++ declaration target.childTags ++
        after ++ classTail options functions target.name script.text)
      (injectClass options functions target script) := by
  unfold injectClass importLine declaration
  rw [htext]
  by_cases htags : target.childTags = []
  · rw [if_pos htags, if_pos htags, if_pos htags, String.empty_append, String.append_empty, ← htext]
    exact Edited.append script _
  · rw [if_neg htags, if_neg htags, if_neg htags, hbrace]
    -- the declaration goes in first, while offsets are those of the text that was found
    apply (Edited.splice htext (childDeclaration target.childTags)).bind
    intro declared hdeclared
    have hstart : declared.text = "" ++ declared.text := String.empty_append.symm
    apply (Edited.splice hstart (options.builtInImport ++ "\n")).bind
    intro imported himported
    rw [String.empty_append, hdeclared] at himported
    have htail : classTail options functions target.name imported.text =
        classTail options functions target.name (before ++ after) := by
      rw [himported, ← String.append_assoc]
      exact classTail_append hne
    have h := Edited.append imported (classTail options functions target.name imported.text)
    dsimp only
    rw [htail] at h ⊢
    rw [himported] at h
    simpa [String.append_assoc] using h

theorem edited_injectOptions {functions : RenderFunctions} {span : Span} {before after : String}
    (htext : script.text = before ++ after) (hbrace : span.start + 1 = before.utf8ByteSize) :
    Edited (before ++ functions.optionMembers ++ after) (injectOptions functions span script) := by
  unfold injectOptions
  rw [hbrace]
  exact Edited.splice htext functions.optionMembers

/-- Whatever is put into a script, it goes where the component that was found has its braces. -/
theorem inserts_injectInto {options : WeavingOptions} {functions : RenderFunctions}
    {target : Target} (h : (Candidate.component target).Addresses script.text) :
    ∃ woven, Inserts options functions script.text target woven ∧
      Edited woven (injectInto options functions script target) := by
  cases target with
  | cls target =>
    obtain ⟨before, after, htext, hbrace, hstop⟩ := h
    rw [String.append_assoc] at htext
    have hne : "\x7d" ++ after ≠ "" := by simp
    have hstop' : before.utf8ByteSize = target.span.stop - 1 := by omega
    have hinserts : Inserts options functions script.text (.cls target) _ := .cls htext hstop'
    refine ⟨_, ?_, edited_injectClass htext hbrace hne⟩
    simpa [classTail, String.append_assoc] using hinserts
  | options span =>
    obtain ⟨before, after, htext, hstart⟩ := h
    have hbrace : span.start + 1 = (before ++ "\x7b").utf8ByteSize := by
      rw [String.utf8ByteSize_append, hstart]
      rfl
    exact ⟨_, .options htext hbrace.symm, edited_injectOptions htext hbrace⟩

/-! ### Whole runs -/

/-- The component that a run finds stands where it is said to stand. -/
theorem addresses_of_finds {options : WeavingOptions} {file : String} {document : Document}
    {template block : Block} {candidate : Candidate}
    (hfits : ∀ block ∈ document.script, ∀ module, parse block.content = .ok module →
      ItemsFit block.content module.items)
    (hweavable : Weavable options document template block)
    (hfinds : Finds options file block script (some candidate)) :
    candidate.Addresses script.text := by
  have hparsed := script.parsed
  rw [hfinds.text] at hparsed
  have hspans := hfits block hweavable.script script.module hparsed
  rw [← hfinds.text] at hspans
  exact addresses_first hspans hfinds.first

/-- Weaving puts render functions into the script and changes nothing else of its text, for every
parser whose spans fit; no edit is ever refused for its span. -/
theorem weaveDocument_inserts (parse : Parser) (toolchain : Toolchain σ) (options : WeavingOptions)
    (file : String) (document : Document)
    (hfits : ∀ block ∈ document.script, ∀ module, parse block.content = .ok module →
      ItemsFit block.content module.items)
    (session : Session σ) :
    (∀ span size next, (weaveDocument parse toolchain options file document).run.run session ≠
      (.error (.invalidSplice span size), next)) ∧
    ∀ woven injection next,
      (weaveDocument parse toolchain options file document).run.run session =
        (.ok (woven, injection), next) → injection.isInjected →
      ∃ template block target compiled state functions text, ∃ script : Snapshot parse,
        document.template = some template ∧ document.script = some block ∧
        script.text = block.content ∧
        (locate file script).first = some (.component target) ∧
        injection = target.injection ∧
        toolchain.compile template.content session.toolchain = (.ok (.compiled compiled), state) ∧
        (RenderFunctions.ofCompiled toolchain compiled).run.run state =
          (.ok functions, next.toolchain) ∧
        Inserts options functions block.content target text ∧
        woven = { document with
          template := none
          script := some { block with content := text } } := by
  have hends := weaves_run parse toolchain options file document session
  constructor
  · intro span size next hrun
    rw [hrun] at hends
    generalize herror : WeavingError.invalidSplice span size = error at hends
    -- an invalid splice can come from an edit only, and edits are made where a text can be split
    cases hends with
    | loweringError _ _ _ hlower =>
      rcases FailsWith.ofCompiled toolchain _ _ _ _ hlower with ⟨cause, rfl⟩ | ⟨code, rfl⟩
      · cases herror
      · cases herror
    | editError hweavable hfinds _ _ hedit =>
      have haddress := addresses_of_finds hfits hweavable hfinds
      obtain ⟨text, -, hedited⟩ := inserts_injectInto haddress
      rw [hedit] at hedited
      cases hedited
      cases herror
    | _ => cases herror
  · intro woven injection next hrun hinjected
    rw [hrun] at hends
    cases hends with
    | @woven template block target compiled state functions last script edited hweavable hfinds
        hcompile hlower hedit =>
      have haddress := addresses_of_finds hfits hweavable hfinds
      obtain ⟨text, hinserts, hedited⟩ := inserts_injectInto haddress
      rw [hedit] at hedited
      obtain rfl := hedited.text_eq
      rw [hfinds.text] at hinserts
      exact ⟨template, block, target, compiled, state, functions, edited.text, script,
        hweavable.template, hweavable.script, hfinds.text, hfinds.first, rfl, hcompile, hlower,
        hinserts, rfl⟩
    | _ => cases hinjected

/-- A toolchain that compiles every template to one body, and lowers nothing. -/
def constantToolchain (render : String) : Toolchain Unit where
  compile _ _ := (.ok (.compiled ⟨render, []⟩), ())
  transpile code _ := (.ok code, ())

/-- A component whose name takes two bytes in front of its closing brace. -/
def accentedSample : Document where
  template := some { kind := .template, content := "<b/>" }
  script := some
    { kind := .script
      content := "export default class É\x7b\x7d"
      attributes := [{ name := "lang", value := .text "ts" }] }

theorem weaveDocument_inserts_accentedSample :
    (∀ block ∈ accentedSample.script, ∀ module, Script.parse block.content = .ok module →
      ItemsFit block.content module.items) ∧
    ∃ woven next text target functions,
      (weaveDocument Script.parse (constantToolchain "b()") {} "A.vue" accentedSample).run.run
        ⟨(), []⟩ = (.ok (woven, .cls "É" []), next) ∧
      Inserts {} functions "export default class É\x7b\x7d" target text ∧
      woven.script.map (·.content) = some text := by
  have hfits : ∀ block ∈ accentedSample.script, ∀ module,
      Script.parse block.content = .ok module → ItemsFit block.content module.items := by
    have hread : (Script.parse "export default class É\x7b\x7d").toOption.any
        fun module => ItemsFit "export default class É\x7b\x7d" module.items := by
      decide +kernel
    rintro block hblock module hmodule
    obtain rfl := Option.some.inj hblock
    rw [hmodule] at hread
    exact of_decide_eq_true hread
  rcases hrun : (weaveDocument Script.parse (constantToolchain "b()") {} "A.vue"
    accentedSample).run.run ⟨(), []⟩ with ⟨result, next⟩
  have hdone : ((weaveDocument Script.parse (constantToolchain "b()") {} "A.vue"
      accentedSample).run.run ⟨(), []⟩).1.toOption.map (·.2) = some (.cls "É" []) := by
    decide +kernel
  rw [hrun] at hdone
  rcases result with error | ⟨woven, injection⟩
  · cases hdone
  obtain rfl := Option.some.inj hdone
  obtain ⟨_, block, target, _, _, functions, text, _, _, hblock, _, _, _, _, _, hinserts, rfl⟩ :=
    (weaveDocument_inserts Script.parse (constantToolchain "b()") {} "A.vue" accentedSample hfits
      ⟨(), []⟩).2 _ _ _ hrun rfl
  obtain rfl := Option.some.inj hblock
  exact ⟨hfits, _, next, text, target, functions, rfl, hinserts, rfl⟩

end SfcWeave
