import SfcWeave.Proofs.Text.Blank
import SfcWeave.Proofs.Weaving.Calls

/-!
# Bodies come back out of their wrappers

A body goes to the transpiler inside a function that is called at once, and is taken out of the
code that comes back. `IsWrapped code body` says when code is a wrapped body, and

    unwrap?_eq_some_iff : unwrap? code = some body ↔ IsWrapped code body

Nothing of the body is eaten, whatever it holds: the wrapper starts and ends with characters that
are neither white space nor a semicolon, so that both ends of it are found before the body is
looked at (`isWrapped_iff`). Lowering a compiled template gives the bodies in the answers of its
toolchain, in order, or the fault of the first answer that is no wrapped body
(`ofCompiled_unwraps`).
-/

namespace SfcWeave

open Text (TrimsTo isBlank)

variable {σ : Type} {code body other : String} {error : WeavingError}

/-! ### One body -/

/-- The code, without the white space at its ends and without a semicolon at the end of that, is
the body between the two parts of the wrapper. -/
def IsWrapped (code body : String) : Prop :=
  ∃ core, TrimsTo code.toList core ∧
    (core = wrapperStart ++ body.toList ++ wrapperEnd ++ [';'] ∨
      core = wrapperStart ++ body.toList ++ wrapperEnd)

theorem toList_wrap (body : String) :
    (wrap body).toList = wrapperStart ++ body.toList ++ wrapperEnd := String.toList_ofList

theorem head?_wrapperStart_append (text : List Char) :
    (wrapperStart ++ text).head? = some '(' := rfl

theorem getLast?_append_wrapperEnd (text : List Char) :
    (text ++ wrapperEnd).getLast? = some ')' := by
  rw [List.getLast?_append]
  rfl

theorem dropSemicolon_eq_iff {text cut : List Char} :
    dropSemicolon text = cut ↔ text = cut ++ [';'] ∨ text = cut ∧ text.getLast? ≠ some ';' :=
  Text.getD_before?_eq_iff

theorem unwrap?_eq_some_iff : unwrap? code = some body ↔ IsWrapped code body := by
  unfold unwrap? IsWrapped
  simp only [Option.map_eq_some_iff, Option.bind_eq_some_iff, Text.after?_eq_some_iff,
    Text.before?_eq_some_iff, dropSemicolon_eq_iff]
  constructor
  · rintro ⟨inner, ⟨rest, hcut, rfl⟩, rfl⟩
    refine ⟨Text.trim code.toList, Text.trim_eq_iff.mp rfl, ?_⟩
    rw [String.toList_ofList, List.append_assoc wrapperStart]
    exact hcut.imp_right And.left
  · rintro ⟨core, hcore, hcalled⟩
    rw [Text.trim_eq_iff.mpr hcore]
    refine ⟨body.toList, ⟨body.toList ++ wrapperEnd, ?_, rfl⟩, String.ofList_toList⟩
    rw [← List.append_assoc]
    rcases hcalled with rfl | rfl
    · exact .inl rfl
    · refine .inr ⟨rfl, ?_⟩
      rw [getLast?_append_wrapperEnd]
      decide

/-- A wrapped body is known from the code. -/
theorem IsWrapped.unique (h : IsWrapped code body) (h' : IsWrapped code other) : body = other :=
  Option.some.inj ((unwrap?_eq_some_iff.mpr h).symm.trans (unwrap?_eq_some_iff.mpr h'))

/-- The code with white space around it, and perhaps a semicolon right behind it. -/
inductive IsPadded (code : String) : (padded : String) → Prop
  | intro {front semicolon back : String} : (∀ c ∈ front.toList, isBlank c) →
      semicolon = "" ∨ semicolon = ";" → (∀ c ∈ back.toList, isBlank c) →
      IsPadded code (front ++ code ++ semicolon ++ back)

/-- What was sent for a body is the wrapped body, whatever padding it comes back with. -/
theorem isWrapped_of_isPadded (h : IsPadded (wrap body) code) : IsWrapped code body := by
  cases h with
  | @intro front semicolon back hfront hsemicolon hback =>
    have hhead : ∀ c ∈ ((wrap body).toList ++ semicolon.toList).head?, isBlank c = false := by
      rw [toList_wrap, List.append_assoc, List.append_assoc, head?_wrapperStart_append]
      simp [isBlank]
    -- neither the wrapper nor a semicolon ends with white space
    have hlast : ∀ c ∈ ((wrap body).toList ++ semicolon.toList).getLast?, isBlank c = false := by
      rcases hsemicolon with rfl | rfl
      · rw [String.toList_empty, List.append_nil, toList_wrap, getLast?_append_wrapperEnd]
        simp [isBlank]
      · rw [show ";".toList = [';'] from rfl, List.getLast?_concat]
        simp [isBlank]
    refine ⟨(wrap body).toList ++ semicolon.toList,
      ⟨front.toList, back.toList, by simp, hfront, hback, hhead, hlast⟩, ?_⟩
    rw [toList_wrap]
    rcases hsemicolon with rfl | rfl
    · exact .inr (List.append_nil _)
    · exact .inl rfl

/-! ### All bodies -/

/-- The bodies of render functions in the order in which they were lowered. -/
def RenderFunctions.bodies (functions : RenderFunctions) : List String :=
  functions.render :: functions.staticRenders

/-- The answer is a wrapped body. -/
def GivesBody (answer : Except ToolchainError String) (body : String) : Prop :=
  ∃ code, answer = .ok code ∧ IsWrapped code body

/-- The answer is no wrapped body, and this is the error that it leads to: that of the toolchain,
or one that holds the code as it came back. -/
inductive GivesFault : Except ToolchainError String → WeavingError → Prop
  | toolchain {error : ToolchainError} : GivesFault (.error error) (.toolchain error)
  | lostWrapper {code : String} : (∀ body, ¬ IsWrapped code body) →
      GivesFault (.ok code) (.lostWrapper code)

/-- What a body has been lowered to, by the answer for it. -/
def loweredBody : Except ToolchainError String → Except WeavingError String
  | .error error => .error (.toolchain error)
  | .ok code =>
    match unwrap? code with
    | some body => .ok body
    | none => .error (.lostWrapper code)

theorem loweredBody_eq_ok_iff {answer : Except ToolchainError String} :
    loweredBody answer = .ok body ↔ GivesBody answer body := by
  cases answer with
  | error cause => simp [loweredBody, GivesBody]
  | ok code =>
    simp only [GivesBody, Except.ok.injEq, exists_eq_left', ← unwrap?_eq_some_iff, loweredBody]
    cases unwrap? code <;> simp

theorem loweredBody_eq_error_iff {answer : Except ToolchainError String} :
    loweredBody answer = .error error ↔ GivesFault answer error := by
  constructor
  · intro h
    rcases answer with cause | code
    · cases h
      exact .toolchain
    · cases hbody : unwrap? code with
      | some body => simp [loweredBody, hbody] at h
      | none =>
        obtain rfl : .lostWrapper code = error := by simpa [loweredBody, hbody] using h
        apply GivesFault.lostWrapper
        intro body hwrapped
        rw [unwrap?_eq_some_iff.mpr hwrapped] at hbody
        cases hbody
  · rintro (_ | hnone)
    · rfl
    · next code =>
      have hbody : unwrap? code = none := by
        rw [Option.eq_none_iff_forall_ne_some]
        intro body hbody
        exact hnone body (unwrap?_eq_some_iff.mp hbody)
      simp [loweredBody, hbody]

theorem mapM_loweredBody_eq_ok_iff {answers : List (Except ToolchainError String)}
    {bodies : List String} :
    answers.mapM loweredBody = .ok bodies ↔ List.Forall₂ GivesBody answers bodies := by
  rw [Except.mapM_eq_ok_iff]
  simp only [loweredBody_eq_ok_iff]

theorem run_lowerBody_eq (toolchain : Toolchain σ) (body : String) (state : σ) :
    (RenderFunctions.lowerBody toolchain body).run.run state =
      (loweredBody (toolchain.transpile (wrap body) state).1,
        (toolchain.transpile (wrap body) state).2) :=
  run_lowerBody toolchain body state

/-- Lowering bodies is reading the answers for them, up to the first one that cannot be read. -/
theorem run_mapM_lowerBody (toolchain : Toolchain σ) (bodies : List String) (state : σ) :
    ((bodies.mapM (RenderFunctions.lowerBody toolchain)).run.run state).1 =
      (toolchain.answers bodies state).mapM loweredBody := by
  induction bodies generalizing state with
  | nil => rfl
  | cons body bodies ih =>
    have hanswers : toolchain.answers (body :: bodies) state =
        (toolchain.transpile (wrap body) state).1 ::
          toolchain.answers bodies (toolchain.transpile (wrap body) state).2 := rfl
    rw [List.mapM_cons, ExceptT.run_run_bind, run_lowerBody_eq, hanswers, List.mapM_cons]
    rcases toolchain.transpile (wrap body) state with ⟨answer, next⟩
    dsimp only
    cases loweredBody answer with
    | error error => rfl
    | ok lowered =>
      -- the rest is lowered from the next state on
      dsimp only
      rw [ExceptT.run_run_bind, ← ih next]
      rcases (bodies.mapM (RenderFunctions.lowerBody toolchain)).run.run next with
        ⟨error | rest, last⟩
      · rfl
      · rfl

theorem map_bodies_run_ofCompiled (toolchain : Toolchain σ) (compiled : CompiledTemplate)
    (state : σ) :
    ((RenderFunctions.ofCompiled toolchain compiled).run.run state).1.map RenderFunctions.bodies =
      (toolchain.answers compiled.bodies state).mapM loweredBody := by
  rw [← run_mapM_lowerBody, ← ofCompiled_eq_mapM, ← bind_pure_comp, ExceptT.run_run_bind]
  rcases (RenderFunctions.ofCompiled toolchain compiled).run.run state with
    ⟨error | functions, next⟩
  · rfl
  · rfl

theorem RenderFunctions.bodies_inj {a b : RenderFunctions} : a.bodies = b.bodies ↔ a = b := by
  cases a
  cases b
  simp [RenderFunctions.bodies]

theorem length_answers (toolchain : Toolchain σ) (bodies : List String) (state : σ) :
    (toolchain.answers bodies state).length = bodies.length := by
  induction bodies generalizing state with
  | nil => rfl
  | cons body bodies ih => exact congrArg (· + 1) (ih _)

/-- The transpiler changes nothing: what it is given comes back, with padding. -/
def Toolchain.ReturnsInput (toolchain : Toolchain σ) : Prop :=
  ∀ code state, ∃ padded, (toolchain.transpile code state).1 = .ok padded ∧ IsPadded code padded

/-- Each body is in the answer for it when the transpiler changes nothing. -/
theorem forall₂_givesBody_answers {toolchain : Toolchain σ} (h : toolchain.ReturnsInput)
    (bodies : List String) (state : σ) :
    List.Forall₂ GivesBody (toolchain.answers bodies state) bodies := by
  induction bodies generalizing state with
  | nil => exact .nil
  | cons body bodies ih =>
    obtain ⟨padded, hanswer, hpadded⟩ := h (wrap body) state
    exact .cons ⟨padded, hanswer, isWrapped_of_isPadded hpadded⟩ (ih _)

/-- Lowering a compiled template succeeds exactly if every answer of the toolchain is a wrapped
body, and gives these bodies, in order and one for each that was compiled; it fails with the fault
of the first answer that is none. Code holds one body at most, and what a transpiler returns as it
was comes back as it was compiled. -/
theorem ofCompiled_unwraps (toolchain : Toolchain σ) (compiled : CompiledTemplate) (state : σ) :
    let result := ((RenderFunctions.ofCompiled toolchain compiled).run.run state).1
    let answers := toolchain.answers compiled.bodies state
    (∀ functions, result = .ok functions ↔ List.Forall₂ GivesBody answers functions.bodies) ∧
    (∀ functions, result = .ok functions →
      functions.staticRenders.length = compiled.staticRenders.length) ∧
    (∀ error, result = .error error ↔ ∃ good answer rest, answers = good ++ answer :: rest ∧
      (∀ other ∈ good, ∃ body, GivesBody other body) ∧ GivesFault answer error) ∧
    (∀ code body other, IsWrapped code body → IsWrapped code other → body = other) ∧
    (toolchain.ReturnsInput → result = .ok ⟨compiled.render, compiled.staticRenders⟩) := by
  intro result answers
  have hresult : result.map RenderFunctions.bodies = answers.mapM loweredBody :=
    map_bodies_run_ofCompiled toolchain compiled state
  have hok : ∀ functions,
      result = .ok functions ↔ List.Forall₂ GivesBody answers functions.bodies := by
    intro functions
    rw [← mapM_loweredBody_eq_ok_iff, ← hresult, Except.map_eq_ok_iff]
    simp only [RenderFunctions.bodies_inj, exists_eq_right]
  refine ⟨hok, ?_, ?_, fun _ _ _ => IsWrapped.unique, ?_⟩
  · intro functions hfunctions
    have hlength := ((hok functions).mp hfunctions).length_eq
    rw [length_answers] at hlength
    exact Nat.succ.inj hlength.symm
  · intro error
    rw [← Except.map_eq_error_iff, hresult, Except.mapM_eq_error_iff]
    simp only [loweredBody_eq_ok_iff, loweredBody_eq_error_iff]
  · intro hreturns
    exact (hok ⟨compiled.render, compiled.staticRenders⟩).mpr
      (forall₂_givesBody_answers hreturns compiled.bodies state)

/-- A transpiler that returns what it is given on a line of its own, with a semicolon. -/
def paddingToolchain : Toolchain Unit where
  compile _ state := (.ok (.problems []), state)
  transpile code state := (.ok ("\n" ++ code ++ ";" ++ " \t\n"), state)

/-- Bodies that look like the end of a wrapper, like a whole one, and like padding. -/
def wrapperLikeBodies : CompiledTemplate where
  render := "with(this)\x7breturn _c('p')\x7d\x7d)(); "
  staticRenders := ["(function()\x7b\x7d)()", " ;;\n", ""]

theorem ofCompiled_unwraps_wrapperLike :
    paddingToolchain.ReturnsInput ∧
      ((RenderFunctions.ofCompiled paddingToolchain wrapperLikeBodies).run.run ()).1 =
        .ok ⟨wrapperLikeBodies.render, wrapperLikeBodies.staticRenders⟩ := by
  have hreturns : paddingToolchain.ReturnsInput := by
    intro code state
    exact ⟨_, rfl, .intro (by simp [isBlank]) (.inr rfl) (by simp [isBlank])⟩
  exact ⟨hreturns,
    (ofCompiled_unwraps paddingToolchain wrapperLikeBodies ()).2.2.2.2 hreturns⟩

end SfcWeave
