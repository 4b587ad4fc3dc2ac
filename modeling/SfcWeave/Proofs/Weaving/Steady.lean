import SfcWeave.Proofs.Weaving.Mirroring

/-!
# Toolchains without a memory

The answers of a steady toolchain depend on the requests alone. What a source is woven to with it,
or fails with, is then the same in every state (`IsSteady.exists_run_weave`): such a toolchain is
shown by one that has no state at all.
-/

namespace SfcWeave

open Script

variable {σ : Type} {toolchain : Toolchain σ}

namespace Toolchain

/-- The answers of a toolchain do not depend on its state. -/
structure IsSteady (toolchain : Toolchain σ) : Prop where
  compile : ∀ template first second,
    (toolchain.compile template first).1 = (toolchain.compile template second).1
  transpile : ∀ code first second,
    (toolchain.transpile code first).1 = (toolchain.transpile code second).1

/-- The toolchain that gives the answers of one state, and has no state itself. -/
def frozen (toolchain : Toolchain σ) (state : σ) : Toolchain Unit where
  compile template _ := ((toolchain.compile template state).1, ())
  transpile code _ := ((toolchain.transpile code state).1, ())

theorem IsSteady.shows_frozen (h : toolchain.IsSteady) (state : σ) :
    (toolchain.frozen state).Shows (fun _ => ()) toolchain where
  compile template other := Prod.ext (h.compile template state other) rfl
  transpile code other := Prod.ext (h.transpile code state other) rfl

/-- With a steady toolchain, the result of weaving does not depend on the state. -/
theorem IsSteady.exists_run_weave (h : toolchain.IsSteady) (parse : Parser)
    (options : WeavingOptions) (file source : String) (usual : σ) :
    ∃ result, ∀ state, ∃ next,
      (weave parse toolchain options file source).run.run { toolchain := state } =
        (result, next) := by
  have hmirrors := (h.shows_frozen usual).mirrors_weave parse options file source
  rcases hfrozen : (weave parse (toolchain.frozen usual) options file source).run.run
    { toolchain := () } with ⟨result, next⟩
  refine ⟨result, ?_⟩
  intro state
  obtain ⟨rfl, -⟩ := Prod.mk.inj (hfrozen.symm.trans (hmirrors { toolchain := state }))
  exact ⟨_, rfl⟩

end Toolchain

end SfcWeave
