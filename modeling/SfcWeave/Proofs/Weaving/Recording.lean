import SfcWeave.Proofs.Weaving.Mirroring

/-!
# Recording changes nothing

A recorded toolchain lists the calls that are made of it. Weaving with it goes the same way, step by
step, as weaving with the toolchain itself:

    mirrors_weave : Mirrors Session.unrecorded (weave parse toolchain options file source)
      (weave parse toolchain.recorded options file source)

so that the list is that of the calls which the toolchain itself gets.
-/

namespace SfcWeave

open Script

variable {σ : Type}

/-- The session without the list of calls. -/
def Session.unrecorded (session : Session (σ × List ToolchainCall)) : Session σ :=
  session.seen Prod.fst

theorem shows_recorded (toolchain : Toolchain σ) :
    toolchain.Shows Prod.fst toolchain.recorded where
  compile _ _ := rfl
  transpile _ _ := rfl

theorem mirrors_weave (parse : Parser) (toolchain : Toolchain σ) (options : WeavingOptions)
    (file source : String) :
    Mirrors Session.unrecorded (weave parse toolchain options file source)
      (weave parse toolchain.recorded options file source) :=
  (shows_recorded toolchain).mirrors_weave parse options file source

end SfcWeave
