/-!
# The toolchain

Weaving leaves two jobs to others: compiling a template into the bodies of render functions, and
lowering code to an older dialect. A toolchain answers both; it may change its state with every
call, and it may fail.
-/

namespace SfcWeave

/-- The bodies of the functions that a template is compiled to. -/
structure CompiledTemplate where
  render : String
  /-- The functions of the parts that never change, in order. -/
  staticRenders : List String := []
deriving DecidableEq, Repr

/-- What compiling a template gives. -/
inductive TemplateOutput where
  | compiled (functions : CompiledTemplate)
  /-- The template is refused, for these reasons. -/
  | problems (messages : List String)
deriving DecidableEq, Repr

/-- A failure of a toolchain, with the messages of its causes from the nearest on. -/
structure ToolchainError where
  message : String
  causes : List String := []
deriving DecidableEq, Repr

namespace ToolchainError

/-- The message with those of its causes. -/
def chain (error : ToolchainError) : String :=
  ": ".intercalate (error.message :: error.causes)

end ToolchainError

/-- A template compiler and a transpiler with a state. -/
structure Toolchain (σ : Type) where
  compile : String → σ → Except ToolchainError TemplateOutput × σ
  transpile : String → σ → Except ToolchainError String × σ

/-- A call of a toolchain. -/
inductive ToolchainCall where
  | compile (template : String)
  | transpile (code : String)
deriving DecidableEq, Repr

namespace Toolchain

/-- The toolchain that also lists the calls made of it, the latest first. -/
def recorded {σ : Type} (toolchain : Toolchain σ) : Toolchain (σ × List ToolchainCall) where
  compile template state :=
    let (result, next) := toolchain.compile template state.1
    (result, next, .compile template :: state.2)
  transpile code state :=
    let (result, next) := toolchain.transpile code state.1
    (result, next, .transpile code :: state.2)

end Toolchain

end SfcWeave
