/-!
# Options of weaving
-/

namespace SfcWeave

/-- The module with `inject`, unless another is named. -/
def defaultRuntimeModule : String := "typed-vue-template/lib/vue/runtime"

/-- The module with the type of reserved tags, unless another is named. -/
def defaultBuiltInModule : String := "typed-vue-template/lib/vue/built-in"

/-- What can be chosen about weaving. -/
structure WeavingOptions where
  /-- The `lang` attribute of the scripts that are woven. -/
  typedLang : String := "ts"
  runtimeModule : String := defaultRuntimeModule
  builtInModule : String := defaultBuiltInModule
deriving DecidableEq, Repr, Inhabited

namespace WeavingOptions

/-- The line that imports `inject`. -/
def runtimeImport (options : WeavingOptions) : String :=
  "import \x7b inject \x7d from \"" ++ options.runtimeModule ++ "\";"

/-- The line that imports the type of reserved tags. -/
def builtInImport (options : WeavingOptions) : String :=
  "import \x7b ReservedTag \x7d from \"" ++ options.builtInModule ++ "\";"

end WeavingOptions

end SfcWeave
