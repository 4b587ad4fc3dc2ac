/-!
# The runner script

The script that the node process runs. It loads the template compiler and the transpiler from the
workspace, says that it is ready, and then answers one request per line.
-/

namespace SfcWeave

/-- The lines of the runner script. -/
def runnerScriptLines : List String := [
    "import \x7b createInterface \x7d from 'node:readline';",
    "import \x7b stdin, stdout \x7d from 'node:process';",
    "import \x7b createRequire \x7d from 'node:module';",
    "import \x7b pathToFileURL \x7d from 'node:url';",
    "",
    "let compile = null;",
    "let transpile = null;",
    "try \x7b",
    "  const require = createRequire(pathToFileURL(process.cwd() + '/'));",
    "  compile = require('vue-template-compiler').compile;",
    "  transpile = require('vue-template-es2015-compiler');",
    "\x7d catch (err) \x7b",
    "  const message = err && err.message ? err.message : String(err);",
    "  console.error(`typed-vue-template node runner failed to load the compiler: $\x7bmessage\x7d`);",
    "  process.exit(2);",
    "\x7d",
    "",
    "const send = (message) => stdout.write(JSON.stringify(message) + '\\n');",
    "",
    "send(\x7b ready: true \x7d);",
    "",
    "const rl = createInterface(\x7b input: stdin, crlfDelay: Infinity \x7d);",
    "",
    "for await (const line of rl) \x7b",
    "  if (!line.trim()) continue;",
    "",
    "  let req;",
    "  try \x7b",
    "    req = JSON.parse(line);",
    "  \x7d catch (err) \x7b",
    "    const message = err && err.message ? err.message : String(err);",
    "    send(\x7b id: null, error: `invalid json: $\x7bmessage\x7d` \x7d);",
    "    continue;",
    "  \x7d",
    "",
    "  const id = req.id;",
    "  try \x7b",
    "    if (req.kind === 'compile') \x7b",
    "      const result = compile(req.source);",
    "      send(\x7b",
    "        id,",
    "        render: result.render,",
    "        staticRenderFns: result.staticRenderFns,",
    "        errors: (result.errors || []).map((e) => (typeof e === 'string' ? e : e.msg))",
    "      \x7d);",
    "    \x7d else if (req.kind === 'transpile') \x7b",
    "      send(\x7b id, code: transpile(req.source) \x7d);",
    "    \x7d else \x7b",
    "      send(\x7b id, error: `unknown request kind: $\x7breq.kind\x7d` \x7d);",
    "    \x7d",
    "  \x7d catch (err) \x7b",
    "    const message = err && err.message ? err.message : String(err);",
    "    send(\x7b id, error: message \x7d);",
    "  \x7d",
    "\x7d"]

/-- The name of the file with the runner script. -/
def runnerScriptName : String := "vue-template-runner.mjs"

/-- The runner script. -/
def runnerScript : String := String.join (runnerScriptLines.map (· ++ "\n"))

end SfcWeave
