import ModuleBundler.Edit
import ModuleBundler.Graph
import ModuleBundler.Unicode.Membership

/-!
Chunks: the modules that one entry needs, and the script that holds them. The script is complete in
itself: it has a registry of functions, one for each module, a cache of the modules that have been
started, the loader, and the call that starts the entry.
-/
namespace ModuleBundler

structure Chunk where
  name : String
  entryModule : Module
  modules : List Module
deriving DecidableEq

def Graph.chunk (g : Graph) (entry : String) (entryModule : Module) : Chunk :=
  ⟨entry, entryModule, g.modules.filter (·.isOwnedBy entry)⟩

namespace Chunk

def registryName : String := "__tinypack_modules__"

def cacheName : String := "__tinypack_module_cache__"

/-- The source of a module as it stands in a script: without blanks at its end. Lines are not
indented, since that could change what they mean. -/
def body (m : Module) : String := String.ofList (Unicode.trimEnd m.source.toList)

def member (m : Module) : String :=
  "    " ++ Text.quote m.id ++ ": (module, exports, " ++ loaderName ++ ") => \x7b\n" ++ body m ++
    "\n    \x7d"

def registry (modules : List Module) : String :=
  "  var " ++ registryName ++ " = \x7b\n" ++ String.intercalate ",\n" (modules.map member) ++
    "\n  \x7d;\n\n"

def cache : String := "  var " ++ cacheName ++ " = \x7b\x7d;\n\n"

/-- The loader: a module that has been started is had from the cache, any other is put there before
its function runs, so that a cycle meets what the module has exported so far. -/
def loader : String :=
  "  function " ++ loaderName ++ "(moduleId) \x7b\n" ++
  "    var cachedModule = " ++ cacheName ++ "[moduleId];\n" ++
  "    if (cachedModule !== undefined) \x7b\n" ++
  "      return cachedModule.exports;\n" ++
  "    \x7d\n" ++
  "    var module = (" ++ cacheName ++ "[moduleId] = \x7b\n" ++
  "      exports: \x7b\x7d\n" ++
  "    \x7d);\n" ++
  "    " ++ registryName ++ "[moduleId](module, module.exports, " ++ loaderName ++ ");\n" ++
  "    return module.exports;\n" ++
  "  \x7d\n\n"

def start (id : String) : String :=
  "  (() => \x7b\n    " ++ loaderName ++ "(" ++ Text.quote id ++ ");\n  \x7d)();\n"

def heading (name : String) : String := "// tinypack chunk: " ++ name ++ "\n"

def code (c : Chunk) : String :=
  "(() => \x7b\n" ++ registry c.modules ++ cache ++ loader ++ start c.entryModule.id ++
    "\x7d)();\n"

def script (c : Chunk) : String := heading c.name ++ c.code

end Chunk

end ModuleBundler
