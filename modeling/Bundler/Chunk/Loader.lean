import Bundler.Mode

set_option autoImplicit false

/-! # The loader

The script of the first chunk. Chunks announce themselves in a list; the loader takes the modules of
those that came before it, then of those that come later, and starts an entry as soon as all its
modules are known. In development, a second script waits for live updates and reloads the page. -/

namespace Bundler.Loader

/-- The path under which live updates are sent. -/
def eventsPath : String := "/__weft/events"

/-- The text of some lines. -/
def unlines (lines : List String) : String := String.join (lines.map (· ++ "\n"))

/-- The script that keeps modules and starts entries. -/
def registry : String :=
  unlines [
    "(function () \x7b",
    "  var definitions = \x7b\x7d;",
    "  var cache = \x7b\x7d;",
    "  var pending = [];",
    "",
    "  function load(id) \x7b",
    "    if (cache[id]) \x7b",
    "      return cache[id].exports;",
    "    \x7d",
    "",
    "    var definition = definitions[id];",
    "",
    "    if (!definition) \x7b",
    "      throw new Error(\"weft: module \" + id + \" not found\");",
    "    \x7d",
    "",
    "    var module = (cache[id] = \x7b exports: \x7b\x7d \x7d);",
    "",
    "    definition[1].call(module.exports, module, module.exports, function (specifier) \x7b",
    "      if (!(specifier in definition[0])) \x7b",
    "        throw new Error(\"weft: cannot find module \\\"\" + specifier + \"\\\"\");",
    "      \x7d",
    "",
    "      return load(definition[0][specifier]);",
    "    \x7d);",
    "",
    "    return module.exports;",
    "  \x7d",
    "",
    "  function flush() \x7b",
    "    var waiting = [];",
    "",
    "    pending.forEach(function (entries) \x7b",
    "      if (entries.every(function (id) \x7b return id in definitions; \x7d)) \x7b",
    "        entries.forEach(load);",
    "      \x7d else \x7b",
    "        waiting.push(entries);",
    "      \x7d",
    "    \x7d);",
    "",
    "    pending = waiting;",
    "  \x7d",
    "",
    "  function register(chunk) \x7b",
    "    chunk.modules.forEach(function (module) \x7b",
    "      definitions[module[0]] = [module[1], module[2]];",
    "    \x7d);",
    "",
    "    if (chunk.entries.length) \x7b",
    "      pending.push(chunk.entries);",
    "    \x7d",
    "",
    "    flush();",
    "  \x7d",
    "",
    "  var chunks = (self.weftChunks = self.weftChunks || []);",
    "",
    "  chunks.forEach(register);",
    "  chunks.push = register;",
    "\x7d)();"]

/-- The script that waits for live updates. -/
def liveUpdate : String :=
  unlines [
    "(function () \x7b",
    "  if (typeof EventSource === \"undefined\") \x7b",
    "    return;",
    "  \x7d",
    "",
    "  var source = new EventSource(\"/__weft/events\");",
    "",
    "  source.addEventListener(\"reload\", function () \x7b",
    "    location.reload();",
    "  \x7d);",
    "  source.addEventListener(\"build-error\", function (event) \x7b",
    "    console.error(\"weft: \" + event.data);",
    "  \x7d);",
    "\x7d)();"]

/-- The script of the loader. -/
def source : Mode → String
  | .development => registry ++ liveUpdate
  | .production => registry

end Bundler.Loader
