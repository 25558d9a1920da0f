import Bundler.Bytes.Base64
import Bundler.Digest
import Bundler.MediaType
import Bundler.Script.Reference
import Bundler.Text.Quoted
import Bundler.Transform.Basic
import Bundler.Transform.StyleSheet

set_option autoImplicit false

/-! # The standard transforms

Scripts keep their text, with constants replaced, and depend on what they refer to. The other
transforms write a small module around the content: a style sheet is put into the document, a text
or the address of an asset is exported. A file that no rule handles is passed as a module or as an
asset. -/

namespace Bundler.Transform

/-! ## Contents -/

/-- The text of a content. -/
def decode (content : ByteArray) : Except Refusal String :=
  match String.fromUTF8? content with
  | some text => .ok text
  | none => .error .notUtf8

/-- A module that exports a text. -/
def exportText (text : String) : ByteArray :=
  ("module.exports = " ++ Text.quote text ++ ";").toUTF8

/-- The references of a script as dependencies. -/
def referencesOf (source : String) : List Dependency :=
  (Script.references source).map .reference

/-! ## The transforms -/

/-- A script with its constants replaced. -/
def script : Transform where
  name := "script"
  run context _ content := do
    let source := Script.replaceConstants context.constants (← decode content)
    return ⟨source.toUTF8, referencesOf source⟩

/-- The module of a style sheet: it asks for what the sheet imports, then adds the rest of the
    sheet to the document. -/
def styleModule (targets : List String) (sheet : String) : String :=
  String.join (targets.map fun target => "require(" ++ Text.quote target ++ ");\n") ++
    "(function () \x7b\n" ++
    "  var style = document.createElement(\"style\");\n" ++
    "  style.textContent = " ++ Text.quote sheet ++ ";\n" ++
    "  document.head.appendChild(style);\n" ++
    "\x7d)();\n"

/-- A style sheet that adds itself to the document. -/
def style : Transform where
  name := "style"
  run _ _ content := do
    let (targets, kept) := StyleSheet.cutImports (← decode content)
    return ⟨(styleModule targets (.ofList (Text.trim kept))).toUTF8, targets.map .reference⟩

/-- The file name of an asset: the digest of its content and its extension, after its own name in
    development. -/
def assetFileName (mode : Mode) (path : Path) (content : ByteArray) : String :=
  let digest := Digest.ofFile content
  let extension := (path.extension?.map ("." ++ ·)).getD ""
  match mode with
  | .development => path.stem?.getD "" ++ "__" ++ digest ++ extension
  | .production => digest ++ extension

/-- The address of an asset, which is emitted as a file of its own. -/
def asset : Transform where
  name := "asset"
  run context path content :=
    let fileName := assetFileName context.mode path content
    .ok ⟨exportText (context.publicPath ++ fileName), [.asset ⟨fileName, content⟩]⟩

/-- An address that holds the content itself. -/
def inlined : Transform where
  name := "inline"
  run _ path content :=
    .ok ⟨exportText ("data:" ++ MediaType.ofPath path ++ ";base64," ++ Bytes.Base64.encode content),
      []⟩

/-- The text of a file. -/
def text : Transform where
  name := "text"
  run _ _ content := do
    return ⟨exportText (← decode content), []⟩

/-- The registry of the standard transforms. -/
def standard : Registry := .ofList [script, style, asset, inlined, text]

/-! ## Files without a rule -/

/-- The name under which failures of files without a rule are reported. -/
def passthroughName : String := "passthrough"

/-- A script as it is. -/
def passModule (path : Path) (content : ByteArray) : Except TransformError Transformed :=
  match decode content with
  | .ok source => .ok ⟨content, referencesOf source⟩
  | .error refusal => .error ⟨path, passthroughName, .refused refusal⟩

/-- The address of a file as an asset. -/
def passAsset (context : TransformContext) (path : Path) (content : ByteArray) :
    Except TransformError Transformed :=
  match asset.run context path content with
  | .ok transformed => .ok transformed
  | .error refusal => .error ⟨path, passthroughName, .refused refusal⟩

end Bundler.Transform
