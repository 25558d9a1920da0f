import Bundler.Path

set_option autoImplicit false

/-! # Media types of files

The media type of a file follows from the extension of its name, in any letter case. A file without
a known extension is a plain run of bytes. -/

namespace Bundler.MediaType

/-- The media type of a file whose extension says nothing. -/
def unknown : String := "application/octet-stream"

/-- The media type of an extension in lower case. -/
def ofExtension? (extension : String) : Option String :=
  match extension with
  | "png" => some "image/png"
  | "jpg" | "jpeg" => some "image/jpeg"
  | "gif" => some "image/gif"
  | "svg" => some "image/svg+xml"
  | "webp" => some "image/webp"
  | "ico" => some "image/x-icon"
  | "css" => some "text/css"
  | "html" | "htm" => some "text/html"
  | "js" | "jsx" => some "text/javascript"
  | "mjs" => some "application/javascript"
  | "json" => some "application/json"
  | "txt" | "map" => some "text/plain"
  | "md" => some "text/markdown"
  | "xml" => some "text/xml"
  | "woff" => some "application/font-woff"
  | "woff2" => some "font/woff2"
  | "ttf" => some "font/ttf"
  | "otf" => some "application/font-sfnt"
  | "mp4" => some "video/mp4"
  | "mp3" => some "audio/mpeg"
  | "wasm" => some "application/wasm"
  | "pdf" => some "application/pdf"
  | "zip" => some "application/zip"
  | "gz" => some "application/gzip"
  | "csv" => some "text/csv"
  | "xyz" => some "chemical/x-xyz"
  | "ts" => some "video/vnd.dlna.mpeg-tts"
  | "webmanifest" => some "application/manifest+json"
  | _ => none

/-- The media type of a file. -/
def ofPath (p : Path) : String :=
  let extension := p.extension?.map fun e => String.ofList (e.toList.map Char.toLower)
  (extension.bind ofExtension?).getD unknown

end Bundler.MediaType
