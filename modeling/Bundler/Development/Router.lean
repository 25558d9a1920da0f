import Bundler.Chunk.Loader
import Bundler.Development.Coding
import Bundler.Development.Session
import Bundler.MediaType

set_option autoImplicit false

/-! # Answering requests

While a build runs, requests wait. Then each is answered from the published snapshot: the path
names a file of the output, after the public path; the public path itself names the document. If
there is no such file, the document is sent, provided that the server falls back to it; otherwise
the message of the failed build, if there is one. One path is reserved for live updates. -/

namespace Bundler

/-- A request, with its target as it was sent. -/
structure Request where
  method : String
  target : String
  acceptEncoding : Option String
deriving DecidableEq, Repr

/-- An answer, with its body before it is coded. -/
structure Response where
  status : Nat
  mediaType : Option String
  coding : Coding
  body : ByteArray
deriving DecidableEq

/-- What the router depends on. -/
structure RouterSettings where
  publicPath : String
  historyFallback : Bool
deriving DecidableEq, Repr

namespace Response

/-- A response without a body. -/
def ofStatus (status : Nat) : Response := ⟨status, none, .identity, .empty⟩

/-- The least number of bytes of a coded body. -/
def leastCodedSize : Nat := 32

/-- Whether bodies of a media type are coded: images are compressed already, except drawings. -/
def isCodable (mediaType : String) : Bool :=
  mediaType == "image/svg+xml" ||
    !(mediaType.startsWith "image/" || mediaType.startsWith LiveUpdate.mediaType)

/-- The response coded as the client prefers, if it is worth it. -/
def encodeFor (acceptEncoding : Option String) (r : Response) : Response :=
  if leastCodedSize ≤ r.body.size ∧ r.mediaType.all isCodable then
    { r with coding := Coding.preferred acceptEncoding }
  else r

end Response

namespace RouterSettings

/-! ## Files -/

/-- The path of a target, without its query. -/
def pathOf (target : String) : String :=
  .ofList (target.toList.takeWhile fun c => c ≠ '?' ∧ c ≠ '#')

/-- The name of the file that a path asks for. -/
def fileName (settings : RouterSettings) (path : String) : String :=
  let text := path.toList
  let start := settings.publicPath.toList
  let rest := if start.isPrefixOf text then text.drop start.length else text
  .ofList (rest.dropWhile (· = '/'))

/-- The name of the file that is sent for a path. -/
def servedName? (settings : RouterSettings) (o : BuildOutput) (path : String) : Option String :=
  let name := settings.fileName path
  let asked := if name = "" then o.document else some name
  (asked.filter fun name => (o.file? name).isSome).or
    (if settings.historyFallback then o.document else none)

/-- The response that sends a file. -/
def fileResponse (o : BuildOutput) (name : String) : Response :=
  match o.file? name with
  | some content => ⟨200, some (MediaType.ofPath ⟨name⟩), .identity, content⟩
  | none => .ofStatus 404

/-- The media type of messages. -/
def messageType : String := "text/plain; charset=utf-8"

/-- The response to a path from a snapshot. -/
def snapshotResponse (settings : RouterSettings) (s : Snapshot) (path : String) : Response :=
  match settings.servedName? s.output path with
  | some name => fileResponse s.output name
  | none =>
    match s.error with
    | some message => ⟨500, some messageType, .identity, message.toUTF8⟩
    | none => .ofStatus 404

/-! ## Live updates -/

/-- Whether a target is the one reserved for live updates. -/
def isEvents (target : String) : Bool := pathOf target == Loader.eventsPath

/-- The response that opens a stream of live updates. -/
def eventsResponse (method : String) : Response :=
  if method = "GET" ∨ method = "HEAD" then ⟨200, some LiveUpdate.mediaType, .identity, .empty⟩
  else .ofStatus 405

/-! ## States of the server -/

/-- The response to a request once a snapshot is there. -/
def respond (settings : RouterSettings) (s : Snapshot) (r : Request) : Response :=
  (settings.snapshotResponse s (pathOf r.target)).encodeFor r.acceptEncoding

end RouterSettings

/-- What the server has to serve. -/
inductive ServerState
  | idle
  | building
  | serving (snapshot : Snapshot)

/-- The states that the server goes through in a rebuild: it builds until the snapshot is there. -/
def Publication.states (p : Publication) : List ServerState := [.building, .serving p.snapshot]

/-- The state of the server, whether it can still change, and the requests that wait for it. -/
structure Server where
  settings : RouterSettings
  state : ServerState := .idle
  isOpen : Bool := true
  waiting : List (Nat × Request) := []

namespace Server

/-- The response to a request, if it need not wait. -/
def response? (s : Server) (r : Request) : Option Response :=
  if RouterSettings.isEvents r.target then some (RouterSettings.eventsResponse r.method)
  else match s.state with
    | .serving snapshot => some (s.settings.respond snapshot r)
    | .idle | .building => if s.isOpen then none else some (.ofStatus 503)

/-- The server after all requests that need not wait have been answered, with the answers. -/
def settle (s : Server) : Server × List (Nat × Response) :=
  ({ s with waiting := s.waiting.filter fun r => (s.response? r.2).isNone },
    s.waiting.filterMap fun r => (s.response? r.2).map (r.1, ·))

/-- The server after a request of the given number. -/
def request (s : Server) (number : Nat) (r : Request) : Server × List (Nat × Response) :=
  { s with waiting := s.waiting ++ [(number, r)] }.settle

/-- The server in a new state; nothing changes once it is closed. -/
def setState (s : Server) (state : ServerState) : Server × List (Nat × Response) :=
  if s.isOpen then { s with state }.settle else (s, [])

/-- The server when its state can change no more. -/
def close (s : Server) : Server × List (Nat × Response) :=
  { s with isOpen := false }.settle

end Server

end Bundler
