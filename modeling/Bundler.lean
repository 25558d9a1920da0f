import Bundler.Unicode.Script
import Bundler.Unicode.Case
import Bundler.Unicode.CharClass
import Bundler.Text.Words
import Bundler.Text.Quoted
import Bundler.Bytes.Base64
import Bundler.Digest
import Bundler.NameMap
import Bundler.Path
import Bundler.Settings.Grammar
import Bundler.Pattern
import Bundler.Transform.Standard
import Bundler.Configuration.OfStatements
import Bundler.Output.Compress
import Bundler.Output.Emit
import Bundler.Build.Release
import Bundler.Development.Loop
import Bundler.Development.Router
import Bundler.Main
import Bundler.Proofs.Build.Lookups
import Bundler.Proofs.Build.Sources
import Bundler.Proofs.Build.Termination
import Bundler.Proofs.Chunk.DigestIds
import Bundler.Proofs.Chunk.Exact
import Bundler.Proofs.Chunk.PathIds
import Bundler.Proofs.Configuration.Aliases
import Bundler.Proofs.Configuration.Extensions
import Bundler.Proofs.Development.Coalescing
import Bundler.Proofs.Development.EventStream
import Bundler.Proofs.Development.Incremental
import Bundler.Proofs.Development.Requests
import Bundler.Proofs.Development.Serving
import Bundler.Proofs.Graph.Additions
import Bundler.Proofs.Graph.Cycles
import Bundler.Proofs.Output.Companions
import Bundler.Proofs.Output.Document
import Bundler.Proofs.Output.Locality
import Bundler.Proofs.Output.Recovery
import Bundler.Proofs.Output.Relocation
import Bundler.Proofs.Packages
import Bundler.Proofs.Path.Containment
import Bundler.Proofs.Script.Comments
import Bundler.Proofs.Script.Statements
import Bundler.Proofs.Script.WholeWords
import Bundler.Proofs.Settings.LineEndings
import Bundler.Proofs.Settings.Lines
import Bundler.Proofs.Settings.RoundTrip
import Bundler.Proofs.Settings.Values
import Bundler.Proofs.Transform.Generated
import Bundler.Proofs.Transform.StyleComments
