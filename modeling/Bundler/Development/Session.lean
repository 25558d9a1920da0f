import Bundler.Build
import Bundler.Development.LiveUpdate

set_option autoImplicit false

/-! # Development sessions

A session rebuilds the project whenever files change. Modules that a change does not affect are
kept. After a build that fails, the output of the last one that succeeded is still served, together
with the message of the failure. Every rebuild publishes one snapshot and one live update. -/

namespace Bundler

/-- What is served: the last output, and why the build after it failed, if it did. -/
structure Snapshot where
  output : BuildOutput
  error : Option String

/-- What a session keeps between rebuilds. -/
structure Session where
  cache : ModuleCache := .empty
  graph : ModuleGraph := {}
  output : BuildOutput := .empty

/-- What a rebuild publishes. -/
structure Publication where
  snapshot : Snapshot
  update : LiveUpdate
  events : List LogEvent

namespace Session

/-- The session after a rebuild that finds the modules which entries reach in some order. -/
def rebuildFrom (c : BuildContext) (found : ModuleGraph → List Nat) (s : Session) :
    Session × Publication :=
  match (c.buildFrom found).run.run { cache := s.cache } with
  | (.ok build, state) =>
    ({ cache := state.cache, graph := build.graph, output := build.output },
      { snapshot := ⟨build.output, none⟩
        update := .reload
        events := state.events ++ [.rebuilt, .filesBuilt build.output.size] })
  | (.error e, state) =>
    ({ s with cache := state.cache },
      { snapshot := ⟨s.output, some e.message⟩
        update := .buildError e.message
        events := state.events ++ [.failed e.message] })

/-- The session after a rebuild that finds modules in the order of their numbers. -/
def rebuild (c : BuildContext) (s : Session) : Session × Publication :=
  rebuildFrom c ModuleGraph.owned s

/-- The session after some files have changed. The modules of these files, and of all files that
    depended on them in the last graph, are made anew. -/
def updateFrom (c : BuildContext) (found : ModuleGraph → List Nat) (s : Session)
    (changed : List Path) : Session × Publication :=
  let affected := s.graph.affectedPaths changed
  let event := .filesChanged (ModuleGraph.distinctPaths changed).length affected.length
  let (s, publication) := rebuildFrom c found { s with cache := affected.foldl .erase s.cache }
  (s, { publication with events := event :: publication.events })

/-- The session after some files have changed and modules are found in the order of their
    numbers. -/
def update (c : BuildContext) (s : Session) (changed : List Path) : Session × Publication :=
  updateFrom c ModuleGraph.owned s changed

/-- A first rebuild and one update for each group of changes. -/
def follow (c : BuildContext) (s : Session) : List (List Path) → List Publication
  | changes =>
    let (s, first) := s.rebuild c
    let (_, rest) := changes.foldl
      (fun (s, done) changed =>
        let (s, publication) := update c s changed
        (s, done ++ [publication]))
      (s, ([] : List Publication))
    first :: rest

end Session

end Bundler
