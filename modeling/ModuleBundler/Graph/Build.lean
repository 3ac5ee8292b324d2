import ModuleBundler.Edit
import ModuleBundler.FileSystem
import ModuleBundler.Graph
import ModuleBundler.Log
import ModuleBundler.Resolve
import ModuleBundler.Transform

/-!
Building the graph of the modules that an entry needs. A file is read, transformed, read for its
dependencies, and its calls redirected; then the dependencies are built, in the order of their
first calls.
-/
namespace ModuleBundler

open Log (Event note)

structure Sources where
  /-- The directory that the names of modules are relative to. -/
  root : Path
  files : Files
  resolver : Resolver
  rules : List Rule
  /-- The function by which sources name their dependencies. -/
  callee : String

/-- How far a build has come: it keeps the graph, and what happened, also when it fails. -/
structure Progress where
  graph : Graph
  events : List Event
  /-- The paths that the file system was asked about. -/
  looked : List Path

abbrev Build := ExceptT BuildError (StateM Progress)

instance : Log.Recorder Progress where
  record e s := { s with events := s.events ++ [e] }

namespace Build

def look (path : Path) : Build Unit := modify fun s => { s with looked := s.looked ++ [path] }

/-- Goes on with a result, or fails as it failed. -/
def settle {α : Type} : Except BuildError α → Build α
  | .ok a => pure a
  | .error e => throw e

end Build

/-- A source as it is after transforms, with what it depends on. -/
structure Reading where
  text : String
  scan : Script.Scan

/-- What the dependency calls of a module come to. -/
structure Links where
  plan : EditPlan
  ids : List String
  paths : List Path

namespace Sources

open Build

def name (s : Sources) (path : Path) : String := Path.moduleId s.root path

/-- Reads a file for its dependencies, after its transforms. -/
def readModule (s : Sources) (path : Path) : Build Reading := do
  look path
  let raw ← settle (s.files.readModule path)
  let text ← settle (Transform.apply s.rules path raw)
  match Script.scan s.callee (.ofPath path) text with
  | .ok scan => return ⟨text, scan⟩
  | .error fault => throw (.parse path fault.message)

def resolve (s : Sources) (directory : Path) (specifier : String) : Build Path := do
  let (result, tried) := s.resolver.resolve s.files.isFile specifier directory
  tried.forM fun path => do
    note (.probing path)
    look path
  settle result

/-- Resolves a call and points it at the module. -/
def link (s : Sources) (directory : Path) (links : Links) (call : Script.DependencyCall) :
    Build Links := do
  let path ← s.resolve directory call.specifier
  let id := s.name path
  let plan := links.plan.redirect call id
  if id ∈ links.ids then return { links with plan }
  else return ⟨plan, links.ids ++ [id], links.paths ++ [path]⟩

/-- The directory from which a module names its dependencies. -/
def directory (s : Sources) (path : Path) : Path := path.parent.getD s.root

def links (s : Sources) (path : Path) (scan : Script.Scan) : Build Links :=
  let plan := match scan.hashbang with
    | some span => EditPlan.empty.commentOut span
    | none => .empty
  scan.calls.foldlM (s.link (s.directory path)) ⟨plan, [], []⟩

/-- Reads a module and adds it to the graph. The result is the paths it depends on. -/
def add (s : Sources) (entry : String) (path : Path) : Build (List Path) := do
  let reading ← s.readModule path
  let links ← s.links path reading.scan
  let id := s.name path
  note (.moduleBuilt id links.ids.length)
  let m : Module := ⟨id, path, links.plan.apply reading.text, links.ids, [entry]⟩
  modify fun p => { p with graph := p.graph.insert m }
  return links.paths

/-- How many modules there can be: each is at a place that holds something, or at the root, named
with one of the endings. -/
def bound (s : Sources) : Nat := (s.files.count + 1) * s.resolver.probes.length

/-- Builds a module with all that it needs, for an entry. A module is in the graph before what it
needs is built, so that a cycle ends there. Every level but the lowest adds a module to the graph,
so one level more than there can be modules is enough. -/
def buildModule (s : Sources) (entry : String) : Nat → Path → Build Unit
  | levels, path => do
    let id := s.name path
    if (← get).graph.contains id then
      note (.moduleReused id entry)
      modify fun p => { p with graph := p.graph.claim id entry }
    else
      match levels with
      | 0 => throw (.io path .noSuchFile)
      | levels + 1 =>
        let dependencies ← s.add entry path
        dependencies.forM fun dependency => buildModule s entry levels dependency

/-- Builds the module at a path for an entry: its name. -/
def build (s : Sources) (entry : String) (path : Path) : Build String := do
  s.buildModule entry (s.bound + 1) path
  return s.name path

end Sources

end ModuleBundler
