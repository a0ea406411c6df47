import HttpContract.Description.File
import HttpContract.Endpoint.Catalog
import HttpContract.Files.Scan

/-!
# Checking description files

Every description of every file is compiled for itself and joins one catalog. What is wrong with a file, a description or a
registration is an entry of the result, so that one of them hides nothing of another. Three things end a check: a path
that cannot be looked up, a file that is no text that can be read at all, and fields that no part can be made of.
-/

namespace HttpContract

/-- The outcome for a description, or for a file without any. -/
structure CheckEntry where
  source : String
  name : String
  endpoint : Option Endpoint
  issues : List SchemaIssue
  error : String

/-- Whether the description became an endpoint of the catalog. -/
def CheckEntry.ok (e : CheckEntry) : Bool := e.endpoint.isSome && e.issues.isEmpty && e.error.isEmpty

/-- What a check finds. -/
structure CheckResult where
  filesScanned : Nat
  entries : List CheckEntry
  catalog : Catalog

namespace CheckResult

/-- The entries with something wrong. -/
def failed (r : CheckResult) : List CheckEntry := r.entries.filter (!·.ok)

/-- Whether nothing is wrong. -/
def ok (r : CheckResult) : Bool := r.failed.isEmpty

end CheckResult

/-- What ends a check. -/
inductive CheckFault where
  | path (fault : PathFault)
  | load (e : LoadError)
  | part (e : PartError)
  deriving Repr

namespace Check

/-- The descriptions in the file at a path, which errors call by its source. -/
def load (tree : FileTree) (path source : String) : Except LoadError (List Description) :=
  match tree.read path with
  | .error fault => .error (.unusable ⟨.unreadable (fault.message source), some source⟩)
  | .ok data => Description.listOfBytes data (some source)

/-- The entry for a description and the catalog after it. -/
def description (config : Config) (source : String) (catalog : Catalog) (d : Description) :
    Except CheckFault (CheckEntry × Catalog) :=
  match Endpoint.compile d config with
  | .error (.schema report) => .ok (⟨source, d.metadata.name, none, report.issues, ""⟩, catalog)
  | .error (.part e) => .error (.part e)
  | .ok e =>
    match catalog.register e with
    | .error err => .ok (⟨source, d.metadata.name, some e, [], err.message⟩, catalog)
    | .ok catalog => .ok (⟨source, d.metadata.name, some e, [], ""⟩, catalog)

/-- The entries for descriptions and the catalog after them. -/
def descriptions (config : Config) (source : String) (catalog : Catalog) :
    List Description → Except CheckFault (List CheckEntry × Catalog)
  | [] => .ok ([], catalog)
  | d :: rest => do
    let (entry, catalog) ← description config source catalog d
    let (entries, catalog) ← descriptions config source catalog rest
    .ok (entry :: entries, catalog)

/-- The entries for a file and the catalog after it. -/
def file (tree : FileTree) (config : Config) (catalog : Catalog) (source : String) :
    Except CheckFault (List CheckEntry × Catalog) :=
  match load tree source source with
  | .error (.unusable e) => .ok ([⟨source, "", none, [], e.message⟩], catalog)
  | .error e => .error (.load e)
  | .ok ds => descriptions config source catalog ds

/-- The entries for files and the catalog after them. -/
def files (tree : FileTree) (config : Config) (catalog : Catalog) :
    List String → Except CheckFault (List CheckEntry × Catalog)
  | [] => .ok ([], catalog)
  | source :: rest => do
    let (entries, catalog) ← file tree config catalog source
    let (later, catalog) ← files tree config catalog rest
    .ok (entries ++ later, catalog)

/-- The check of the files that paths stand for. -/
def run (tree : FileTree) (config : Config) (paths : List String) : Except CheckFault CheckResult := do
  let sources ← (tree.expand paths).mapError .path
  let (entries, catalog) ← files tree config Catalog.empty sources
  .ok ⟨sources.length, entries, catalog⟩

end Check

end HttpContract
