import HttpContract.Files.Tree

/-!
# Description files in a tree

A scan finds the files whose names end in `.endpoint.json`, but for the backups and locks of editors, and does not enter
directories that never hold descriptions. In every directory the files come first, by name, and then the directories, by
name, each with what is found under it.
-/

namespace HttpContract

/-- The directories that never hold descriptions. -/
def skippedDirectories : List String :=
  [".git", ".venv", "venv", "__pycache__", "node_modules", "dist", "build", ".pytest_cache"]

/-- Whether a scan passes over a directory with a name. -/
def ignoresDirectory (name : String) : Bool :=
  skippedDirectories.contains name || (name.toList.head? == some '.' && name != "." && name != "..")

/-- Whether a scan passes over a file with a name. -/
def ignoresFile (name : String) : Bool :=
  name.toList.take 2 == ['.', '#'] || name.toList.head? == some '~' || name.toList.getLast? == some '~'

/-- How the names of description files end. -/
def descriptionSuffix : String := ".endpoint.json"

/-- Whether a scan takes a file with a name. -/
def takesFile (name : String) : Bool :=
  descriptionSuffix.toList.isSuffixOf name.toList && !ignoresFile name

/-- Pairs in the order of their names. -/
def sortByName {α : Type} (pairs : List (String × α)) : List (String × α) :=
  pairs.mergeSort fun a b => decide (a.1 ≤ b.1)

namespace Node

/-- The description files right in a directory. -/
def filesHere (path : List String) (entries : List (String × Node)) : List (List String) :=
  (sortByName (entries.filter fun e => !e.2.isDirectory && takesFile e.1)).map fun e => path ++ [e.1]

mutual

/-- The steps to the description files under a node at the end of steps. -/
def found (path : List String) : Node → List (List String)
  | file _ => []
  | directory entries => filesHere path entries ++ (sortByName (foundBelow path entries)).flatMap (·.2)

/-- What is found under each directory that is entered. -/
def foundBelow (path : List String) : List (String × Node) → List (String × List (List String))
  | [] => []
  | (name, node) :: rest =>
    if node.isDirectory && !ignoresDirectory name then
      (name, found (path ++ [name]) node) :: foundBelow path rest
    else foundBelow path rest

end

/-- What searches give one after the other until there are enough results. -/
def untilEnough {α : Type} : List (Nat → List α) → Nat → List α
  | [], _ => []
  | search :: rest, limit =>
    let results := search limit
    if results.length < limit then results ++ untilEnough rest (limit - results.length) else results

mutual

/-- The steps to the first description files under a node, so many at most; the search ends with the last of them. -/
def foundUpTo (path : List String) : Node → Nat → List (List String)
  | file _, _ => []
  | directory entries, limit =>
    untilEnough ((fun n => (filesHere path entries).take n) :: (sortByName (searches path entries)).map (·.2)) limit

/-- The searches of the directories that are entered. -/
def searches (path : List String) : List (String × Node) → List (String × (Nat → List (List String)))
  | [] => []
  | (name, node) :: rest =>
    if node.isDirectory && !ignoresDirectory name then
      (name, foundUpTo (path ++ [name]) node) :: searches path rest
    else searches path rest

end

end Node

namespace FileTree

/-- The paths of the description files under a path, at most so many if there is a limit. The limit is looked at after a
file is found, so that the first one is always given. Under a path that leads to no directory there are none. -/
def filesUnder (t : FileTree) (path : String) (limit : Option Int) : List String :=
  match t.stepsTo? path, t.node path with
  | some steps, .ok node =>
    let start := resolveSteps steps
    let results := match limit with
      | none => node.found start
      | some n => node.foundUpTo start (max n 1).toNat
    results.map t.pathOf
  | _, _ => []

/-- The scan of a path. -/
def scan (t : FileTree) (path : String) (limit : Option Int) : Except PathFault (List String) :=
  if hasNull path then .error .nullCharacter else .ok (t.filesUnder path limit)

/-- The files that a path stands for: a directory for those that a scan finds, any other path for itself. -/
def filesOf (t : FileTree) (path : String) : Except PathFault (List String) := do
  match ← t.node? path with
  | some (.directory _) => t.scan path none
  | _ => if hasNull path then .error .nullCharacter else .ok [t.resolve path]

/-- The files that paths stand for, each once. -/
def expand (t : FileTree) (paths : List String) : Except PathFault (List String) :=
  (paths.mapM t.filesOf).map fun found => found.flatten.eraseDups

end FileTree

end HttpContract
