import HttpContract.Json.Value
import HttpContract.Text.Quoted

/-!
# File trees

A directory with all that is under it, and the path at which it stands, which is empty for the root of all. A path that does
not lead through the directory of the tree leads nowhere, unless it only goes back. There are no links, so `..` always
goes back a step. Names and paths have a greatest length; a longer one cannot be looked up, unless the way to it ends
before. No name has a null character in it.
-/

namespace HttpContract

/-- A file with its bytes, or a directory with its entries in the order in which they are listed. -/
inductive Node where
  | file (data : List UInt8)
  | directory (entries : List (String × Node))
  deriving Repr, Inhabited

namespace Node

/-- Whether the node is a directory. -/
def isDirectory : Node → Bool
  | directory _ => true
  | file _ => false

/-- The entries of a directory; a file has none. -/
def entries : Node → List (String × Node)
  | directory entries => entries
  | file _ => []

/-- The node with another put where the steps lead, directories made on the way. -/
def put (leaf : Node → Node) : List String → Node → Node
  | [], node => leaf node
  | name :: rest, node =>
    directory (insertMember node.entries name (put leaf rest ((member? name node.entries).getD (directory []))))

end Node

/-- The steps of a path: empty ones and single dots do not count. -/
def pathSteps (path : String) : List String :=
  ((path.toList.splitOn '/').map String.ofList).filter fun step => !step.isEmpty && step != "."

/-- The last step of a path. -/
def pathName (path : String) : String := (pathSteps path).getLast?.getD ""

/-- The slashes that a path in plain form starts with: two stay two, and more are one. -/
def pathStart (path : String) : String :=
  match (path.toList.takeWhile (· == '/')).length with
  | 0 => ""
  | 2 => "//"
  | _ => "/"

/-- The path in its plain form; a path without steps is a dot. -/
def plainPath (path : String) : String :=
  let plain := pathStart path ++ String.intercalate "/" (pathSteps path)
  if plain.isEmpty then "." else plain

/-- Steps with every `..` taken back; it goes no further back than the start. -/
def resolveSteps (steps : List String) : List String :=
  steps.foldl (fun trail step => if step == ".." then trail.dropLast else trail ++ [step]) []

/-- A directory and its path. -/
structure FileTree where
  base : String
  top : Node
  deriving Repr

/-- The most bytes of a name. -/
def maxNameBytes : Nat := 255

/-- The most bytes of a path. -/
def maxPathBytes : Nat := 4095

/-- Why a path leads to no file. -/
inductive AccessFault where
  | missing
  | throughFile
  | directory
  | tooLong
  deriving DecidableEq, Repr

/-- The fault in words. -/
def AccessFault.message (path : String) (fault : AccessFault) : String :=
  let words := match fault with
    | missing => "[Errno 2] No such file or directory: "
    | throughFile => "[Errno 20] Not a directory: "
    | directory => "[Errno 21] Is a directory: "
    | tooLong => "[Errno 36] File name too long: "
  words ++ Text.quoted path

/-- The fault of a name that a directory does not have. -/
def AccessFault.ofName (name : String) : AccessFault :=
  if maxNameBytes < name.utf8ByteSize then tooLong else missing

/-- The node at the end of steps from outside a tree: going back there are directories of which nothing is known, and
other steps lead nowhere. -/
def Node.outside (steps : List String) : Except AccessFault Node :=
  match steps.dropWhile (· == "..") with
  | [] => .ok (directory [])
  | name :: _ => .error (.ofName name)

/-- Why it cannot be said what a path leads to. -/
inductive PathFault where
  | tooLong (path : String)
  | nullCharacter
  deriving DecidableEq, Repr

/-- The fault in words. -/
def PathFault.message : PathFault → String
  | tooLong path => AccessFault.message path .tooLong
  | nullCharacter => "embedded null byte"

/-- Whether a path has a null character in it. -/
def hasNull (path : String) : Bool := path.toList.contains '\x00'

namespace FileTree

/-- The tree of files and empty directories, given by their paths from its directory. -/
def ofEntries (base : String) (files : List (String × List UInt8)) (directories : List String) : FileTree :=
  let withFiles := files.foldl (fun node file => node.put (fun _ => .file file.2) (pathSteps file.1)) (.directory [])
  ⟨base, directories.foldl (fun node path => node.put id (pathSteps path)) withFiles⟩

/-- The steps from the directory of the tree to a path, if the path leads through it. The root of all is its own
parent. -/
def stepsTo? (t : FileTree) (path : String) : Option (List String) :=
  let start := pathSteps t.base
  let steps := (pathSteps path).dropWhile (· == "..")
  if (pathStart path).isEmpty || !start.isPrefixOf steps then none else some (steps.drop start.length)

/-- The path at the end of steps. -/
def pathOf (t : FileTree) (steps : List String) : String :=
  if t.base.isEmpty && steps.isEmpty then "/" else String.intercalate "/" (t.base :: steps)

/-- The path with every `..` taken back. -/
def resolve (t : FileTree) (path : String) : String :=
  match t.stepsTo? path with
  | some steps => t.pathOf (resolveSteps steps)
  | none =>
    if (pathStart path).isEmpty then plainPath path
    else "/" ++ String.intercalate "/" (resolveSteps (pathSteps path))

/-- The node at the end of steps. The directories passed are kept to go back to. -/
def walk (trail : List Node) (node : Node) : List String → Except AccessFault Node
  | [] => .ok node
  | step :: rest =>
    match node with
    | .file _ => .error .throughFile
    | .directory entries =>
      if step == ".." then
        match trail with
        | [] => Node.outside rest
        | parent :: earlier => walk earlier parent rest
      else
        match member? step entries with
        | none => .error (.ofName step)
        | some child => walk (node :: trail) child rest

/-- The node at a path. -/
def node (t : FileTree) (path : String) : Except AccessFault Node :=
  if hasNull path then .error .missing
  else if maxPathBytes < (plainPath path).utf8ByteSize then .error .tooLong
  else
    match t.stepsTo? path with
    | none => Node.outside (pathSteps path)
    | some steps => walk [] t.top steps

/-- The node at a path, if it leads to one. -/
def node? (t : FileTree) (path : String) : Except PathFault (Option Node) :=
  match t.node path with
  | .ok node => .ok (some node)
  | .error .tooLong => .error (.tooLong (plainPath path))
  | .error _ => .ok none

/-- The bytes of the file at a path. -/
def read (t : FileTree) (path : String) : Except AccessFault (List UInt8) :=
  match t.node path with
  | .error fault => .error fault
  | .ok (.directory _) => .error .directory
  | .ok (.file data) => .ok data

end FileTree

end HttpContract
