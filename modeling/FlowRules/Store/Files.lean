import FlowRules.Store.Basic
import FlowRules.Text.Utf8
import FlowRules.Workflow.Name

/-!
# Definitions in files

A directory tree holds each definition in a file named after it.  A name may lead into folders, and it is checked
before it becomes a path.
-/

namespace FlowRules

/-- What stands at a path. -/
inductive FileContent where
  | text (s : String)
  | bytes (bs : List UInt8)
  | directory
  deriving DecidableEq, Repr, Inhabited

/-- The files and directories below a directory, by their paths from there. -/
abbrev FileTree := List (List String × FileContent)

namespace FilePath

/-- The parts of a path; empty parts and those that name the same place again are left out. -/
def parts (path : String) : List String :=
  (Text.split '/' path).filter fun part => part != "" && part != "."

def isAbsolute (path : String) : Bool := Text.startsWith path "/"

/-- The root that a path starts from, empty if it is relative.  Two slashes are a root of their own; more of them are
as good as one. -/
def root (path : String) : String :=
  match (path.toList.takeWhile (· = '/')).length with
  | 0 => ""
  | 2 => "//"
  | _ => "/"

/-- The shortest spelling of the path with a root and parts. -/
def spelled (root : String) (parts : List String) : String :=
  let path := root ++ "/".intercalate parts
  if path = "" then "." else path

/-- A path in its shortest spelling. -/
def normalized (path : String) : String := spelled (root path) (parts path)

/-- A path that starts from a directory, unless it is absolute. -/
def under (directory path : String) : String :=
  if isAbsolute path then normalized path else spelled (root directory) (parts directory ++ parts path)

/-- The directory in which a path stands. -/
def parent (path : String) : String := spelled (root path) (parts path).dropLast

/-- The order of paths is that of their parts. -/
def le : List String → List String → Bool
  | [], _ => true
  | _ :: _, [] => false
  | p :: ps, q :: qs => if p = q then le ps qs else decide (p < q)

end FilePath

namespace FileTree

/-- A folder that a path leads through. -/
def isFolder (tree : FileTree) (path : List String) : Bool :=
  path.isEmpty || tree.any fun entry =>
    if entry.1 = path then entry.2 = .directory else path.isPrefixOf entry.1

/-- The content of the file at a path. -/
def file? (tree : FileTree) (path : List String) : Option FileContent :=
  match tree.lookup path with
  | some .directory => none
  | found => found

/-- The path that a path leads to from a folder of the tree; a step up needs a folder to start from. -/
def follow? (tree : FileTree) : List String → List String → Option (List String)
  | here, [] => some here
  | here, part :: more =>
    if part = ".." then if tree.isFolder here then follow? tree here.dropLast more else none
    else follow? tree (here ++ [part]) more

def decodeFault (f : Text.Utf8Fault) : Fault := .raised "UnicodeDecodeError" f.message

/-- The text of a file, with a single line feed at the end of each line. -/
def contentText : FileContent → Except Fault String
  | .text s => .ok (String.ofList (Text.unifyNewlines s.toList))
  | .bytes bs =>
    match Text.ofUtf8 bs with
    | .ok s => .ok (String.ofList (Text.unifyNewlines s.toList))
    | .error f => .error (decodeFault f)
  | .directory => .ok ""

/-- No less than the length of the text of a file. -/
def contentSize : FileContent → Nat
  | .text s => s.length
  | .bytes bs => bs.length
  | .directory => 0

/-! ### Definitions -/

def suffix : String := ".json"

/-- The path of the definition with a name. -/
def pathOf (name : String) : List String := FilePath.parts (name ++ suffix)

/-- The text of the definition with a name. -/
def find (tree : FileTree) (name : String) : Except Fault (Option String) := do
  let name ← WorkflowName.check name
  match tree.file? (pathOf name) with
  | none => .ok none
  | some content => (contentText content).map some

/-- All paths in the tree, also of folders that are only led through. -/
def allPaths (tree : FileTree) : List (List String) :=
  (tree.flatMap fun entry => (List.range entry.1.length).map fun n => entry.1.take (n + 1)).eraseDups

/-- The name of the definition that a path holds, if its last part has the right ending. -/
def nameOf? (path : List String) : Option String :=
  match path.getLast? with
  | none => none
  | some last =>
    if !Text.endsWith last suffix then none
    else
      let stem := if last = suffix then last else String.ofList (last.toList.take (last.length - suffix.length))
      some ("/".intercalate (path.dropLast ++ [stem]))

/-- The names of all definitions in the order of their paths. -/
def names (tree : FileTree) : List String := (tree.allPaths.mergeSort FilePath.le).filterMap nameOf?

/-- The definitions in a tree that stands at a directory. -/
def repository (directory : String) (tree : FileTree) : Repository :=
  { find := tree.find
    missingNote := fun name =>
      some ("Workflow file not found: " ++ FilePath.under directory (name ++ suffix))
    names := tree.names
    size := (tree.map fun entry => contentSize entry.2).sum }

/-- The part of a tree below a directory. -/
def below (tree : FileTree) (directory : List String) : FileTree :=
  tree.filterMap fun entry =>
    if directory.isPrefixOf entry.1 && directory.length < entry.1.length then
      some (entry.1.drop directory.length, entry.2)
    else none

end FileTree
end FlowRules
