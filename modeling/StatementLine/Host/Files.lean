import StatementLine.CommandLine.Input
import StatementLine.Host.ByteText

/-! Files. A name is a text of bytes. A path is followed component by component: an empty component
and a single dot stay where they are, two dots go up, and nothing leads on from a file. -/

namespace StatementLine.Host

inductive Device where
  | null
  | zero
  | stream (descriptor : Nat)
deriving Repr, DecidableEq

/-- A link stands for what the path leads to that it holds. -/
inductive FileTree where
  | file (content : String) (executable : Bool)
  | device (device : Device)
  | link (target : String)
  | folder (entries : List (String × FileTree))
deriving Inhabited

abbrev CanonicalPath := List String

namespace FileTree

def isFolder : FileTree → Bool
  | folder _ => true
  | _ => false

def find? (tree : FileTree) : CanonicalPath → Option FileTree
  | [] => some tree
  | name :: rest =>
      match tree with
      | folder entries => (entries.lookup name).bind (·.find? rest)
      | _ => none

def setEntry (entries : List (String × FileTree)) (name : String) (tree : FileTree) :
    List (String × FileTree) :=
  if entries.any (·.1 == name) then
    entries.map fun entry => if entry.1 == name then (name, tree) else entry
  else entries ++ [(name, tree)]

def changeFolder (change : List (String × FileTree) → List (String × FileTree)) :
    CanonicalPath → FileTree → FileTree
  | [], folder entries => folder (change entries)
  | name :: rest, folder entries =>
      match entries.lookup name with
      | some child => folder (setEntry entries name (changeFolder change rest child))
      | none => folder entries
  | _, tree => tree

def put (tree : FileTree) (path : CanonicalPath) (new : FileTree) : FileTree :=
  match path.getLast? with
  | none => new
  | some name => changeFolder (setEntry · name new) path.dropLast tree

def remove (tree : FileTree) (path : CanonicalPath) : FileTree :=
  match path.getLast? with
  | none => tree
  | some name => changeFolder (·.filter (·.1 != name)) path.dropLast tree

end FileTree

structure Files where
  root : FileTree
  folder : CanonicalPath

namespace Files

def longestName : Nat := 255

def longestPath : Nat := 4095

def mostLinks : Nat := 40

def plenty : Nat := 1048576

/-- Goes on from a place, whose names are listed innermost first. A link that comes last is left if
that is asked for. -/
def follow (root : FileTree) (keepsLast : Bool) :
    (links : Nat) → (place : List String) → List String → Except FileFailure (List String)
  | _, place, [] => .ok place
  | links, place, name :: rest =>
      match root.find? place.reverse with
      | none => .error .notFound
      | some (.folder entries) =>
          if name = "" ∨ name = "." then follow root keepsLast links place rest
          else if name = ".." then follow root keepsLast links place.tail rest
          else if name.length > longestName then .error .nameTooLong
          else
            match entries.lookup name, links with
            | some (.link target), links =>
                if keepsLast && rest.isEmpty then .ok (name :: place)
                else
                  match links with
                  | 0 => .error .tooManyLinks
                  | links + 1 =>
                      follow root keepsLast links (if target.startsWith "/" then [] else place)
                        (target.splitOn "/" ++ rest)
            | _, links => follow root keepsLast links (name :: place) rest
      | some _ => .error .notDirectory
termination_by links _ names => (links, names.length)

def locate (files : Files) (path : String) (keepsLast : Bool := false) :
    Except FileFailure CanonicalPath :=
  if path = "" then .error .notFound
  else if path.length > longestPath then .error .nameTooLong
  else
    let start := if path.startsWith "/" then [] else files.folder.reverse
    (follow files.root keepsLast mostLinks start (path.splitOn "/")).map List.reverse

def find (files : Files) (path : String) (keepsLast : Bool := false) :
    Except FileFailure (CanonicalPath × FileTree) := do
  let place ← files.locate path keepsLast
  match files.root.find? place with
  | none => throw .notFound
  | some tree => return (place, tree)

def find? (files : Files) (path : String) : Option FileTree :=
  (files.find path).toOption.map Prod.snd

def entry? (files : Files) (path : String) : Option FileTree :=
  (files.find path true).toOption.map Prod.snd

def read (files : Files) (path : String) : Except FileFailure String := do
  match ← files.find path with
  | (_, .file content _) => return content
  | (_, .folder _) => throw .isDirectory
  | (_, .link _) => throw .tooManyLinks
  | (_, .device .zero) => return String.ofList (List.replicate plenty '\x00')
  | (_, .device _) => return ""

def put (files : Files) (place : CanonicalPath) (tree : FileTree) : Files :=
  { files with root := files.root.put place tree }

def remove (files : Files) (place : CanonicalPath) : Files :=
  { files with root := files.root.remove place }

def addFile (files : Files) (path : String) (tree : FileTree) : Files :=
  let components := (path.splitOn "/").filter (· ≠ "")
  let places := (List.range components.length).map fun count => files.folder ++ components.take count
  let files := places.foldl (fun files place =>
    if (files.root.find? place).isSome then files else files.put place (.folder [])) files
  let place := files.folder ++ components
  match tree, files.root.find? place with
  | .folder [], some (.folder _) => files
  | _, _ => files.put place tree

def pathText (place : CanonicalPath) : String := "/" ++ String.intercalate "/" place

end Files

end StatementLine.Host
