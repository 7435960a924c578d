import StatementLine.Host.Files
import StatementLine.Host.Script
import StatementLine.Program

/-! The state of a shell: variables, functions, flags, open streams and files, and where the script
goes on. Actions read and change it. -/

namespace StatementLine.Host

structure Variable where
  value? : Option String := none
  exported : Bool := false
  readOnly : Bool := false

/-- Where a script goes on: with the next command, or behind a loop, function or the script. A script is
abandoned for an error, which `command` confines. -/
inductive Flow where
  | onward
  | break (levels : Nat)
  | continue (levels : Nat)
  | return
  | exit
  | abandon
deriving Repr, DecidableEq

/-- What a descriptor stands for. Copies of a descriptor share their stream. -/
inductive Stream where
  | nothing
  | source (unread : List Char) (isFile : Bool)
  | sink (written : String)
  | file (place : CanonicalPath)
deriving Inhabited

/-- A command beside the script, and what it starts with. It is carried out when it is waited for. -/
structure Job where
  command : Command
  arguments : List String
  bindings : List (String × Variable)
  status? : Option Nat := none

structure Shell where
  isExtended : Bool := false
  name : String := ""
  arguments : List String := []
  bindings : List (String × Variable)
  functions : List (String × Command) := []
  shadowed : List (List (String × Option Variable)) := []
  shadowedFlags : List (Option (List Char)) := []
  aliases : List (String × String) := []
  files : Files
  folderPath : String
  mask : Nat := 0o022
  streams : Array Stream
  descriptors : List (Nat × Nat)
  flags : List Char := []
  status : Nat := 0
  flow : Flow := .onward
  /-- Whether the status is asked for, so that a failure ends nothing. -/
  tested : Bool := false
  loops : Nat := 0
  line : Nat := 1
  substitutedStatus : Option Nat := none
  jobs : List Job := []
  /-- Whether what is written is read by another that may have enough of it. -/
  feeds : Bool := false
  lettersRead : Nat := 0
  killedBy? : Option Signal := none

abbrev Action := StateM Shell

abbrev Runner := Command → Action Unit

abbrev Builtin := List String → Action Nat

namespace Shell

def onward : Action Bool := do return (← get).flow == .onward

def setStatus (status : Nat) : Action Unit := modify fun shell => { shell with status }

def leave (flow : Flow) : Action Unit := modify fun shell => { shell with flow }

/-! Variables -/

def find? (shell : Shell) (name : String) : Option Variable := shell.bindings.lookup name

def value? (shell : Shell) (name : String) : Option String := (shell.find? name).bind (·.value?)

def value (shell : Shell) (name : String) : String := (shell.value? name).getD ""

def remove (shell : Shell) (name : String) : Shell :=
  { shell with bindings := shell.bindings.filter (·.1 != name) }

def put (shell : Shell) (name : String) (new : Variable) : Shell :=
  if shell.bindings.any (·.1 == name) then
    { shell with bindings := shell.bindings.map fun entry =>
        if entry.1 == name then (name, new) else entry }
  else { shell with bindings := shell.bindings ++ [(name, new)] }

def restore (shell : Shell) (name : String) : Option Variable → Shell
  | some known => shell.put name known
  | none => shell.remove name

def setValue (shell : Shell) (name value : String) : Shell :=
  let known := (shell.find? name).getD {}
  shell.put name
    { known with value? := some value, exported := known.exported || shell.flags.contains 'a' }

def separators (shell : Shell) : String := (shell.value? "IFS").getD " \t\n"

/-! Streams -/

def openStream (stream : Stream) : Action Nat := do
  let shell ← get
  set { shell with streams := shell.streams.push stream }
  return shell.streams.size

def bind (descriptor stream : Nat) : Action Unit :=
  modify fun shell => { shell with
    descriptors := (descriptor, stream) :: shell.descriptors.filter (·.1 != descriptor) }

def close (descriptor : Nat) : Action Unit :=
  modify fun shell => { shell with descriptors := shell.descriptors.filter (·.1 != descriptor) }

def write (descriptor : Nat) (text : String) : Action Bool := do
  let shell ← get
  match shell.descriptors.lookup descriptor with
  | none => return false
  | some index =>
      match shell.streams[index]? with
      | some (.file place) =>
          match shell.files.root.find? place with
          | some (.file content executable) =>
              let files := shell.files.put place (.file (content ++ text) executable)
              set { shell with files }
          | _ => pure ()
      | _ =>
          set { shell with streams := shell.streams.modify index fun stream =>
            match stream with
            | .sink written => .sink (written ++ text)
            | other => other }
      return true

def print (text : String) : Action Unit := do
  let _ ← write 1 text

def unread (shell : Shell) (descriptor : Nat) : List Char × Bool :=
  match (shell.descriptors.lookup descriptor).bind (shell.streams[·]?) with
  | some (.source unread isFile) => (unread, isFile)
  | _ => ([], false)

def readUpTo (descriptor : Nat) (rest : List Char) : Action Unit :=
  modify fun shell =>
    match shell.descriptors.lookup descriptor with
    | none => shell
    | some index => { shell with streams := shell.streams.modify index fun stream =>
        match stream with
        | .source _ isFile => .source rest isFile
        | other => other }

def written (shell : Shell) (index : Nat) : String :=
  match shell.streams[index]? with
  | some (.sink text) => text
  | _ => ""

/-! Messages -/

def complain (message : String) : Action Unit := do
  let shell ← get
  let _ ← write 2 (shell.name ++ ": " ++ toString shell.line ++ ": " ++ message ++ "\n")

def failWith (status : Nat) (message : String) : Action Nat := do
  complain message
  return status

def giveUp (message : String) : Action Unit := do
  complain message
  modify fun shell => { shell with status := 2, flow := .abandon }

def failFatally (message : String) : Action Nat := do
  giveUp message
  return 2

def assign (name value : String) : Action Unit := do
  let shell ← get
  if (shell.find? name).any (·.readOnly) then giveUp (name ++ ": is read only")
  else
    let shell := shell.setValue name value
    set (if name = "OPTIND" then { shell with lettersRead := 0 } else shell)

/-- Carries out an action in a copy of the shell: of what it does files, streams and the status are kept. -/
def inCopy (action : Action Unit) : Action Unit := do
  let before ← get
  set { before with jobs := [] }
  action
  let after ← get
  set { before with
    files := { after.files with folder := before.files.folder }
    streams := after.streams, status := after.status, killedBy? := after.killedBy?
    flow := if after.killedBy?.isSome then .exit else before.flow }

/-! Searching for programs -/

def programMark : String := "\x7fELF"

inductive Search where
  | found (path content : String)
  | notExecutable
  | notFound

def Search.ofPath (files : Files) (path : String) : Search :=
  match files.find path with
  | .ok (_, .file content true) => .found path content
  | .ok _ => .notExecutable
  | .error .notFound => .notFound
  | .error .notDirectory => .notFound
  | .error .nameTooLong => .notFound
  | .error _ => .notExecutable

def Search.inFolders (files : Files) (name : String) : List String → Search
  | [] => .notFound
  | folder :: rest =>
      let path := if folder = "" then name else folder ++ "/" ++ name
      match ofPath files path, inFolders files name rest with
      | .notFound, later => later
      | .notExecutable, .notFound => .notExecutable
      | .notExecutable, later => later
      | result, _ => result

def Search.named (files : Files) (folders name : String) : Search :=
  if name = "" then .notExecutable
  else if name.contains '/' then ofPath files name
  else inFolders files name (folders.splitOn ":")

def search (shell : Shell) (name : String) : Search :=
  Search.named shell.files (shell.value "PATH") name

end Shell

end StatementLine.Host
