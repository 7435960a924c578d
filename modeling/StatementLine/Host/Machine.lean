import StatementLine.Host.Interpreter

/-! The system that programs are started in: its files, its environment, and what comes of starting a
program. A program that was started finds no input, and what it writes to its errors is lost. -/

namespace StatementLine.Host

namespace Machine

def programFolder : FileTree :=
  let names := ["sh", "dash", "bash", "env"] ++ Utility.catalogue.map Prod.fst
  .folder (names.map fun name => (name, .file (Shell.programMark ++ name) true))

def deviceFolder : FileTree :=
  .folder [("null", .device .null), ("zero", .device .zero), ("stdin", .device (.stream 0)),
    ("stdout", .device (.stream 1)), ("stderr", .device (.stream 2))]

def root : FileTree :=
  let users := "root:x:0:0:root:/root:/bin/bash\n"
  .folder [("bin", .link "usr/bin"), ("dev", deviceFolder),
    ("etc", .folder [("passwd", .file users false)]), ("home", .folder []), ("root", .folder []),
    ("tmp", .folder [("work", .folder [])]), ("usr", .folder [("bin", programFolder)])]

def files : Files := ⟨root, ["tmp", "work"]⟩

def standardFolders : String := "/usr/local/sbin:/usr/local/bin:/usr/sbin:/usr/bin:/sbin:/bin"

/-- What starts a program: descriptors for an empty input, the output and the errors. -/
def starter (files : Files) : Shell where
  bindings := [("PATH", standardFolders), ("HOME", "/root")].map fun (name, value) =>
    (name, { value? := some value, exported := true })
  files
  folderPath := Files.pathText files.folder
  streams := #[.nothing, .sink "", .sink ""]
  descriptors := [(0, 0), (1, 1), (2, 2)]

def longestArgument : Nat := 131072

inductive Refusal where
  | notFound
  | permissionDenied
  | notADirectory
  | invalidFilename
  | argumentListTooLong
  | invalidInput

def Refusal.failure : Refusal → StartFailure
  | .notFound => ⟨⟨"NotFound"⟩, "No such file or directory (os error 2)"⟩
  | .permissionDenied => ⟨⟨"PermissionDenied"⟩, "Permission denied (os error 13)"⟩
  | .notADirectory => ⟨⟨"NotADirectory"⟩, "Not a directory (os error 20)"⟩
  | .invalidFilename => ⟨⟨"InvalidFilename"⟩, "File name too long (os error 36)"⟩
  | .argumentListTooLong => ⟨⟨"ArgumentListTooLong"⟩, "Argument list too long (os error 7)"⟩
  | .invalidInput => ⟨⟨"InvalidInput"⟩, "nul byte found in provided data"⟩

/-- The content of a program's file, which is found by its path or in the standard folders. -/
def findProgram (files : Files) (name : String) : Except Refusal String :=
  match name.contains '/', files.locate name with
  | true, .error .notDirectory => .error .notADirectory
  | _, .error .nameTooLong => .error .invalidFilename
  | _, _ =>
      match name, Shell.Search.named files standardFolders name with
      | "", _ => .error .notFound
      | _, .found _ content => .ok content
      | _, .notExecutable => .error .permissionDenied
      | _, .notFound => .error .notFound

def exitStatus (status : Nat) (after : Shell) : ExitStatus :=
  match after.killedBy? with
  | some signal => .killed signal false
  | none => .exited status.toUInt8

def start (invocation : Invocation) (files : Files) : Except StartFailure Ended × Files :=
  let name := encodedText invocation.program
  let arguments := [invocation.flag, invocation.command].map encodedText
  if (name :: arguments).any (·.contains '\x00') then (.error Refusal.invalidInput.failure, files)
  else
    match findProgram files name with
    | .error refusal => (.error refusal.failure, files)
    | .ok content =>
        if arguments.any (·.length ≥ longestArgument) then
          (.error Refusal.argumentListTooLong.failure, files)
        else
          let env := Interpreter.env runCommand Interpreter.deepestStart
          let (status, after) :=
            (Interpreter.carryOut runCommand env name content arguments).run (starter files)
          (.ok ⟨exitStatus status after, textBytes (after.written 1)⟩,
            { after.files with folder := files.folder })

end Machine

def runner : ProgramRunner Files := Machine.start

end StatementLine.Host
