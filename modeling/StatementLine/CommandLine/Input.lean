import StatementLine.Program

/-! Inputs of the command line, and what reading one of them can come to. How inputs and programs
behave is a parameter of everything that uses them. -/

universe u

namespace StatementLine

inductive FileFailure where
  | notFound
  | permissionDenied
  | alreadyExists
  | notDirectory
  | isDirectory
  | notEmpty
  | nameTooLong
  | tooManyLinks
deriving Repr, DecidableEq

namespace FileFailure

def text : FileFailure → String
  | .notFound => "No such file or directory"
  | .permissionDenied => "Permission denied"
  | .alreadyExists => "File exists"
  | .notDirectory => "Not a directory"
  | .isDirectory => "Is a directory"
  | .notEmpty => "Directory not empty"
  | .nameTooLong => "File name too long"
  | .tooManyLinks => "Too many levels of symbolic links"

def number : FileFailure → Nat
  | .notFound => 2
  | .permissionDenied => 13
  | .alreadyExists => 17
  | .notDirectory => 20
  | .isDirectory => 21
  | .notEmpty => 39
  | .nameTooLong => 36
  | .tooManyLinks => 40

end FileFailure

namespace CommandLine

inductive Input where
  | standardInput
  | file (path : String)
deriving Repr, DecidableEq

def Input.name : Input → String
  | .standardInput => "<stdin>"
  | .file path => path

inductive ReadFailure where
  | file (failure : FileFailure)
  | notUtf8
  | other (message : String)
deriving Repr, DecidableEq

def ReadFailure.message : ReadFailure → String
  | .file failure => failure.text ++ " (os error " ++ toString failure.number ++ ")"
  | .notUtf8 => "stream did not contain valid UTF-8"
  | .other message => message

/-- What the command line reads and runs. The state is whatever that can change. -/
structure Surroundings (σ : Type u) where
  read : Input → σ → Except ReadFailure ByteArray × σ
  run : ProgramRunner σ

def Surroundings.readText {σ : Type u} (surroundings : Surroundings σ) (input : Input)
    (state : σ) : Except ReadFailure String × σ :=
  match surroundings.read input state with
  | (.error failure, state) => (.error failure, state)
  | (.ok bytes, state) =>
      match String.fromUTF8? bytes with
      | none => (.error .notUtf8, state)
      | some text => (.ok text, state)

end CommandLine

end StatementLine
