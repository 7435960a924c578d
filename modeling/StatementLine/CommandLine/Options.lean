import StatementLine.Identifier
import StatementLine.Store

/-! Arguments of the command line. They are read from left to right, and the first that is at
fault decides what is said. An option that takes an assignment takes the next argument,
whatever it is. -/

namespace StatementLine.CommandLine

structure Options where
  store : Store := .empty
  executes : Bool := false
  files : List String := []
deriving DecidableEq

inductive UsageError where
  | help
  | missingAssignment (option : String)
  | notAssignment (argument : String)
  | invalidName (name : String)
deriving Repr, DecidableEq

def helpText : String :=
  "Usage: stmt-params [options] [files...]\n" ++
  "\n" ++
  "Splits each input line into tokens and prints them tab-separated.\n" ++
  "Reads stdin when no files are given.\n" ++
  "\n" ++
  "Options:\n" ++
  "  -v, --set NAME=VALUE  Define a variable\n" ++
  "      --exec            Run `backtick` spans as shell commands\n" ++
  "  -h, --help            Show this help\n" ++
  "\n" ++
  "Examples:\n" ++
  "  echo \"select :'who'\" | stmt-params -v who=alice\n" ++
  "  stmt-params --exec script.sql\n"

def UsageError.text : UsageError → String
  | .help => helpText
  | .missingAssignment option => "Error: " ++ option ++ " expects NAME=VALUE\n"
  | .notAssignment argument => "Error: expected NAME=VALUE, got: " ++ argument ++ "\n"
  | .invalidName name => "Error: invalid variable name: " ++ name ++ "\n"

def parseAssignment (argument : String) : Except UsageError (String × String) :=
  match argument.toList.dropWhile (· ≠ '=') with
  | [] => .error (.notAssignment argument)
  | _ :: value =>
      let name := String.ofList (argument.toList.takeWhile (· ≠ '='))
      if isIdentifier name then .ok (name, String.ofList value) else .error (.invalidName name)

namespace Options

def addFile (options : Options) (path : String) : Options :=
  { options with files := options.files ++ [path] }

def define (options : Options) (name value : String) : Options :=
  { options with store := (options.store.set name value).2 }

def addArguments (options : Options) : List String → Except UsageError Options
  | [] => .ok options
  | argument :: rest =>
      if argument = "-h" ∨ argument = "--help" then .error .help
      else if argument = "--exec" then { options with executes := true }.addArguments rest
      else if argument = "-v" ∨ argument = "--set" then
        match rest with
        | [] => .error (.missingAssignment argument)
        | assignment :: later =>
            match parseAssignment assignment with
            | .error error => .error error
            | .ok (name, value) => (options.define name value).addArguments later
      else (options.addFile argument).addArguments rest

def parse (arguments : List String) : Except UsageError Options :=
  ({} : Options).addArguments arguments

end Options

end StatementLine.CommandLine
