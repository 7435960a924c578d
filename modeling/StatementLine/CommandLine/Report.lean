import StatementLine.CommandLine.Input
import StatementLine.Event

/-! What splitting the lines of inputs comes to: the tokens of every line that was split, and the
problems met, each in order. -/

namespace StatementLine.CommandLine

inductive Problem where
  | line (input : Input) (number : Nat) (error : LineError)
  | unreadable (input : Input) (failure : ReadFailure)
deriving Repr, DecidableEq

def Problem.text : Problem → String
  | .line input number error =>
      input.name ++ ":" ++ toString number ++ ": " ++ error.message ++ "\n"
  | .unreadable input failure => input.name ++ ": " ++ failure.message ++ "\n"

structure Report where
  lines : List (List String)
  problems : List Problem
deriving Repr, DecidableEq

structure Outcome where
  exitCode : UInt8
  output : String
  errors : String
deriving Repr, DecidableEq

namespace Report

def empty : Report := ⟨[], []⟩

def append (first second : Report) : Report :=
  ⟨first.lines ++ second.lines, first.problems ++ second.problems⟩

instance : Append Report := ⟨append⟩

def ofLine (input : Input) (number : Nat) : Except LineError (List String) → Report
  | .ok tokens => ⟨[tokens], []⟩
  | .error error => ⟨[], [.line input number error]⟩

def output (report : Report) : String :=
  String.join (report.lines.map fun tokens => String.intercalate "\t" tokens ++ "\n")

def errors (report : Report) : String :=
  String.join (report.problems.map Problem.text)

def exitCode (report : Report) : UInt8 :=
  if report.problems.isEmpty then 0 else 1

def outcome (report : Report) : Outcome :=
  ⟨report.exitCode, report.output, report.errors⟩

end Report

end StatementLine.CommandLine
