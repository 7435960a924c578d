import StatementLine.CommandLine.Lines
import StatementLine.CommandLine.Options
import StatementLine.CommandLine.Report
import StatementLine.Reader
import StatementLine.VariableResolver

/-! The command line: every line of every input is split with the same variables. A line or an
input that fails is reported, and the others go on. -/

universe u

namespace StatementLine.CommandLine

variable {σ : Type u}

def Options.inputs (options : Options) : List Input :=
  match options.files with
  | [] => [.standardInput]
  | files => files.map Input.file

def Options.resolver (options : Options) (run : ProgramRunner σ) : Resolver σ :=
  ({ store := options.store, executes := options.executes } : VariableResolver).resolve run

def splitLines (resolver : Resolver σ) (input : Input) :
    (number : Nat) → List String → σ → Report × σ
  | _, [], state => (.empty, state)
  | number, line :: rest, state =>
      let step := split resolver line state
      let (later, state) := splitLines resolver input (number + 1) rest step.state
      (.ofLine input number step.result ++ later, state)

def splitInput (surroundings : Surroundings σ) (resolver : Resolver σ) (input : Input)
    (state : σ) : Report × σ :=
  match surroundings.readText input state with
  | (.error failure, state) => (⟨[], [.unreadable input failure]⟩, state)
  | (.ok text, state) => splitLines resolver input 1 (lines text) state

def splitInputs (surroundings : Surroundings σ) (resolver : Resolver σ) :
    List Input → σ → Report × σ
  | [], state => (.empty, state)
  | input :: rest, state =>
      let (report, state) := splitInput surroundings resolver input state
      let (later, state) := splitInputs surroundings resolver rest state
      (report ++ later, state)

/-- Carries out a command line. A usage error stops it before anything is read or run. -/
def run (surroundings : Surroundings σ) (arguments : List String) (state : σ) : Outcome × σ :=
  match Options.parse arguments with
  | .error error => (⟨2, "", error.text⟩, state)
  | .ok options =>
      let (report, state) :=
        splitInputs surroundings (options.resolver surroundings.run) options.inputs state
      (report.outcome, state)

end StatementLine.CommandLine
