/-! Running a program: it cannot be started, or it ends with a status and what it wrote to its
standard output. How programs behave is a parameter of everything that runs them. -/

universe u

namespace StatementLine

/-- What kept a program from being started, by the name that the system's interface has for it.
New kinds may come up, and none of them is treated apart from the others. -/
structure StartFailureKind where
  name : String
deriving Repr, DecidableEq

structure StartFailure where
  kind : StartFailureKind
  message : String
deriving Repr, DecidableEq

/-- A signal that can end a program. The numbers from 127 on stand for other things where a program
was waited for. -/
structure Signal where
  number : Nat
  ends : 0 < number ∧ number < 127
deriving Repr, DecidableEq

def Signal.names : List String :=
  ["SIGHUP", "SIGINT", "SIGQUIT", "SIGILL", "SIGTRAP", "SIGABRT", "SIGBUS", "SIGFPE", "SIGKILL",
    "SIGUSR1", "SIGSEGV", "SIGUSR2", "SIGPIPE", "SIGALRM", "SIGTERM", "SIGSTKFLT", "SIGCHLD",
    "SIGCONT", "SIGSTOP", "SIGTSTP", "SIGTTIN", "SIGTTOU", "SIGURG", "SIGXCPU", "SIGXFSZ",
    "SIGVTALRM", "SIGPROF", "SIGWINCH", "SIGIO", "SIGPWR", "SIGSYS"]

def Signal.name? (signal : Signal) : Option String :=
  Signal.names[signal.number - 1]?

def Signal.text (signal : Signal) : String :=
  match signal.name? with
  | none => toString signal.number
  | some name => toString signal.number ++ " (" ++ name ++ ")"

inductive ExitStatus where
  | exited (code : UInt8)
  | killed (signal : Signal) (coreDumped : Bool)
deriving Repr, DecidableEq

namespace ExitStatus

def isSuccess : ExitStatus → Bool
  | exited code => code == 0
  | killed _ _ => false

@[simp]
theorem isSuccess_iff (status : ExitStatus) : status.isSuccess = true ↔ status = .exited 0 := by
  cases status with
  | exited code => simp [isSuccess]
  | killed signal coreDumped => simp [isSuccess]

def text : ExitStatus → String
  | exited code => "exit status: " ++ toString code.toNat
  | killed signal false => "signal: " ++ signal.text
  | killed signal true => "signal: " ++ signal.text ++ " (core dumped)"

end ExitStatus

structure Ended where
  status : ExitStatus
  output : ByteArray

structure Invocation where
  program : String
  flag : String
  command : String
deriving Repr, DecidableEq

abbrev ProgramRunner (σ : Type u) := Invocation → σ → Except StartFailure Ended × σ

end StatementLine
