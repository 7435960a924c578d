import StatementLine.Quote.Writing
import StatementLine.Resolver
import StatementLine.Store

/-! The resolver that answers from a store. Names that are not defined are left as written.
Backtick spans are replaced by their own text, or, where commands are executed, by what the
command writes, less the line breaks at its end. -/

universe u

namespace StatementLine

structure VariableResolver where
  store : Store
  executes : Bool := false
  shell : String := "sh"
  shellFlag : String := "-c"
deriving DecidableEq

def isLineBreak (c : Char) : Bool :=
  c == '\n' || c == '\r'

def dropTrailingLineBreaks (text : String) : String :=
  String.ofList (text.toList.reverse.dropWhile isLineBreak).reverse

/-- What a run of a command answers. A failed command's output does not count. -/
def answerOfRun (command : String) : Except StartFailure Ended → Answer
  | .error failure => .error (.cannotStart command failure)
  | .ok ended =>
      if ended.status.isSuccess then
        match String.fromUTF8? ended.output with
        | none => .error (.outputNotUtf8 ended.output.toList)
        | some text => .ok (.replaced (dropTrailingLineBreaks text))
      else .error (.failed command ended.status)

namespace VariableResolver

variable {σ : Type u}

def render (value : String) : NameStyle → String
  | .bare => value
  | .singleQuoted => quoteLiteral value
  | .doubleQuoted => quoteIdentifier value

def resolve (settings : VariableResolver) (run : ProgramRunner σ) : Resolver σ
  | .value name style, state =>
      match settings.store.get? name with
      | some value => ⟨.ok (.replaced (render value style)), [], state⟩
      | none => ⟨.ok .unhandled, [], state⟩
  | .defined name, state =>
      ⟨.ok (.replaced (if settings.store.contains name then "TRUE" else "FALSE")), [], state⟩
  | .command text, state =>
      if settings.executes then
        let invocation := ⟨settings.shell, settings.shellFlag, text⟩
        let (outcome, state) := run invocation state
        ⟨answerOfRun text outcome, [invocation], state⟩
      else ⟨.ok (.replaced text), [], state⟩

end VariableResolver

end StatementLine
