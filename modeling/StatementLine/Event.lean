import StatementLine.Quote
import StatementLine.Resolver

/-! The trace of a line: what happens while its tokens are read. -/

namespace StatementLine

inductive LineError where
  | quote (error : QuoteError)
  | resolver (error : ResolveError)
deriving Repr, DecidableEq

def LineError.message : LineError → String
  | .quote error => error.message
  | .resolver error => error.text

inductive Event where
  | token (text : String)
  | abandoned (error : LineError) (unread : Nat)
  | unresolved (lookup : Lookup)
  | running (invocation : Invocation)
deriving Repr, DecidableEq

inductive EventLevel where
  | trace
  | debug
deriving Repr, DecidableEq

def EventLevel.name : EventLevel → String
  | .trace => "TRACE"
  | .debug => "DEBUG"

def Event.level : Event → EventLevel
  | .token _ => .trace
  | .abandoned _ _ => .debug
  | .unresolved _ => .debug
  | .running _ => .debug

def Event.message : Event → String
  | .token _ => "token"
  | .abandoned _ _ => "abandoning line"
  | .unresolved _ => "unresolved, keeping literal text"
  | .running _ => "running backtick command"

end StatementLine
