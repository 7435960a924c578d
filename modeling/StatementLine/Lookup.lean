/-! What a line asks for: the value of a variable in one of three styles, whether a variable is
defined, or the output of a command. -/

namespace StatementLine

inductive NameStyle where
  | bare
  | singleQuoted
  | doubleQuoted
deriving Repr, DecidableEq

def NameStyle.quote? : NameStyle → Option Char
  | .bare => none
  | .singleQuoted => some '\''
  | .doubleQuoted => some '"'

inductive Lookup where
  | value (name : String) (style : NameStyle)
  | defined (name : String)
  | command (text : String)
deriving Repr, DecidableEq

def existenceMarker : Char := '?'

namespace Lookup

/-- The lookup in one string: the name in its quotes, the marked name or the command. -/
def text : Lookup → String
  | value name style =>
      match style.quote? with
      | none => name
      | some quote => String.singleton quote ++ name ++ String.singleton quote
  | defined name => String.singleton existenceMarker ++ name
  | command text => text

def isVariable : Lookup → Bool
  | value _ _ => true
  | defined _ => true
  | command _ => false

def name? : Lookup → Option String
  | value name _ => some name
  | defined name => some name
  | command _ => none

def style? : Lookup → Option NameStyle
  | value _ style => some style
  | defined _ => none
  | command _ => none

end Lookup

end StatementLine
