import StatementLine.Host.Arithmetic
import StatementLine.Host.Format

/-! Scripts: words, of which parts are substituted, and the commands that are made of them. -/

namespace StatementLine.Host

inductive Modification where
  | value
  | length
  | default (alsoEmpty : Bool)
  | assign (alsoEmpty : Bool)
  | fail (alsoEmpty : Bool)
  | alternative (alsoEmpty : Bool)
  | dropStart (longest : Bool)
  | dropEnd (longest : Bool)
deriving Repr, DecidableEq

inductive WordPart where
  | plain (c : Char)
  | quoted (text : String)
  | doubleQuoted (parts : List WordPart)
  | parameter (name : String) (operation : Modification) (word : List WordPart)
  | command (line : Nat) (script : String)
  | arithmetic (expression : List WordPart)
deriving Inhabited

abbrev Word := List WordPart

namespace WordPart

def isPlain (holds : Char → Bool) : WordPart → Bool
  | plain c => holds c
  | _ => false

end WordPart

namespace Word

def plainText? : Word → Option String
  | [] => some ""
  | .plain c :: rest => (plainText? rest).map (String.singleton c ++ ·)
  | _ => none

def ofText (text : String) : Word := text.toList.map .plain

def assignment? (word : Word) : Option (String × Word) :=
  let start := word.takeWhile (·.isPlain isNameChar)
  match plainText? start, word.drop start.length with
  | some name, .plain '=' :: value => if isName name then some (name, value) else none
  | _, _ => none

end Word

inductive RedirectionKind where
  | input
  | output (overwrites : Bool)
  | append
  | readWrite
  | duplicate
  | document
deriving Repr, DecidableEq

structure Redirection where
  descriptor : Nat
  kind : RedirectionKind
  target : Word

inductive Command where
  | simple (line : Nat) (assignments : List (String × Word)) (words : List Word)
      (redirections : List Redirection)
  | sequence (commands : List Command)
  | background (command : Command)
  | both (first second : Command)
  | either (first second : Command)
  | negation (command : Command)
  | pipeline (commands : List Command)
  | subshell (body : Command)
  | redirected (body : Command) (redirections : List Redirection)
  | branch (condition body otherwise : Command)
  | loop (untilHolds : Bool) (condition body : Command)
  | each (name : String) (words : Option (List Word)) (body : Command)
  | choice (subject : Word) (branches : List (List Word × Command))
  | function (name : String) (body : Command)
deriving Inhabited

namespace Script

/-- A script as far as it is still to be read, and how many characters behind its next line feed have
been read ahead: they are documents. -/
structure Source where
  input : List Char
  lastLine : Nat
  readAhead : Nat := 0

def Source.ofText (firstLine : Nat) (text : List Char) : Source :=
  { input := text, lastLine := firstLine + text.count '\n' }

def Source.line (source : Source) : Nat := source.lastLine - source.input.count '\n'

structure Misreading where
  text : String
  line : Nat

abbrev Reading := StateT Source (Except Misreading)

variable {α : Type}

def upcoming : Reading (List Char) := return (← get).input

def goTo (rest : List Char) : Reading Unit := modify fun source => { source with input := rest }

def fail (text : String) : Reading α := do throw ⟨"Syntax error: " ++ text, (← get).line⟩

def collectUpTo (step : Reading (Option α)) : (limit : Nat) → (found : List α) → Reading (List α)
  | 0, found => return found.reverse
  | limit + 1, found => do
      match ← step with
      | none => return found.reverse
      | some element => collectUpTo step limit (element :: found)

/-- A step that gives something takes a character, so the input bounds the number of steps. -/
def collect (step : Reading (Option α)) : Reading (List α) := do
  collectUpTo step ((← upcoming).length + 1) []

def accept (text : String) : Reading Bool := do
  let input ← upcoming
  let isNext := text.toList.isPrefixOf input
  if isNext then goTo (input.drop text.length)
  return isNext

def isBlankChar (c : Char) : Bool := c == ' ' || c == '\t'

def isMetaChar (c : Char) : Bool := isBlankChar c || "\n;&|<>()".contains c

def dropBlanks : List Char → List Char
  | '\\' :: '\n' :: rest => dropBlanks rest
  | c :: rest =>
      if isBlankChar c then dropBlanks rest
      else if c = '#' then rest.dropWhile (· ≠ '\n')
      else c :: rest
  | [] => []

def blanks : Reading Unit := do goTo (dropBlanks (← upcoming))

def nextWord (input : List Char) : String := String.ofList (input.takeWhile (!isMetaChar ·))

def acceptWord (word : String) : Reading Bool := do
  blanks
  let input ← upcoming
  let isNext := nextWord input == word
  if isNext then goTo (input.drop word.length)
  return isNext

def unexpected : Reading α := do
  blanks
  let input ← upcoming
  let found := match input with
    | [] => "end of file"
    | '\n' :: _ => "newline"
    | c :: _ => if isMetaChar c then "\"" ++ String.singleton c ++ "\"" else "word"
  fail (found ++ " unexpected")

def require (text : String) : Reading Unit := do
  blanks
  unless ← accept text do unexpected

def requireWord (word : String) : Reading Unit := do
  unless ← acceptWord word do unexpected

def endLine : Reading Bool := do
  let source ← get
  match source.input with
  | '\n' :: rest =>
      set { source with input := rest.drop source.readAhead, readAhead := 0 }
      return true
  | _ => return false

def newlines : Reading Unit := do
  let _ ← collect (do
    blanks
    return if ← endLine then some () else none)

/-! Words -/

/-- Where a part of a word stands. That decides what ends it and what is quoted in it. -/
inductive WordPlace where
  | word
  | quotes
  | braces (quoted : Bool)
  | document
  | arithmetic
  | parentheses
deriving Repr, DecidableEq

namespace WordPlace

def isQuoted : WordPlace → Bool
  | word => false
  | braces quoted => quoted
  | _ => true

def isArithmetic (place : WordPlace) : Bool := place == arithmetic || place == parentheses

def escapes (place : WordPlace) (c : Char) : Bool :=
  !place.isQuoted || "$`\\".contains c || (place != document && c == '"') ||
    (place == braces true && c == '\x7d')

def endsAt (place : WordPlace) (c : Char) (rest : List Char) : Bool :=
  match place with
  | word => isMetaChar c
  | quotes => c == '"'
  | braces _ => c == '\x7d'
  | document => c == '\n'
  | arithmetic => c == ')' && rest.head? == some ')'
  | parentheses => c == ')'

end WordPlace

def parameterName? (inBraces : Bool) : List Char → Option (String × List Char)
  | [] => none
  | first :: rest =>
      let taken := if isNameStart first then rest.takeWhile isNameChar
        else if inBraces && first.isDigit then rest.takeWhile Char.isDigit
        else []
      if isNameStart first || first.isDigit || "@*#?-$!".contains first then
        some (String.ofList (first :: taken), rest.drop taken.length)
      else none

def backquoted (quoted : Bool) : List Char → Option (List Char × List Char)
  | [] => none
  | '`' :: rest => some ([], rest)
  | '\\' :: c :: rest =>
      let kept := if "$`\\".contains c || (quoted && c == '"') then [c] else ['\\', c]
      (backquoted quoted rest).map fun (later, rest) => (kept ++ later, rest)
  | c :: rest => (backquoted quoted rest).map fun (later, rest) => (c :: later, rest)

section Words

variable (isExtended : Bool) (script : Reading Unit) (parts : WordPlace → Reading Word)

def operation (quoted : Bool) : Reading (Modification × Word) := do
  let input ← upcoming
  let alsoEmpty := input.head? == some ':'
  let word (operation : Modification) (quoted : Bool) (rest : List Char) :
      Reading (Modification × Word) := do
    goTo rest
    return (operation, ← parts (.braces quoted))
  match if alsoEmpty then input.drop 1 else input with
  | '-' :: rest => word (.default alsoEmpty) quoted rest
  | '=' :: rest => word (.assign alsoEmpty) quoted rest
  | '?' :: rest => word (.fail alsoEmpty) quoted rest
  | '+' :: rest => word (.alternative alsoEmpty) quoted rest
  | _ =>
      match input with
      | '#' :: '#' :: rest => word (.dropStart true) false rest
      | '#' :: rest => word (.dropStart false) false rest
      | '%' :: '%' :: rest => word (.dropEnd true) false rest
      | '%' :: rest => word (.dropEnd false) false rest
      | '\x7d' :: _ => return (.value, [])
      | _ => fail "Bad substitution"

def bracedParameter (quoted : Bool) : Reading WordPart := do
  let input ← upcoming
  let measured? : Option (String × List Char) := match input with
    | '#' :: rest =>
        match parameterName? true rest with
        | some (name, '\x7d' :: rest) => some (name, rest)
        | _ => none
    | _ => none
  match measured?, parameterName? true input with
  | some (name, rest), _ =>
      goTo rest
      return .parameter name .length []
  | none, some (name, rest) =>
      goTo rest
      let (operation, word) ← operation parts quoted
      unless ← accept "\x7d" do fail "Missing '\x7d'"
      return .parameter name operation word
  | none, none => fail "Bad substitution"

def quotedBy (close : Char) (rest : List Char) : Reading String := do
  let text := rest.takeWhile (· ≠ close)
  if text.length = rest.length then fail "Unterminated quoted string"
  goTo (rest.drop (text.length + 1))
  return String.ofList text

def quotedEscapes : EscapeRules := { withoutZero := true, hexadecimal := true, quotes := true }

def dollar (place : WordPlace) : Reading WordPart := do
  let input ← upcoming
  match input with
  | '(' :: '(' :: rest =>
      goTo rest
      let expression ← parts .arithmetic
      unless ← accept "))" do fail "Missing '))'"
      return .arithmetic expression
  | '(' :: rest =>
      goTo rest
      let start ← get
      set { start with readAhead := 0 }
      script
      let left ← upcoming
      require ")"
      modify fun source => { source with readAhead := start.readAhead }
      return .command start.line (String.ofList (rest.take (rest.length - left.length)))
  | '\x7b' :: rest =>
      goTo rest
      bracedParameter parts place.isQuoted
  | '\'' :: rest =>
      if !isExtended || place.isQuoted then return .plain '$'
      let text ← quotedBy '\'' rest
      return .quoted (quotedEscapes.unescape text).1
  | _ =>
      match parameterName? false input with
      | some (name, rest) =>
          goTo rest
          return .parameter name .value []
      | none => return .plain '$'

def part (place : WordPlace) : Reading (Option Word) := do
  match ← upcoming with
  | [] => return none
  | '\\' :: '\n' :: rest =>
      goTo rest
      return some []
  | '\\' :: c :: rest =>
      goTo (if place.escapes c then rest else c :: rest)
      return some [if place.escapes c then .quoted (String.singleton c) else .plain '\\']
  | c :: rest =>
      if c = '$' then
        goTo rest
        return some [← dollar isExtended script parts place]
      if c = '`' then
        match backquoted place.isQuoted rest with
        | none => fail "EOF in backquote substitution"
        | some (text, rest) =>
            goTo rest
            return some [.command 1 (String.ofList text)]
      if place.endsAt c rest then return none
      goTo rest
      if c = '"' && place != .document && !place.isArithmetic then
        let inner ← parts .quotes
        unless ← accept "\"" do fail "Unterminated quoted string"
        return some [.doubleQuoted inner]
      if c = '\'' && !place.isQuoted then return some [.quoted (← quotedBy c rest)]
      if c = '(' && place.isArithmetic then
        let inner ← parts .parentheses
        unless ← accept ")" do fail "Missing '))'"
        return some (.plain '(' :: inner ++ [.plain ')'])
      return some [.plain c]

end Words

def readParts (isExtended : Bool) (script : Reading Unit) : (depth : Nat) → WordPlace → Reading Word
  | 0, _ => fail "too deep"
  | depth + 1, place => do
      let parts ← collect (part isExtended script (readParts isExtended script depth) place)
      return parts.flatten

end Script

end StatementLine.Host
