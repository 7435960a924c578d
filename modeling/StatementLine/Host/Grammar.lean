import StatementLine.Host.Script

/-! The grammar of scripts. A reader of the commands that may be nested in one is a parameter of all
readers, and is supplied at the end, up to a depth that the script's length bounds. -/

namespace StatementLine.Host.Script

def reservedWords : List String :=
  ["!", "\x7b", "\x7d", "case", "do", "done", "elif", "else", "esac", "fi", "for", "if", "in", "then",
    "until", "while"]

def closingWords : List String := ["then", "do", "done", "fi", "else", "elif", "esac", "\x7d"]

def atListEnd (input : List Char) : Bool :=
  match input with
  | [] => true
  | ')' :: _ => true
  | ';' :: ';' :: _ => true
  | _ => closingWords.contains (nextWord input)

structure Settings where
  isExtended : Bool
  aliases : List (String × String)

variable (settings : Settings) (nested : Reading Command)

def wordAt (place : WordPlace) : Reading Word := do
  readParts settings.isExtended (do let _ ← nested) ((← upcoming).length + 2) place

def word? : Reading (Option Word) := do
  blanks
  match ← upcoming with
  | [] => return none
  | c :: _ => if isMetaChar c then return none else return some (← wordAt settings nested .word)

def requiredWord : Reading Word := do
  match ← word? settings nested with
  | some word => return word
  | none => unexpected

/-! Redirections -/

def delimiterOf : Word → String × Bool
  | [] => ("", false)
  | .plain c :: rest =>
      let (text, quoted) := delimiterOf rest
      (String.singleton c ++ text, quoted)
  | .quoted text :: rest => (text ++ (delimiterOf rest).1, true)
  | .doubleQuoted parts :: rest =>
      ((Word.plainText? parts).getD "" ++ (delimiterOf rest).1, true)
  | _ :: rest => delimiterOf rest

def documentLines (line : Reading Word) (delimiter : String) (dropsTabs : Bool) :
    (limit : Nat) → Reading Word
  | 0 => return []
  | limit + 1 => do
      let input ← upcoming
      let input := if dropsTabs then input.dropWhile (· == '\t') else input
      let isLast := String.ofList (input.takeWhile (· ≠ '\n')) == delimiter
      if input.isEmpty || isLast then
        goTo (input.drop (delimiter.length + 1))
        return []
      goTo input
      let parts ← line
      let hasEnd ← accept "\n"
      let later ← documentLines line delimiter dropsTabs limit
      return parts ++ (if hasEnd then .plain '\n' :: later else later)

/-- Reads a document ahead, from behind the line at hand and what was read ahead already. -/
def document (descriptor : Nat) (dropsTabs : Bool) : Reading Redirection := do
  let (delimiter, quoted) := delimiterOf (← requiredWord settings nested)
  let plainLine : Reading Word := do
    let input ← upcoming
    let text := input.takeWhile (· ≠ '\n')
    goTo (input.drop text.length)
    return [.quoted (String.ofList text)]
  let outside ← get
  let start := ((outside.input.dropWhile (· ≠ '\n')).drop 1).drop outside.readAhead
  set { outside with input := start, readAhead := 0 }
  let line := if quoted then plainLine else wordAt settings nested .document
  let parts ← documentLines line delimiter dropsTabs (start.length + 1)
  let rest ← upcoming
  set { outside with readAhead := outside.readAhead + (start.length - rest.length) }
  return ⟨descriptor, .document, parts⟩

def redirection? : Reading (Option Redirection) := do
  blanks
  let input ← upcoming
  let (digits, rest) := match input with
    | c :: d :: rest => if c.isDigit && (d = '<' || d = '>') then ([c], d :: rest) else ([], input)
    | _ => ([], input)
  let descriptor (standard : Nat) : Nat := if digits.isEmpty then standard else numberIn 10 digits
  let target (kind : RedirectionKind) (standard : Nat) (rest : List Char) :
      Reading (Option Redirection) := do
    goTo rest
    return some ⟨descriptor standard, kind, ← requiredWord settings nested⟩
  let document (dropsTabs : Bool) (rest : List Char) : Reading (Option Redirection) := do
    goTo rest
    return some (← document settings nested (descriptor 0) dropsTabs)
  match rest with
  | '<' :: '<' :: '-' :: rest => document true rest
  | '<' :: '<' :: rest => document false rest
  | '<' :: '&' :: rest => target .duplicate 0 rest
  | '<' :: '>' :: rest => target .readWrite 0 rest
  | '<' :: rest => target .input 0 rest
  | '>' :: '>' :: rest => target .append 1 rest
  | '>' :: '&' :: rest => target .duplicate 1 rest
  | '>' :: '|' :: rest => target (.output true) 1 rest
  | '>' :: rest => target (.output false) 1 rest
  | _ => return none

/-! Simple commands -/

/-- Puts what an alias stands for in the place of the word that comes next. No alias is replaced again
at the start of what it stands for. Where that ends with a blank, the next word may be an alias too. -/
def withoutAliases (all : List (String × String)) :
    (known : List (String × String)) → (limit : Nat) → List Char → List Char
  | _, 0, input => input
  | known, limit + 1, input =>
      let word := nextWord input
      match known.lookup word with
      | none => input
      | some text =>
          let rest := input.drop word.length
          let rest := if text.toList.getLast?.any isBlankChar then
              withoutAliases all all limit (dropBlanks rest)
            else rest
          withoutAliases all (known.filter (·.1 != word)) limit (dropBlanks (text.toList ++ rest))

def replaceAliases : Reading Unit := do
  modify fun source =>
    let input := withoutAliases settings.aliases settings.aliases 100 source.input
    { source with
      input, lastLine := source.lastLine + input.count '\n' - source.input.count '\n' }

abbrev SimplePart := Word ⊕ Redirection

def simplePart : Reading (Option SimplePart) := do
  match ← redirection? settings nested with
  | some redirection => return some (.inr redirection)
  | none => return (← word? settings nested).map .inl

def leadingPart : Reading (Option SimplePart) := do
  let before ← get
  match ← simplePart settings nested with
  | some (.inl word) =>
      if word.assignment?.isSome then return some (.inl word)
      set before
      return none
  | other => return other

def functionBody (word : Word) (command : Reading Command) : Reading Command := do
  require ")"
  match word.plainText? with
  | some name =>
      unless isName name do fail "Bad function name"
      newlines
      return .function name (← command)
  | none => fail "Bad function name"

def simpleCommand (command : Reading Command) : Reading Command := do
  blanks
  let line := (← get).line
  let leading ← collect (leadingPart settings nested)
  unless leading.isEmpty do
    blanks
    replaceAliases settings
  let parts ← collect (simplePart settings nested)
  if leading.isEmpty && parts.isEmpty then unexpected
  match leading, parts with
  | [], [.inl word] => if ← accept "(" then return ← functionBody word command
  | _, _ => pure ()
  let assignments := leading.filterMap fun part => part.getLeft?.bind Word.assignment?
  return .simple line assignments (parts.filterMap Sum.getLeft?)
    ((leading ++ parts).filterMap Sum.getRight?)

/-! Compound commands -/

def body : Reading Command := do
  newlines
  if atListEnd (← upcoming) then unexpected
  nested

def branches : Reading Command := do
  let branch : Reading (Command × Command) := do
    let condition ← body nested
    requireWord "then"
    return (condition, ← body nested)
  let first ← branch
  let others ← collect (do if ← acceptWord "elif" then return some (← branch) else return none)
  let last ← if ← acceptWord "else" then body nested else pure (.sequence [])
  requireWord "fi"
  return (first :: others).foldr (fun (condition, body) otherwise => .branch condition body otherwise)
    last

def loopBody : Reading Command := do
  requireWord "do"
  let commands ← body nested
  requireWord "done"
  return commands

def separator : Reading Unit := do
  blanks
  let input ← upcoming
  unless [';', ';'].isPrefixOf input do
    let _ ← accept ";"
  newlines

def eachLoop : Reading Command := do
  let name := (Word.plainText? (← requiredWord settings nested)).getD ""
  unless isName name do fail "Bad for loop variable"
  newlines
  let words? ← if ← acceptWord "in" then some <$> collect (word? settings nested) else pure none
  separator
  return .each name words? (← loopBody nested)

def choiceBranch : Reading (Option (List Word × Command)) := do
  newlines
  if nextWord (← upcoming) = "esac" then return none
  let _ ← accept "("
  let first ← requiredWord settings nested
  let others ← collect (do
    blanks
    if ← accept "|" then return some (← requiredWord settings nested) else return none)
  require ")"
  let command ← nested
  newlines
  let ends ← accept ";;"
  unless ends || nextWord (← upcoming) = "esac" do unexpected
  return some (first :: others, command)

def choice : Reading Command := do
  let subject ← requiredWord settings nested
  newlines
  requireWord "in"
  let branches ← collect (choiceBranch settings nested)
  requireWord "esac"
  return .choice subject branches

def compound? : Reading (Option Command) := do
  if ← accept "(" then
    let commands ← body nested
    require ")"
    return some (.subshell commands)
  if ← acceptWord "if" then return some (← branches nested)
  if ← acceptWord "while" then
    let condition ← body nested
    return some (.loop false condition (← loopBody nested))
  if ← acceptWord "until" then
    let condition ← body nested
    return some (.loop true condition (← loopBody nested))
  if ← acceptWord "for" then return some (← eachLoop settings nested)
  if ← acceptWord "case" then return some (← choice settings nested)
  if ← acceptWord "\x7b" then
    let commands ← body nested
    requireWord "\x7d"
    return some commands
  return none

def command : (depth : Nat) → Reading Command
  | 0 => fail "too deep"
  | depth + 1 => do
      blanks
      replaceAliases settings
      let input ← upcoming
      if atListEnd input || ["!", "in"].contains (nextWord input) then unexpected
      match ← compound? settings nested with
      | none => simpleCommand settings nested (command depth)
      | some compound =>
          let redirections ← collect (redirection? settings nested)
          return if redirections.isEmpty then compound else .redirected compound redirections

def pipeline : Reading Command := do
  let negated ← acceptWord "!"
  let depth := (← upcoming).length + 1
  let first ← command settings nested depth
  let others ← collect (do
    blanks
    match ← upcoming with
    | '|' :: '|' :: _ => return none
    | '|' :: rest =>
        goTo rest
        newlines
        return some (← command settings nested depth)
    | _ => return none)
  let commands := if others.isEmpty then first else .pipeline (first :: others)
  return if negated then .negation commands else commands

def conditional : Reading Command := do
  let first ← pipeline settings nested
  let others ← collect (do
    blanks
    let both ← accept "&&"
    let either ← if both then pure false else accept "||"
    unless both || either do return none
    newlines
    return some (both, ← pipeline settings nested))
  return others.foldl (fun command (both, next) =>
    if both then .both command next else .either command next) first

def listItem : Reading (Command × Bool) := do
  let command ← conditional settings nested
  blanks
  match ← upcoming with
  | ';' :: ';' :: _ => return (command, false)
  | ';' :: rest =>
      goTo rest
      return (command, true)
  | '&' :: rest =>
      goTo rest
      return (.background command, true)
  | '\n' :: _ => return (command, true)
  | _ => return (command, false)

def joined : List Command → Command
  | [command] => command
  | commands => .sequence commands

def listItems : (limit : Nat) → (found : List Command) → Reading Command
  | 0, found => return joined found.reverse
  | limit + 1, found => do
      newlines
      if atListEnd (← upcoming) then return joined found.reverse
      let (command, goesOn) ← listItem settings nested
      if goesOn then listItems limit (command :: found)
      else return joined (command :: found).reverse

def listUpTo (settings : Settings) : (depth : Nat) → Reading Command
  | 0 => fail "too deep"
  | depth + 1 => do listItems settings (listUpTo settings depth) ((← upcoming).length + 1) []

/-- Reads commands up to the end of the line, where another line may not be what ends a list. -/
def lineItems : (limit : Nat) → (found : List Command) → Reading Command
  | 0, found => return joined found.reverse
  | limit + 1, found => do
      blanks
      if (← endLine) || (← upcoming).isEmpty then return joined found.reverse
      let (command, goesOn) ← listItem settings nested
      if goesOn || (← upcoming).isEmpty then lineItems limit (command :: found) else unexpected

def readLine (settings : Settings) : Reading (Option Command) := do
  newlines
  let input ← upcoming
  if input.isEmpty then return none
  let nested := listUpTo settings (input.length + 1)
  return some (← lineItems settings nested (input.length + 1) [])

end StatementLine.Host.Script
