import StatementLine.Host.Regex
import StatementLine.Host.Shell

/-! Expansion of words: parameters, commands and arithmetic are substituted, what was substituted is
cut into fields, and patterns are replaced by paths. -/

namespace StatementLine.Host

open Shell

/-! Fields -/

/-- A piece of what a word has become. A presence makes a field even if it stays empty; a boundary
stands between the parameters of a list. -/
inductive Piece where
  | char (c : FieldChar)
  | substituted (c : Char)
  | boundary
  | presence

namespace Piece

def ofText (quoted : Bool) (text : String) : List Piece :=
  text.toList.map fun c => if quoted then .char ⟨c, true⟩ else .substituted c

def joined (between : String) (pieces : List Piece) : Field :=
  pieces.flatMap fun
    | .char c => [c]
    | .substituted c => [⟨c, false⟩]
    | .boundary => Field.ofChars true between.toList
    | .presence => []

end Piece

/-- The fields that were cut, latest first, the one that is being read, if there is one, and whether
white space has just ended one. -/
structure Splitting where
  done : List Field := []
  current? : Option Field := none
  afterSpace : Bool := false

namespace Splitting

def add (state : Splitting) (c : FieldChar) : Splitting :=
  { state with current? := some (c :: state.current?.getD []), afterSpace := false }

def finish (state : Splitting) (afterSpace : Bool) : Splitting :=
  ⟨(state.current?.getD []).reverse :: state.done, none, afterSpace⟩

def step (separators : String) (state : Splitting) : Piece → Splitting
  | .char c => state.add c
  | .presence => { state with current? := some (state.current?.getD []), afterSpace := false }
  | .boundary => if state.current?.isSome then state.finish false else state
  | .substituted c =>
      if !separators.contains c then state.add ⟨c, false⟩
      else if " \t\n".contains c then if state.current?.isSome then state.finish true else state
      else if state.afterSpace then { state with afterSpace := false }
      else state.finish false

end Splitting

def splitFields (separators : String) (pieces : List Piece) : List Field :=
  let state := pieces.foldl (Splitting.step separators) {}
  (if state.current?.isSome then state.finish false else state).done.reverse

/-! Paths -/

def Field.isPattern (field : Field) : Bool := field.any fun c => !c.quoted && "*?[".contains c.character

def Field.components : Field → List Field
  | [] => [[]]
  | first :: rest =>
      let later := components rest
      if first.character = '/' then [] :: later else (first :: later.headD []) :: later.tail

def pathsFrom (files : Files) (start : String) : List Field → List String
  | [] => []
  | field :: later =>
      let goOn (path : String) : List String :=
        if later.isEmpty then if (files.entry? path).isSome then [path] else []
        else pathsFrom files (path ++ "/") later
      if !field.isPattern then goOn (start ++ field.text)
      else
        let regex := Regex.ofField field
        match files.find? (if start = "" then "." else start) with
        | some (.folder entries) =>
            let isShown (name : String) : Bool :=
              !name.startsWith "." || field.head?.any (·.character == '.')
            let names := (entries.map Prod.fst).filter fun name =>
              isShown name && regex.accepts name.toList
            (names.mergeSort fun first second => decide (first ≤ second)).flatMap fun name =>
              goOn (start ++ name)
        | _ => []

def Field.paths (files : Files) (field : Field) : List String :=
  if !field.isPattern then [field.text]
  else
    match pathsFrom files "" field.components with
    | [] => [field.text]
    | paths => paths

/-! Braces of the extended dialect -/

def alternatives (depth : Nat) (current : Word) : Word → Option (List Word × Word)
  | [] => none
  | .plain '\x7d' :: rest =>
      match depth with
      | 0 => some ([current.reverse], rest)
      | depth + 1 => alternatives depth (.plain '\x7d' :: current) rest
  | .plain '\x7b' :: rest => alternatives (depth + 1) (.plain '\x7b' :: current) rest
  | .plain ',' :: rest =>
      if depth = 0 then
        (alternatives 0 [] rest).map fun (others, later) => (current.reverse :: others, later)
      else alternatives depth (.plain ',' :: current) rest
  | part :: rest => alternatives depth (part :: current) rest

def range? (text : String) : Option (List Word) :=
  match text.splitOn ".." with
  | [first, last] => do
      let first ← first.toInt?
      let last ← last.toInt?
      let step : Int := if first ≤ last then 1 else -1
      return (List.range ((last - first).natAbs + 1)).map fun (index : Nat) =>
        Word.ofText (toString (first + step * index))
  | _ => none

def expandBraces : (limit : Nat) → Word → List Word
  | 0, word => [word]
  | _, [] => [[]]
  | limit + 1, part :: rest =>
      let plainly := (expandBraces limit rest).map (part :: ·)
      if !part.isPlain (· == '\x7b') then plainly
      else
        match alternatives 0 [] rest with
        | none => plainly
        | some (choices, later) =>
            let words? := match choices with
              | [only] => (Word.plainText? only).bind range?
              | choices => some (choices.flatMap (expandBraces limit))
            match words? with
            | none => plainly
            | some words => words.flatMap fun word => (expandBraces limit later).map (word ++ ·)

/-! Parameters -/

def firstJob : Nat := 1000

/-- What a parameter stands for: a text, if it is set, or the arguments, which are one field between
quotes if they join. -/
inductive Subject where
  | text (value? : Option String)
  | list (texts : List String) (joins : Bool)

def Subject.ofName (shell : Shell) (name : String) : Subject :=
  match name with
  | "@" => .list shell.arguments false
  | "*" => .list shell.arguments true
  | "?" => .text (some (toString shell.status))
  | "#" => .text (some (toString shell.arguments.length))
  | "-" => .text (some (String.ofList ("uaCnfe".toList.filter shell.flags.contains)))
  | "$" => .text (some (toString firstJob))
  | "!" => .text (if shell.jobs.isEmpty then none else some (toString (firstJob + shell.jobs.length)))
  | "0" => .text (some shell.name)
  | name =>
      match count? name with
      | some position => .text shell.arguments[position - 1]?
      | none => .text (shell.value? name)

def between (shell : Shell) : String := (shell.separators.take 1).toString

namespace Subject

def text? (shell : Shell) : Subject → Option String
  | text value? => value?
  | list texts _ => if texts.isEmpty then none else some (String.intercalate (between shell) texts)

def isList : Subject → Bool
  | text _ => false
  | list _ _ => true

def pieces (shell : Shell) (quoted : Bool) (subject : Subject) : List Piece :=
  match subject with
  | text value? => Piece.ofText quoted (value?.getD "")
  | list texts joins =>
      if quoted && joins then Piece.ofText true (String.intercalate (between shell) texts)
      else
        List.intercalate [.boundary] (texts.map fun text =>
          if quoted then .presence :: Piece.ofText true text else Piece.ofText false text)

def map (change : List Char → List Char) : Subject → Subject
  | text value? => text (value?.map fun value => String.ofList (change value.toList))
  | list texts joins => list (texts.map fun text => String.ofList (change text.toList)) joins

end Subject

def arithmetic (expression : String) : Action Int := do
  let shell ← get
  let read (name : String) (shell : Shell) : Except String Int :=
    match Arithmetic.valueOf? (shell.value name) with
    | some value => .ok value
    | none => .error ("Illegal number: " ++ shell.value name)
  let write (name : String) (value : Int) (shell : Shell) : Except String Shell :=
    if (shell.find? name).any (·.readOnly) then .error (name ++ ": is read only")
    else .ok (shell.setValue name (toString value))
  match do (← Arithmetic.parse expression).evaluate read write |>.run shell with
  | .ok (value, shell) =>
      set shell
      return value
  | .error failure =>
      giveUp ("arithmetic expression: " ++ failure ++ ": \"" ++ expression ++ "\"")
      return 0

def homeOf? (shell : Shell) (user : String) : Option String :=
  if user = "" then shell.value? "HOME"
  else
    match shell.files.read "/etc/passwd" with
    | .error _ => none
    | .ok table => (table.splitOn "\n").findSome? fun line =>
        match line.splitOn ":" with
        | [name, _, _, _, _, home, _] => if name = user then some home else none
        | _ => none

def withHomes (home? : String → Option String) (afterColons : Bool) :
    (limit : Nat) → (mayBegin : Bool) → Word → Word
  | 0, _, word => word
  | _, _, [] => []
  | limit + 1, mayBegin, part :: rest =>
      let user := rest.takeWhile (·.isPlain fun c => c != '/' && !(afterColons && c == ':'))
      let ends := (rest.drop user.length).head?.all (·.isPlain fun _ => true)
      match if mayBegin && ends && part.isPlain (· == '~') then (Word.plainText? user).bind home?
          else none with
      | some home =>
          (if home.isEmpty then [] else [.quoted home]) ++
            withHomes home? afterColons limit false (rest.drop user.length)
      | none =>
          part :: withHomes home? afterColons limit (afterColons && part.isPlain (· == ':')) rest

/-! Expansion -/

inductive PlainUse where
  | literal
  | substituted
  | quoted
deriving Repr, DecidableEq

/-- Carries out a script whose first line has a number, in a copy of the shell, and gives what it
writes less the line feeds at the end. -/
abbrev Substituter := (line : Nat) → String → Action String

variable (substitute : Substituter)

mutual

def expandPart (use : PlainUse) : WordPart → Action (List Piece)
  | .plain c =>
      return if use = .substituted then [.substituted c] else [.char ⟨c, use == .quoted⟩]
  | .quoted text => return .presence :: Piece.ofText true text
  | .doubleQuoted parts => do
      let pieces ← expandParts .quoted parts
      let isArguments := match parts with
        | [.parameter "@" .value _] => true
        | _ => false
      return if pieces.isEmpty && isArguments then [] else .presence :: pieces
  | .command line script => return Piece.ofText (use == .quoted) (← substitute line script)
  | .arithmetic expression => do
      let text := Field.text (Piece.joined "" (← expandParts .quoted expression))
      unless ← onward do return []
      return Piece.ofText (use == .quoted) (toString (← arithmetic text))
  | .parameter name operation word => do
      let shell ← get
      let subject := Subject.ofName shell name
      let given := subject.text? shell
      let quoted := use == .quoted
      let absent (alsoEmpty : Bool) : Bool :=
        match given with
        | none => alsoEmpty || !subject.isList
        | some text => alsoEmpty && text.isEmpty
      let inWord : PlainUse := if quoted then .quoted else .substituted
      let textOfWord : Action String := do
        return Field.text (Piece.joined (between shell) (← expandParts inWord word))
      let checkUnset : Action Unit := do
        if given.isNone && shell.flags.contains 'u' && !subject.isList then
          giveUp (name ++ ": parameter not set")
      let cut (drop : Regex → List Char → List Char) : Action (List Piece) := do
        let pattern := Regex.ofField (Piece.joined "" (← expandParts .literal word))
        checkUnset
        return (subject.map (drop pattern)).pieces shell quoted
      match operation with
      | .value =>
          checkUnset
          return subject.pieces shell quoted
      | .length =>
          checkUnset
          return Piece.ofText quoted (toString (given.getD "").length)
      | .default alsoEmpty =>
          if absent alsoEmpty then expandParts inWord word else return subject.pieces shell quoted
      | .alternative alsoEmpty =>
          if absent alsoEmpty then return [] else expandParts inWord word
      | .assign alsoEmpty =>
          unless absent alsoEmpty do return subject.pieces shell quoted
          let text ← textOfWord
          if isName name then assign name text else giveUp (name ++ ": bad variable name")
          return Piece.ofText quoted text
      | .fail alsoEmpty =>
          unless absent alsoEmpty do return subject.pieces shell quoted
          let text ← textOfWord
          giveUp (name ++ ": " ++ if text.isEmpty then "parameter not set" else text)
          return []
      | .dropStart longest => cut fun pattern => pattern.dropStart longest
      | .dropEnd longest => cut fun pattern => pattern.dropEnd longest

def expandParts (use : PlainUse) : List WordPart → Action (List Piece)
  | [] => return []
  | part :: rest => do
      let first ← expandPart use part
      unless ← onward do return []
      return first ++ (← expandParts use rest)

end

def expandField (word : Word) (afterColons : Bool := false) : Action Field := do
  let shell ← get
  let word := withHomes (homeOf? shell) afterColons word.length true word
  return Piece.joined (between shell) (← expandParts substitute .literal word)

def expandText (word : Word) : Action String := do return Field.text (← expandField substitute word)

def expandAssigned (word : Word) : Action String := do
  return Field.text (← expandField substitute word true)

def expandWord (word : Word) : Action (List String) := do
  let shell ← get
  let word := withHomes (homeOf? shell) false word.length true word
  let pieces ← expandParts substitute .literal word
  unless ← onward do return []
  let shell ← get
  let fields := splitFields shell.separators pieces
  return if shell.flags.contains 'f' then fields.map Field.text
    else fields.flatMap (Field.paths shell.files)

def expandWords (words : List Word) : Action (List String) := do
  let mut texts := #[]
  for word in words do
    if ← onward then texts := texts.appendList (← expandWord substitute word)
  return if ← onward then texts.toList else []

end StatementLine.Host
