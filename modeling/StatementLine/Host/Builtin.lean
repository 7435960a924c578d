import StatementLine.Host.Condition
import StatementLine.Host.Expansion
import StatementLine.Host.Grammar

/-! Commands that are built into the shell and need no others to be carried out. -/

namespace StatementLine.Host

open Shell

namespace Builtin

def output (text : String) (status : Nat := 0) : Action Nat := do
  return if ← write 1 text then status else 1

def outputLines (lines : List String) : Action Nat := output (String.join (lines.map (· ++ "\n")))

def forWords (action : String → Action Nat) (words : List String) : Action Nat := do
  let mut status := 0
  for word in words do
    if ← onward then
      let latest ← action word
      if latest ≠ 0 then status := latest
  return status

def singleQuoted (text : String) : String :=
  let pieces := (text.splitOn "'").map fun piece => "'" ++ piece ++ "'"
  String.intercalate "\"'\"" pieces

/-! Printing and testing -/

def standardEscapes : EscapeRules := { afterZero := true, withoutZero := true, stops := true }

def extendedEscapes : EscapeRules := { afterZero := true, hexadecimal := true, stops := true }

def standardFormat : FormatRules :=
  { escapes := { withoutZero := true }, argumentEscapes := standardEscapes, badConversion := 2 }

def extendedFormat : FormatRules :=
  { escapes := { withoutZero := true, hexadecimal := true, quotes := true }
    argumentEscapes := { extendedEscapes with withoutZero := true }, badConversion := 1 }

def echo : Builtin := fun words => do
  if (← get).isExtended then output (echoed extendedEscapes false words)
  else output (echoed standardEscapes true words)

def printfBy (rules : FormatRules) : Builtin := fun words => do
  match if words.head? == some "--" then words.drop 1 else words with
  | [] => failWith 2 "printf: usage: printf format [arg ...]"
  | format :: arguments =>
      if words.head?.any fun word => word.startsWith "-" && word.length > 1 && word ≠ "--" then
        return ← failWith 2 ("printf: Illegal option " ++ format)
      let (text, status, faults) := formatted rules format arguments
      for fault in faults do complain ("printf: " ++ fault)
      output text status

def printf : Builtin := fun words => do
  printfBy (if (← get).isExtended then extendedFormat else standardFormat) words

def test : Builtin := fun words => do
  match Condition.holds (← get).files words with
  | .ok holds => return if holds then 0 else 1
  | .error fault => failWith 2 ("test: " ++ fault)

def bracket : Builtin := fun words => do
  if words.getLast? == some "]" then test words.dropLast else failWith 2 "[: missing ]"

/-! Leaving -/

def leaveWith (name : String) (flow : Flow) : Builtin := fun words => do
  match words.head?, words.head?.bind count? with
  | some word, none => failFatally (name ++ ": Illegal number: " ++ word)
  | _, status? =>
      leave flow
      return status?.getD (← get).status % 256

def leaveLoops (name : String) (flow : Nat → Flow) : Builtin := fun words => do
  match words.head?, words.head?.bind count? with
  | none, _ => leaveLevels 1
  | some _, some (levels + 1) => leaveLevels (levels + 1)
  | some word, _ => failFatally (name ++ ": Illegal number: " ++ word)
where
  leaveLevels (asked : Nat) : Action Nat := do
    let levels := min asked (← get).loops
    if levels > 0 then leave (flow levels)
    return 0

/-! Variables -/

def badName (command name : String) : Action Nat :=
  failFatally (command ++ ": " ++ name ++ ": bad variable name")

def withMark (command : String) (isMarked : Variable → Bool) (mark : Variable → Variable) : Builtin :=
  fun words => do
    match words with
    | [] => list
    | "-p" :: _ => list
    | words => forWords (fun word => do
        let (name, value?) := cutAt '=' word
        unless isName name do return ← badName command name
        if let some value := value? then assign name value
        unless ← onward do return (← get).status
        modify fun shell => shell.put name (mark ((shell.find? name).getD {}))
        return 0) words
where
  list : Action Nat := do
    let known := (← get).bindings.filter fun entry => isMarked entry.2
    outputLines (known.map fun (name, known) =>
      command ++ " " ++ name ++ (known.value?.elim "" fun value => "=" ++ singleQuoted value))

def makeLocal (word : String) : Action Nat := do
  let shell ← get
  match word, shell.shadowed, shell.shadowedFlags with
  | "-", _, none :: others =>
      set { shell with shadowedFlags := some shell.flags :: others }
      return 0
  | _, frame :: others, _ =>
      let (name, value?) := cutAt '=' word
      unless isName name do return ← badName "local" name
      unless frame.any (·.1 == name) do
        set { shell with shadowed := ((name, shell.find? name) :: frame) :: others }
      if let some value := value? then assign name value
      return 0
  | _, [], _ => failFatally "local: not in a function"

def unsetVariable (name : String) : Action Nat := do
  unless isName name do return ← badName "unset" name
  if ((← get).find? name).any (·.readOnly) then failFatally ("unset: " ++ name ++ ": is read only")
  else
    modify (·.remove name)
    return 0

def unset : Builtin
  | "-f" :: names => forWords (fun name => do
      modify fun shell => { shell with functions := shell.functions.filter (·.1 != name) }
      return 0) names
  | "-v" :: names => forWords unsetVariable names
  | names => forWords unsetVariable names

/-! Flags and arguments -/

def flagNames : List (String × Char) :=
  [("errexit", 'e'), ("noglob", 'f'), ("ignoreeof", 'I'), ("interactive", 'i'), ("monitor", 'm'),
    ("noexec", 'n'), ("stdin", 's'), ("xtrace", 'x'), ("verbose", 'v'), ("vi", 'V'), ("emacs", 'E'),
    ("noclobber", 'C'), ("allexport", 'a'), ("notify", 'b'), ("nounset", 'u'), ("privileged", 'p'),
    ("nolog", 'l'), ("debug", 'd')]

def isFlag (letter : Char) : Bool := letter == 'c' || flagNames.any (·.2 == letter)

/-- Reads flags in front of words: the flags that are set then, and the words behind them. Two dashes
end them, so that there may be no words at all. -/
def readFlags (flags : List Char) : List String → Except String (List Char × Option (List String))
  | [] => .ok (flags, none)
  | word :: rest =>
      let letters := word.toList.drop 1
      let change (letters : List Char) : List Char :=
        let others := flags.filter (!letters.contains ·)
        if word.startsWith "-" then others ++ letters else others
      if word = "--" then .ok (flags, some rest)
      else if word = "-" then .ok (flags, if rest.isEmpty then none else some rest)
      else if !word.startsWith "-" && !word.startsWith "+" then .ok (flags, some (word :: rest))
      else if letters = ['o'] then
        match rest with
        | [] => .error ("Illegal option " ++ word)
        | name :: later =>
            match flagNames.lookup name with
            | some letter => readFlags (change [letter]) later
            | none => .error ("Illegal option " ++ word ++ " " ++ name)
      else if letters.all isFlag then readFlags (change letters) rest
      else .error ("Illegal option " ++ word)

def set_ : Builtin := fun words => do
  let shell ← get
  match words with
  | [] =>
      let known := shell.bindings.mergeSort fun first second => decide (first.1 ≤ second.1)
      outputLines (known.filterMap fun (name, known) =>
        known.value?.map fun value => name ++ "=" ++ singleQuoted value)
  | ["-o"] =>
      outputLines ("Current option settings" :: flagNames.map fun (name, letter) =>
        name ++ String.ofList (List.replicate (16 - name.length) ' ') ++
          (if shell.flags.contains letter then "on" else "off"))
  | words =>
      match readFlags shell.flags words with
      | .error message => failFatally ("set: " ++ message)
      | .ok (flags, arguments?) =>
          set { shell with flags, arguments := arguments?.getD shell.arguments }
          return 0

def shift : Builtin := fun words => do
  let shell ← get
  match (words.head?.map count?).getD (some 1) with
  | none => failFatally ("shift: Illegal number: " ++ words.headD "")
  | some count =>
      if count > shell.arguments.length then failFatally "shift: can't shift that many"
      else
        set { shell with arguments := shell.arguments.drop count }
        return 0

structure LetterReading where
  letter : Char
  argument? : Option String
  index : Nat
  lettersRead : Nat := 0
  message? : Option String := none

def readLetter? (spec : List Char) (arguments : List String) (index lettersRead : Nat) :
    Option LetterReading :=
  let word := ((arguments[index - 1]?).getD "").toList
  let isQuiet := spec.head? == some ':'
  match if word.head? == some '-' then word.drop (max 1 (lettersRead + 1)) else [] with
  | [] => none
  | letter :: rest =>
      let lettersRead := if rest.isEmpty then 0 else lettersRead + 1
      let after := if rest.isEmpty then index + 1 else index
      let fault (shown : Char) (index lettersRead : Nat) (message : String) : LetterReading :=
        let text := String.singleton letter
        if isQuiet then ⟨shown, some text, index, lettersRead, none⟩
        else ⟨'?', none, index, lettersRead, some (message.replace "*" text)⟩
      if letter = '-' && rest.isEmpty && lettersRead = 0 && word.length = 2 then none
      else if letter = ':' || !spec.contains letter then
        fault '?' after lettersRead "Illegal option -*"
      else if (spec.dropWhile (· ≠ letter))[1]? != some ':' then
        some ⟨letter, some "", after, lettersRead, none⟩
      else if !rest.isEmpty then some ⟨letter, some (String.ofList rest), index + 1, 0, none⟩
      else
        match arguments[index]? with
        | some argument => some ⟨letter, some argument, index + 2, 0, none⟩
        | none => fault ':' (index + 1) 0 "No arg for -* option"

/-- The index that is shown goes on as soon as a word's first letter is read. -/
def getopts : Builtin
  | spec :: name :: given => do
      let shell ← get
      let arguments := if given.isEmpty then shell.arguments else given
      let shown := ((shell.value? "OPTIND").bind count?).getD 1
      let index := max 1 (if shell.lettersRead > 0 then shown - 1 else shown)
      match readLetter? spec.toList arguments index shell.lettersRead with
      | none =>
          let isEnd := arguments[index - 1]? == some "--"
          assign "OPTIND" (toString (if isEnd then index + 1 else index))
          assign name "?"
          return 1
      | some reading =>
          match reading.argument? with
          | some argument => assign "OPTARG" argument
          | none => modify (·.remove "OPTARG")
          if let some message := reading.message? then
            let _ ← write 2 (message ++ "\n")
          assign "OPTIND" (toString (reading.index + if reading.lettersRead > 0 then 1 else 0))
          assign name (String.singleton reading.letter)
          modify fun shell => { shell with lettersRead := reading.lettersRead }
          return 0
  | _ => failFatally "getopts: Usage: getopts optstring var [arg...]"

/-! Reading -/

def takeLine (raw : Bool) (done : Field) : List Char → Field × Bool × List Char
  | [] => (done.reverse, false, [])
  | '\n' :: rest => (done.reverse, true, rest)
  | '\\' :: c :: rest =>
      if raw then takeLine raw (⟨'\\', false⟩ :: done) (c :: rest)
      else takeLine raw (if c = '\n' then done else ⟨c, true⟩ :: done) rest
  | c :: rest => takeLine raw (⟨c, false⟩ :: done) rest

def cutFields (separators : String) : (count : Nat) → Field → List String
  | 0, _ => []
  | count + 1, line =>
      let separates (c : FieldChar) : Bool := !c.quoted && separators.contains c.character
      let isSpace (c : FieldChar) : Bool := separates c && " \t\n".contains c.character
      let field := line.takeWhile (!separates ·)
      let rest := (line.drop field.length).dropWhile isSpace
      let rest := if rest.head?.any separates then (rest.drop 1).dropWhile isSpace else rest
      if count = 0 && !rest.isEmpty then [Field.text (line.reverse.dropWhile isSpace).reverse]
      else Field.text field :: cutFields separators count rest

def read : Builtin := fun words => do
  let raw := words.head? == some "-r"
  match if raw then words.drop 1 else words with
  | [] => failWith 2 "read: arg count"
  | names =>
      let shell ← get
      let (line, ended, rest) := takeLine raw [] (shell.unread 0).1
      readUpTo 0 rest
      let isSpace (c : FieldChar) : Bool :=
        !c.quoted && " \t\n".contains c.character && shell.separators.contains c.character
      for (name, value) in names.zip (cutFields shell.separators names.length (line.dropWhile isSpace)) do
        assign name value
      return if ended then 0 else 1

/-! Folders and rights -/

def namedPath (current path : String) : String :=
  let path := if path.startsWith "/" then path else current ++ "/" ++ path
  let components := (path.splitOn "/").foldl (fun done component =>
    if component = "" || component = "." then done
    else if component = ".." then done.drop 1
    else component :: done) []
  Files.pathText components.reverse

def cd : Builtin := fun words => do
  let shell ← get
  let target := match words with
    | [] => shell.value "HOME"
    | "-" :: _ => shell.value "OLDPWD"
    | path :: _ => path
  if target = "" then return 0
  let folderPath := namedPath shell.folderPath target
  match shell.files.find folderPath with
  | .ok (folder, .folder _) =>
      let shell := { shell with files := { shell.files with folder }, folderPath }
      let before := shell.value "PWD"
      set ((shell.setValue "OLDPWD" before).setValue "PWD" folderPath)
      if words.head? == some "-" then outputLines [folderPath] else return 0
  | _ => failWith 2 ("cd: can't cd to " ++ target)

def newRights? (rights : Nat) (clause : String) : Option Nat :=
  let classOf (letter : Char) : Nat :=
    match letter with
    | 'u' => 0o700
    | 'g' => 0o070
    | 'o' => 0o007
    | _ => 0o777
  let rightOf (letter : Char) : Nat :=
    match letter with
    | 'r' => 0o444
    | 'w' => 0o222
    | _ => 0o111
  let who := clause.toList.takeWhile ("ugoa".contains ·)
  let classes := if who.isEmpty then 0o777 else who.foldl (fun bits letter => bits ||| classOf letter) 0
  match clause.toList.drop who.length with
  | [] => none
  | operator :: letters =>
      let bits := classes &&& letters.foldl (fun bits letter => bits ||| rightOf letter) 0
      if !letters.all ("rwx".contains ·) then none
      else
        match operator with
        | '+' => some (rights ||| bits)
        | '-' => some (rights - (rights &&& bits))
        | '=' => some ((rights - (rights &&& classes)) ||| bits)
        | _ => none

def rightsText (rights : Nat) : String :=
  let ofClass (name : String) (shift : Nat) : String :=
    let left := rights / shift % 8
    name ++ "=" ++ (if left &&& 4 ≠ 0 then "r" else "") ++ (if left &&& 2 ≠ 0 then "w" else "") ++
      (if left &&& 1 ≠ 0 then "x" else "")
  String.intercalate "," [ofClass "u" 64, ofClass "g" 8, ofClass "o" 1]

def umask : Builtin := fun words => do
  let shell ← get
  match words with
  | [] => outputLines [padded 8 4 shell.mask]
  | "-S" :: _ => outputLines [rightsText (0o777 - shell.mask)]
  | word :: _ =>
      let mask? := if word.all (isDigitOf 8) then some (numberIn 8 word.toList % 512)
        else ((word.splitOn ",").foldl (fun rights? clause => rights?.bind (newRights? · clause))
          (some (0o777 - shell.mask))).map (0o777 - ·)
      match mask? with
      | none => failWith 2 ("umask: Illegal mode: " ++ word)
      | some mask =>
          set { shell with mask }
          return 0

/-! Aliases -/

def alias_ : Builtin := fun words => do
  let line (name value : String) : String := name ++ "=" ++ singleQuoted value
  if words.isEmpty then
    let known := (← get).aliases.mergeSort fun first second => decide (first.1 ≤ second.1)
    return ← outputLines (known.map fun (name, value) => line name value)
  forWords (fun word => do
    let shell ← get
    match cutAt '=' word with
    | (name, some value) =>
        set { shell with aliases := (name, value) :: shell.aliases.filter (·.1 != name) }
        return 0
    | (name, none) =>
        match shell.aliases.lookup name with
        | some value => outputLines [line name value]
        | none => failWith 1 ("alias: " ++ name ++ " not found")) words

def unalias : Builtin
  | "-a" :: _ => do
      modify fun shell => { shell with aliases := [] }
      return 0
  | names => forWords (fun name => do
      let shell ← get
      set { shell with aliases := shell.aliases.filter (·.1 != name) }
      if (shell.aliases.lookup name).isSome then return 0
      else failWith 1 ("unalias: " ++ name ++ " not found")) names

def hash : Builtin := fun words =>
  forWords (fun name => do
    match (← get).search name with
    | .found _ _ => return 0
    | _ => failWith 1 ("hash: " ++ name ++ ": not found")) (words.filter (!·.startsWith "-"))

def plain : List (String × Builtin) :=
  [(":", fun _ => return 0), ("[", bracket), ("alias", alias_), ("break", leaveLoops "break" .break),
    ("cd", cd), ("continue", leaveLoops "continue" .continue), ("echo", echo),
    ("exit", leaveWith "exit" .exit),
    ("export", withMark "export" (·.exported) fun known => { known with exported := true }),
    ("false", fun _ => return 1), ("getopts", getopts), ("hash", hash), ("local", forWords makeLocal),
    ("printf", printf), ("pwd", fun _ => do outputLines [(← get).folderPath]), ("read", read),
    ("readonly", withMark "readonly" (·.readOnly) fun known => { known with readOnly := true }),
    ("return", leaveWith "return" .return), ("set", set_), ("shift", shift), ("test", test),
    ("true", fun _ => return 0), ("umask", umask), ("unalias", unalias), ("unset", unset)]

def carriers : List String := [".", "command", "eval", "exec", "kill", "type", "wait"]

/-- Commands whose names no function can have. An error in one of them ends the script. -/
def special : List String :=
  [".", ":", "break", "continue", "eval", "exec", "exit", "export", "local", "readonly", "return",
    "set", "shift", "unset"]

/-! What names mean -/

def meaning? (shell : Shell) (name : String) : Option (String × String) :=
  if Script.reservedWords.contains name then some (name ++ " is a shell keyword", name)
  else
    match shell.aliases.lookup name, shell.search name with
    | some text, _ =>
        some (name ++ " is an alias for " ++ text, "alias " ++ name ++ "=" ++ singleQuoted text)
    | none, found =>
        if shell.functions.any (·.1 == name) then some (name ++ " is a shell function", name)
        else if special.contains name then some (name ++ " is a special shell builtin", name)
        else if carriers.contains name || (plain.lookup name).isSome then
          some (name ++ " is a shell builtin", name)
        else
          match found with
          | .found path _ => some (name ++ " is " ++ path, path)
          | _ => none

def describe (name : String) : Action Nat := do
  match meaning? (← get) name with
  | some (sentence, _) => outputLines [sentence]
  | none => output (name ++ ": not found\n") 127

def locate (name : String) : Action Nat := do
  match meaning? (← get) name with
  | some (_, text) => outputLines [text]
  | none => return 127

end Builtin

end StatementLine.Host
