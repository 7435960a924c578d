import StatementLine.Host.Builtin

/-! Programs of the system, as commands that a shell carries out. -/

namespace StatementLine.Host

open Shell

namespace Utility

def fault (name message : String) (status : Nat := 1) : Action Nat := do
  let _ ← write 2 (name ++ ": " ++ message ++ "\n")
  return status

/-! Options -/

structure Given where
  letters : List Char := []
  texts : List (Char × String) := []
  operands : List String := []

namespace Given

def has (given : Given) (letter : Char) : Bool := given.letters.contains letter

def text? (given : Given) (letter : Char) : Option String := given.texts.lookup letter

end Given

/-- Reads the letters of a word. One that takes a text takes what is left of the word, or the next. -/
def readLetters (known valued : String) (given : Given) (next? : Option String) :
    List Char → Option (Given × Bool)
  | [] => some (given, false)
  | letter :: rest =>
      if known.contains letter then
        readLetters known valued { given with letters := letter :: given.letters } next? rest
      else if !valued.contains letter then none
      else if !rest.isEmpty then
        some ({ given with texts := (letter, String.ofList rest) :: given.texts }, false)
      else next?.map fun next => ({ given with texts := (letter, next) :: given.texts }, true)

def readOptions (known valued : String) (given : Given) : (limit : Nat) → List String → Option Given
  | 0, _ => some given
  | _, [] => some given
  | _, "--" :: rest => some { given with operands := given.operands ++ rest }
  | limit + 1, word :: rest =>
      if word.startsWith "-" && word.length > 1 then
        match readLetters known valued given rest.head? (word.toList.drop 1) with
        | none => none
        | some (given, true) => readOptions known valued given limit (rest.drop 1)
        | some (given, false) => readOptions known valued given limit rest
      else readOptions known valued { given with operands := given.operands ++ [word] } limit rest

def withOptions (name known valued : String) (action : Given → Action Nat) : Builtin := fun words => do
  match readOptions known valued {} (words.length + 1) words with
  | some given => action given
  | none => fault name "invalid option"

/-! Inputs -/

def takeInput : Action String := do
  let unread := ((← get).unread 0).1
  readUpTo 0 []
  return String.ofList unread

def readOperand (operand : String) : Action (Except FileFailure String) := do
  let files := (← get).files
  match operand, files.find? operand with
  | "-", _ => return .ok (← takeInput)
  | _, some (.device (.stream 0)) => return .ok (← takeInput)
  | _, _ => return files.read operand

def readOperands (name : String) (operands : List String) : Action (List (String × String) × Nat) := do
  let mut texts := #[]
  let mut status := 0
  for operand in if operands.isEmpty then ["-"] else operands do
    match ← readOperand operand with
    | .ok text => texts := texts.push (operand, text)
    | .error failure => status ← fault name (operand ++ ": " ++ failure.text)
  return (texts.toList, status)

def filter (name : String) (operands : List String) (change : String → String) : Action Nat := do
  let (texts, status) ← readOperands name operands
  Builtin.output (change (String.join (texts.map Prod.snd))) status

def linesOf (text : String) : List String × Bool :=
  let pieces := text.splitOn "\n"
  if pieces.getLast? == some "" then (pieces.dropLast, true) else (pieces, false)

def ofLines (lines : List String) : String := String.join (lines.map (· ++ "\n"))

def takeLines : (count : Nat) → (done : List Char) → List Char → List Char × List Char
  | 0, done, rest => (done.reverse, rest)
  | _, done, [] => (done.reverse, [])
  | count + 1, done, c :: rest => takeLines (if c = '\n' then count else count + 1) (c :: done) rest

/-! Parts of texts -/

/-- Prints the start of what operands name. Of the input that is not a file, no line is left. -/
def head : Builtin := withOptions "head" "" "cn" fun given => do
  let size := (given.text? 'c').bind count?
  let part (text : List Char) : List Char × List Char :=
    match size with
    | some size => (text.take size, text.drop size)
    | none => takeLines (((given.text? 'n').bind count?).getD 10) [] text
  if given.operands.isEmpty then
    let (text, isFile) := (← get).unread 0
    let (shown, rest) := part text
    readUpTo 0 (if isFile || size.isSome then rest else [])
    Builtin.output (String.ofList shown)
  else
    let (texts, status) ← readOperands "head" given.operands
    Builtin.output (String.ofList (texts.flatMap fun entry => (part entry.2.toList).1)) status

def tail : Builtin := withOptions "tail" "" "n" fun given =>
  filter "tail" given.operands fun text =>
    let (lines, ended) := linesOf text
    let count := ((given.text? 'n').bind count?).getD 10
    let shown := String.intercalate "\n" (lines.drop (lines.length - count))
    if ended && !lines.isEmpty then shown ++ "\n" else shown

def placesOf? (list : String) : Option (List (Nat × Option Nat)) :=
  (list.splitOn ",").mapM fun range =>
    match cutAt '-' range with
    | (only, none) => (count? only).map fun place => (place, some place)
    | (first, some last) => do
        let first ← if first = "" then some 1 else count? first
        if last = "" then return (first, none) else return (first, some (← count? last))

def cut : Builtin := withOptions "cut" "" "bcdf" fun given => do
  let separator := ((given.text? 'd').bind (·.toList.head?)).getD '\t'
  let byCharacter := (given.text? 'c').or (given.text? 'b')
  match (byCharacter.or (given.text? 'f')).bind placesOf? with
  | none => fault "cut" "you must specify a list of bytes, characters, or fields"
  | some ranges =>
      let chosen {α : Type} (parts : List α) : List α :=
        (parts.zipIdx 1).filterMap fun (part, place) =>
          if ranges.any fun (first, last?) => first ≤ place && last?.all (place ≤ ·) then some part
          else none
      let cutLine (line : String) : String :=
        if byCharacter.isSome then String.ofList (chosen line.toList)
        else
          let between := String.singleton separator
          if !line.contains separator then line
          else String.intercalate between (chosen (line.splitOn between))
      filter "cut" given.operands fun text => ofLines ((linesOf text).1.map cutLine)

def wc : Builtin := withOptions "wc" "clw" "" fun given => do
  let counts (text : String) : List (Char × Nat) :=
    let (lines, ended) := linesOf text
    let words := text.toList.splitBy fun first second => isSpaceByte first == isSpaceByte second
    [('l', if ended then lines.length else lines.length - 1),
      ('w', words.countP fun word => !word.any isSpaceByte), ('c', text.length)]
  let line (operand text : String) : String :=
    let shown := (counts text).filter fun entry => given.letters.isEmpty || given.has entry.1
    let width := if shown.length = 1 then 0 else 7
    let numbers := shown.map fun entry => aligned width (toString entry.2)
    String.intercalate " " (if given.operands.isEmpty then numbers else numbers ++ [operand])
  let (texts, status) ← readOperands "wc" given.operands
  Builtin.output (ofLines (texts.map fun (operand, text) => line operand text)) status

def grep : Builtin := withOptions "grep" "cqv" "e" fun given => do
  match (given.text? 'e').toList ++ given.operands with
  | [] => fault "grep" "no pattern" 2
  | pattern :: operands =>
      let regex := LineRegex.ofText pattern
      let (texts, status) ← readOperands "grep" operands
      let lines := texts.flatMap fun entry =>
        (linesOf entry.2).1.filter fun line => regex.isFound line != given.has 'v'
      if given.has 'c' then print (toString lines.length ++ "\n")
      else unless given.has 'q' do print (ofLines lines)
      return if status ≠ 0 then 2 else if lines.isEmpty then 1 else 0

def sort : Builtin := withOptions "sort" "nru" "" fun given =>
  filter "sort" given.operands fun text =>
    let key (line : String) : Int :=
      let (negative, digits) := cutSign (line.toList.dropWhile isSpaceByte)
      let size := numberIn 10 (digits.takeWhile Char.isDigit)
      if negative then -size else size
    let precedes (first second : String) : Bool :=
      if given.has 'n' && key first ≠ key second then decide (key first < key second)
      else decide (first ≤ second)
    let lines := (linesOf text).1.mergeSort fun first second =>
      if given.has 'r' then precedes second first else precedes first second
    ofLines (if given.has 'u' then lines.eraseReps else lines)

/-! Changed texts -/

def membersOf : (limit : Nat) → List Char → List Char
  | 0, _ => []
  | _, [] => []
  | limit + 1, '[' :: ':' :: rest =>
      let name := rest.takeWhile (· ≠ ':')
      let ranges := (CharSet.namedRanges? (String.ofList name)).getD []
      let members := ranges.flatMap fun (first, last) =>
        (List.range' first.toNat (last.toNat + 1 - first.toNat)).map Char.ofNat
      members ++ membersOf limit (rest.drop (name.length + 2))
  | limit + 1, first :: '-' :: last :: rest =>
      (List.range' first.toNat (last.toNat + 1 - first.toNat)).map Char.ofNat ++
        membersOf limit rest
  | limit + 1, c :: rest => c :: membersOf limit rest

def tr : Builtin := withOptions "tr" "d" "" fun given => do
  let rules : EscapeRules := { withoutZero := true }
  let members (set : String) : List Char :=
    membersOf set.length (rules.unescape set).1.toList
  let change? : Option (Char → Option Char) := match given.has 'd', given.operands.map members with
    | true, [dropped] => some fun c => if dropped.contains c then none else some c
    | false, [replaced, new] =>
        let table := replaced.zip (new ++ List.replicate replaced.length (new.getLastD ' '))
        some fun c => some ((table.lookup c).getD c)
    | _, _ => none
  match change? with
  | none => fault "tr" "missing or extra operand"
  | some change => filter "tr" [] fun text => String.ofList (text.toList.filterMap change)

def cutScript (separator : Char) : List Char → List Char × List Char
  | [] => ([], [])
  | '\\' :: c :: rest =>
      let (first, later) := cutScript separator rest
      (if c = separator then c :: first else '\\' :: c :: first, later)
  | c :: rest =>
      if c = separator then ([], rest)
      else
        let (first, later) := cutScript separator rest
        (c :: first, later)

def replacementOf (found : List Char) : List Char → List Char
  | '\\' :: c :: rest => (if c = 'n' then '\n' else c) :: replacementOf found rest
  | '&' :: rest => found ++ replacementOf found rest
  | c :: rest => c :: replacementOf found rest
  | [] => []

def sed : Builtin := withOptions "sed" "" "e" fun given => do
  match (given.text? 'e').toList ++ given.operands with
  | [] => fault "sed" "no script specified"
  | script :: operands =>
      match script.toList with
      | 's' :: separator :: rest =>
          let (pattern, rest) := cutScript separator rest
          let (replacement, flags) := cutScript separator rest
          let regex := LineRegex.ofText (String.ofList pattern)
          filter "sed" operands fun text =>
            let (lines, ended) := linesOf text
            let changed := lines.map fun line => String.ofList
              (regex.replace (flags.contains 'g') (replacementOf · replacement) (line.length + 1)
                line.toList)
            String.intercalate "\n" changed ++ (if ended && !lines.isEmpty then "\n" else "")
      | _ => fault "sed" "unknown command"

def byteName (c : Char) : String :=
  let escapes := [('\x00', "\\0"), ('\x07', "\\a"), ('\x08', "\\b"), ('\t', "\\t"), ('\n', "\\n"),
    ('\x0b', "\\v"), ('\x0c', "\\f"), ('\r', "\\r")]
  match escapes.lookup c with
  | some name => name
  | none => if ' ' ≤ c && c ≤ '~' then String.singleton c else padded 8 3 c.toNat

def od : Builtin := withOptions "od" "bcv" "At" fun given => do
  let shown? : Option (Char → String) :=
    if given.has 'c' || given.text? 't' = some "c" then some fun c =>
      aligned 4 (byteName c)
    else if given.text? 't' = some "x1" then some fun c => " " ++ padded 16 2 c.toNat
    else if given.has 'b' || given.text? 't' = some "o1" then some fun c => " " ++ padded 8 3 c.toNat
    else none
  match shown? with
  | none => fault "od" "no known format"
  | some shown =>
      filter "od" given.operands fun text =>
        let address (place : Nat) : String :=
          if given.text? 'A' = some "n" then "" else padded 8 7 place
        let rows := (List.range ((text.length + 15) / 16)).map fun row =>
          address (16 * row) ++ String.join (((text.toList.drop (16 * row)).take 16).map shown)
        let ending := address text.length
        ofLines (if ending.isEmpty then rows else rows ++ [ending])

/-! Printing -/

def echo : Builtin := fun words =>
  let rules : EscapeRules :=
    { afterZero := true, withoutZero := true, hexadecimal := true, stops := true }
  Builtin.output (echoed rules false words)

def isSafeByte (c : Char) : Bool := c.isAlphanum || "_-./:,+@%]".contains c

def quoted (text : String) : String :=
  let piece (c : Char) : String :=
    if c = '\'' then "'\\''"
    else if ' ' ≤ c && c ≤ '~' then String.singleton c
    else "'$'" ++ (if (byteName c).startsWith "\\" && c ≠ '\x00' then byteName c
      else "\\" ++ padded 8 3 c.toNat) ++ "''"
  if !text.isEmpty && text.all isSafeByte then text
  else "'" ++ String.join (text.toList.map piece) ++ "'"

def printf : Builtin := fun words => do
  let escapes : EscapeRules := { withoutZero := true, hexadecimal := true, quotes := true, stops := true }
  let rules : FormatRules :=
    { escapes, argumentEscapes := { escapes with afterZero := true }, badConversion := 1
      quoting := some quoted }
  match if words.head? == some "--" then words.drop 1 else words with
  | [] => fault "printf" "missing operand"
  | format :: arguments =>
      let (text, status, faults) := formatted rules format arguments
      for message in faults do
        let _ ← fault "printf" message
      Builtin.output text status

def yes : Builtin := fun words =>
  let line := (if words.isEmpty then "y" else String.intercalate " " words) ++ "\n"
  Builtin.output (String.join (List.replicate (Files.plenty / line.length + 1) line))

def basename : Builtin := withOptions "basename" "a" "" fun given =>
  let shown (ending name : String) : String :=
    let path := (name.toList.reverse.dropWhile (· == '/'))
    let last := if path.isEmpty && name ≠ "" then "/"
      else String.ofList (path.takeWhile (· ≠ '/')).reverse
    if ending ≠ "" && last ≠ ending && last.endsWith ending then (last.dropEnd ending.length).toString
    else last
  match given.has 'a', given.operands with
  | _, [] => fault "basename" "missing operand"
  | true, names => Builtin.outputLines (names.map (shown ""))
  | false, [name] => Builtin.outputLines [shown "" name]
  | false, [name, ending] => Builtin.outputLines [shown ending name]
  | false, _ => fault "basename" "extra operand"

def expr : Builtin := fun words => do
  let expression := String.intercalate " " (words.map fun word => if word = "=" then "==" else word)
  let read (name : String) (_ : Unit) : Except String Int := .error name
  let write (name : String) (_ : Int) (_ : Unit) : Except String Unit := .error name
  match do (← Arithmetic.parse expression).evaluate read write |>.run () with
  | .ok (value, _) => Builtin.output (toString value ++ "\n") (if value = 0 then 1 else 0)
  | .error message => fault "expr" ("syntax error: " ++ message) 2

/-! Files -/

def forPaths (name : String) (operands : List String)
    (action : Files → String → Except String Files) : Action Nat := do
  let mut status := 0
  for operand in operands do
    let shell ← get
    match action shell.files operand with
    | .ok files => set { shell with files }
    | .error message => status ← fault name message
  return status

def mkdir : Builtin := withOptions "mkdir" "p" "" fun given =>
  forPaths "mkdir" given.operands fun files operand =>
    let refuse (failure : FileFailure) : Except String Files :=
      .error ("cannot create directory '" ++ operand ++ "': " ++ failure.text)
    if given.has 'p' then
      let start := if operand.startsWith "/" then [] else files.folder
      .ok { { files with folder := start }.addFile operand (.folder []) with folder := files.folder }
    else
      match files.locate operand with
      | .error failure => refuse failure
      | .ok place =>
          if (files.root.find? place).isSome then refuse .alreadyExists
          else .ok (files.put place (.folder []))

def rm : Builtin := withOptions "rm" "fr" "" fun given =>
  forPaths "rm" given.operands fun files operand =>
    let refuse (failure : FileFailure) : Except String Files :=
      .error ("cannot remove '" ++ operand ++ "': " ++ failure.text)
    match files.find operand true with
    | .ok (place, tree) =>
        if tree.isFolder && !given.has 'r' then refuse .isDirectory else .ok (files.remove place)
    | .error failure => if given.has 'f' then .ok files else refuse failure

def touch : Builtin := withOptions "touch" "" "" fun given =>
  forPaths "touch" given.operands fun files operand =>
    match files.locate operand with
    | .error failure => .error ("cannot touch '" ++ operand ++ "': " ++ failure.text)
    | .ok place =>
        .ok (if (files.root.find? place).isSome then files else files.put place (.file "" false))

def ln : Builtin := withOptions "ln" "s" "" fun given => do
  match given.has 's', given.operands with
  | true, [target, path] =>
      forPaths "ln" [path] fun files path =>
        let refuse (failure : FileFailure) : Except String Files :=
          .error ("failed to create symbolic link '" ++ path ++ "': " ++ failure.text)
        match files.locate path true with
        | .error failure => refuse failure
        | .ok place =>
            if (files.root.find? place).isSome then refuse .alreadyExists
            else .ok (files.put place (.link target))
  | _, _ => fault "ln" "only symbolic links are made"

def cat : Builtin := withOptions "cat" "" "" fun given => filter "cat" given.operands id

/-- The programs of the system other than shells. Time does not pass in any of them. -/
def catalogue : List (String × Builtin) :=
  [("[", Builtin.bracket), ("basename", basename), ("cat", cat), ("cut", cut), ("echo", echo),
    ("expr", expr), ("false", fun _ => return 1), ("grep", grep), ("head", head), ("ln", ln),
    ("mkdir", mkdir), ("od", od), ("printf", printf), ("rm", rm), ("sed", sed),
    ("sleep", fun _ => return 0), ("sort", sort), ("tail", tail), ("test", Builtin.test),
    ("touch", touch), ("tr", tr), ("true", fun _ => return 0), ("wc", wc), ("yes", yes)]

end Utility

end StatementLine.Host
