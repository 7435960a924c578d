import StatementLine.Host.Utility

/-! Carrying out commands. A step carries out one command and leaves those in it to a runner, which is
the step itself up to a depth. -/

namespace StatementLine.Host

open Shell

namespace Interpreter

variable (run : Runner)

/-! Scripts -/

/-- Carries out what is left of a script. What one line changes bears on the reading of the next. -/
def evaluateFrom : (limit : Nat) → (isFirst : Bool) → Script.Source → Action Unit
  | 0, _, _ => return ()
  | limit + 1, isFirst, source => do
      let shell ← get
      match (Script.readLine ⟨shell.isExtended, shell.aliases⟩).run source with
      | .error misreading =>
          set { shell with line := misreading.line }
          giveUp misreading.text
      | .ok (none, _) => if isFirst then setStatus 0
      | .ok (some command, rest) =>
          run command
          if ← onward then evaluateFrom limit false rest

def evaluate (script : String) (firstLine : Nat := 1) : Action Unit :=
  evaluateFrom run (script.length + 1) true (.ofText firstLine script.toList)

def deepestJob : Nat := 20

/-- Carries out those of the jobs that were not carried out yet. -/
def settle (chosen : Nat → Bool) : (depth : Nat) → Action Unit
  | 0 => return ()
  | depth + 1 => do
      for number in List.range (← get).jobs.length do
        match (← get).jobs[number]? with
        | some { command, arguments, bindings, status? := none } =>
            if chosen (number + 1) then
              let status := (← get).status
              inCopy do
                bind 0 (← openStream .nothing)
                modify fun shell => { shell with arguments, bindings, tested := false }
                run command
                settle (fun _ => true) depth
              modify fun shell => { shell with
                status
                jobs := shell.jobs.set number ⟨command, arguments, bindings, some shell.status⟩ }
        | _ => pure ()

def runInCopy (action : Action Unit) : Action Unit :=
  inCopy do
    action
    settle run (fun _ => true) deepestJob

/-- What a script writes, less the line feeds at its end. Its status counts for a command that has nothing
but assignments. -/
def substitute : Substituter := fun line script => do
  let before ← get
  let sink ← openStream (.sink "")
  runInCopy run do
    bind 1 sink
    modify fun shell => { shell with tested := false }
    evaluate run script line
  let shell ← get
  set { shell with
    status := before.status, substitutedStatus := some shell.status
    streams := shell.streams.extract 0 before.streams.size }
  let kept := (shell.written sink).toList.filter (· ≠ '\x00')
  return String.ofList (kept.reverse.dropWhile (· == '\n')).reverse

/-! Redirections -/

def openPath (kind : RedirectionKind) (path : String) : Action (Except FileFailure Nat) := do
  let shell ← get
  let reads := kind == .input
  match shell.files.locate path with
  | .error failure => return .error failure
  | .ok place =>
      match shell.files.root.find? place with
      | some (.device (.stream descriptor)) =>
          return (shell.descriptors.lookup descriptor).elim (.error .notFound) .ok
      | some (.device .zero) =>
          let zeros := List.replicate Files.plenty '\x00'
          return .ok (← openStream (if reads then .source zeros false else .nothing))
      | some (.device .null) => return .ok (← openStream .nothing)
      | some (.link _) => return .error .tooManyLinks
      | some (.folder _) =>
          if reads then return .ok (← openStream .nothing) else return .error .isDirectory
      | some (.file content executable) =>
          if reads then return .ok (← openStream (.source content.toList true))
          if kind == .output false && shell.flags.contains 'C' then return .error .alreadyExists
          unless kind == .append || kind == .readWrite do
            set { shell with files := shell.files.put place (.file "" executable) }
          return .ok (← openStream (.file place))
      | none =>
          if reads then return .error .notFound
          if path.endsWith "/" then return .error .isDirectory
          set { shell with files := shell.files.put place (.file "" false) }
          return .ok (← openStream (.file place))

def refusal (kind : RedirectionKind) (path : String) (failure : FileFailure) : String :=
  let missing := failure == .notFound || failure == .notDirectory
  if kind == .input then
    "cannot open " ++ path ++ ": " ++ (if missing then "No such file" else failure.text)
  else "cannot create " ++ path ++ ": " ++ (if missing then "Directory nonexistent" else failure.text)

def refuse (message : String) : Action Bool := do
  complain message
  setStatus 2
  return false

def duplicate (descriptor : Nat) (text : String) : Action Bool := do
  match text, if text.length = 1 then count? text else none with
  | "-", _ =>
      close descriptor
      return true
  | _, none =>
      giveUp "Syntax error: Bad fd number"
      return false
  | _, some copied =>
      match (← get).descriptors.lookup copied with
      | none => refuse (text ++ ": Bad file descriptor")
      | some stream =>
          bind descriptor stream
          return true

def perform (redirection : Redirection) : Action Bool := do
  let { descriptor, kind, target } := redirection
  let text ← match kind with
    | .document => do
        let pieces ← expandParts (substitute run) .quoted target
        pure (Field.text (Piece.joined (between (← get)) pieces))
    | _ => expandText (substitute run) target
  unless ← onward do return false
  match kind with
  | .duplicate => duplicate descriptor text
  | .document =>
      bind descriptor (← openStream (.source text.toList false))
      return true
  | kind =>
      match ← openPath kind text with
      | .error failure => refuse (refusal kind text failure)
      | .ok stream =>
          bind descriptor stream
          return true

def performAll : List Redirection → Action Bool
  | [] => return true
  | redirection :: rest => do
      if ← perform run redirection then performAll rest else return false

def redirected (redirections : List Redirection) (action otherwise : Action Unit) : Action Unit := do
  let before := (← get).descriptors
  if ← performAll run redirections then action else otherwise
  modify fun shell => { shell with descriptors := before }

/-! Programs -/

def freshShell (isExtended : Bool) (name : String) (arguments : List String) (flags : List Char)
    (shell : Shell) : Shell :=
  let bindings := shell.bindings.filter fun entry => entry.2.exported && entry.2.value?.isSome
  let folderPath := Files.pathText shell.files.folder
  let fresh : Shell :=
    { isExtended, name, arguments, flags := flags.filter (· ≠ 'c'), files := shell.files, folderPath
      bindings := bindings.map fun (name, known) => (name, { known with readOnly := false })
      streams := shell.streams, descriptors := shell.descriptors, feeds := shell.feeds }
  let fresh := (fresh.setValue "IFS" " \t\n").setValue "OPTIND" "1"
  fresh.put "PWD" { value? := some folderPath, exported := true }

def runScript (isExtended : Bool) (name : String) (arguments : List String) (flags : List Char)
    (script : String) : Action Nat := do
  runInCopy run do
    modify (freshShell isExtended name arguments flags)
    evaluate run script
  return (← get).status

def runShell (isExtended : Bool) (name : String) : Builtin := fun words => do
  let refuse (message : String) : Action Nat := Utility.fault name ("0: " ++ message) 2
  match Builtin.readFlags [] words with
  | .error message => refuse message
  | .ok (flags, rest?) =>
      let isCommand := flags.contains 'c'
      match if flags.contains 's' && !isCommand then [] else rest?.getD [] with
      | [] =>
          if isCommand then refuse "-c requires an argument"
          else runScript run isExtended name (rest?.getD []) flags (← Utility.takeInput)
      | first :: rest =>
          if isCommand then runScript run isExtended (rest.headD name) (rest.drop 1) flags first
          else
            match (← get).files.read first with
            | .ok script => runScript run isExtended first rest flags script
            | .error failure => refuse (refusal .input first failure)

def carryOut (env : Builtin) (name content : String) : Builtin :=
  match (content.dropPrefix? programMark).map (·.toString) with
  | none => fun arguments => runScript run false name arguments [] content
  | some "env" => env
  | some "bash" => runShell run true name
  | some known => (Utility.catalogue.lookup known).getD (runShell run false name)

def launch (env : Builtin) (reader : String) : Builtin
  | [] => return 0
  | name :: arguments => do
      match (← get).search name with
      | .notFound => failWith 127 (reader ++ name ++ ": not found")
      | .notExecutable =>
          failWith (if name = "" then 127 else 126) (reader ++ name ++ ": Permission denied")
      | .found _ content =>
          let status ← carryOut run env name content arguments
          if (← get).killedBy?.isSome then
            modify fun shell => { shell with killedBy? := none, flow := .onward }
          return status

def env : (depth : Nat) → Builtin
  | 0, _ => Utility.fault "env" "too deep" 125
  | depth + 1, words => do
      let empties := words.head? == some "-i"
      let words := if empties then words.drop 1 else words
      let given := words.takeWhile (·.contains '=')
      let before ← get
      inCopy do
        modify fun shell => given.foldl (fun (shell : Shell) (word : String) =>
            let (name, value?) := cutAt '=' word
            shell.put name { value?, exported := true })
          { shell with bindings := shell.bindings.filter fun entry => entry.2.exported && !empties }
        match words.drop given.length with
        | [] =>
            let known := (← get).bindings.filterMap fun (name, known) =>
              known.value?.map fun value => name ++ "=" ++ value
            setStatus (← Builtin.outputLines known)
        | words =>
            -- The program itself is looked for where it was before.
            if (← get).value? "PATH" |>.isNone then
              modify fun shell => shell.put "PATH" { value? := before.value? "PATH" }
            setStatus (← launch run (env depth) "env: " words)
      return (← get).status

def deepestStart : Nat := 20

def program (reader : String) : Builtin := launch run (env run deepestStart) reader

/-! Compound commands -/

def asTested (action : Action Unit) : Action Unit := do
  let before := (← get).tested
  modify fun shell => { shell with tested := true }
  action
  modify fun shell => { shell with tested := before }

def checkFailure : Action Unit := do
  let shell ← get
  if shell.status ≠ 0 && !shell.tested && shell.flags.contains 'e' && (← onward) then leave .exit

def runAll : List Command → Action Unit
  | [] => return ()
  | command :: rest => do
      run command
      if ← onward then runAll rest

def longestLoop (feeds : Bool) : Nat := if feeds then 100000 else 30000000

def brokenPipe : Nat := 141

def goesOn : Action Bool := do
  match (← get).flow with
  | .onward => return true
  | .break levels =>
      leave (if levels > 1 then .break (levels - 1) else .onward)
      return false
  | .continue levels =>
      leave (if levels > 1 then .continue (levels - 1) else .onward)
      return decide (levels ≤ 1)
  | _ => return false

def inLoop (action : Action Unit) : Action Unit := do
  modify fun shell => { shell with loops := shell.loops + 1 }
  action
  modify fun shell => { shell with loops := shell.loops - 1 }

/-- Repeats a body as long as the condition asks for it. The status is that of the last turn. -/
def repeatWhile (condition : Action Bool) (body : Action Unit) : (limit last : Nat) → Action Unit
  | 0, _ => do
      setStatus brokenPipe
      leave .exit
  | limit + 1, last => do
      let holds ← condition
      if !(← onward) then
        if ← goesOn then repeatWhile condition body limit last
      else if holds then
        body
        let last := (← get).status
        if ← goesOn then repeatWhile condition body limit last
      else setStatus last

def forEach (name : String) (body : Command) : (last : Nat) → List String → Action Unit
  | last, [] => setStatus last
  | _, value :: rest => do
      assign name value
      if ← onward then
        run body
        let last := (← get).status
        if ← goesOn then forEach name body last rest

/-- Carries out the commands of a pipeline in turn, each on what the one before has written. -/
def runPiped (input? : Option Nat) : List Command → Action Unit
  | [] => return ()
  | command :: rest => do
      let sink ← openStream (.sink "")
      runInCopy run do
        if let some input := input? then bind 0 input
        unless rest.isEmpty do
          bind 1 sink
          modify fun shell => { shell with feeds := true }
        run command
      let written := ((← get).written sink).toList
      runPiped (some (← openStream (.source written false))) rest

def accepts (word : Word) (text : String) : Action Bool := do
  let field ← expandField (substitute run) word
  let marks := if (← get).isExtended then ['!', '^'] else ['!']
  return (Regex.ofField field marks).accepts text.toList

def acceptsAny (text : String) : List Word → Action Bool
  | [] => return false
  | word :: rest => do
      if ← accepts run word text then return true
      if ← onward then acceptsAny text rest else return false

def choose (text : String) : List (List Word × Command) → Action Unit
  | [] => setStatus 0
  | (patterns, body) :: rest => do
      let accepted ← acceptsAny run text patterns
      if ← onward then
        match accepted, body with
        | true, .sequence [] => setStatus 0
        | true, body => run body
        | false, _ => choose text rest

/-! Functions and commands that carry out others -/

def deepestCall : Nat := 1000

def call (body : Command) (arguments : List String) : Action Unit := do
  let before ← get
  if before.shadowed.length ≥ deepestCall then
    return ← giveUp "Maximum function recursion depth (1000) reached"
  set { before with
    arguments, loops := 0, shadowed := [] :: before.shadowed
    shadowedFlags := none :: before.shadowedFlags }
  run body
  modify fun after =>
    let shell := (after.shadowed.headD []).foldl (fun (shell : Shell) (name, old) =>
      shell.restore name old) after
    { shell with
      arguments := before.arguments, loops := before.loops
      flags := (after.shadowedFlags.headD none).getD after.flags
      shadowed := before.shadowed, shadowedFlags := before.shadowedFlags
      flow := if after.flow == .return then .onward else after.flow }

def eval : Builtin := fun words => do
  evaluate run (String.intercalate " " words)
  return (← get).status

def source : Builtin
  | [] => return 0
  | file :: _ => do
      let shell ← get
      let path? := if file.contains '/' then some file
        else
          match shell.search file with
          | .found path _ => some path
          | _ => none
      match path?.map shell.files.read with
      | none => failFatally (".: " ++ file ++ ": not found")
      | some (.error failure) => failFatally (".: " ++ refusal .input file failure)
      | some (.ok script) =>
          evaluate run script
          modify fun after =>
            { after with flow := if after.flow == .return then .onward else after.flow }
          return (← get).status

def wait : Builtin := fun words => do
  match words.mapM count? with
  | none => failFatally "wait: Illegal number"
  | some [] =>
      settle run (fun _ => true) deepestJob
      return 0
  | some numbers =>
      settle run (fun number => numbers.contains (firstJob + number)) deepestJob
      let job? := (← get).jobs[numbers.getLastD 0 - firstJob - 1]?
      return (job?.bind (·.status?)).getD 127

def signalOf? (text : String) : Option Nat :=
  (count? text).or ((Signal.names.findIdx? (· == "SIG" ++ text)).map (· + 1))

def kill : Builtin := fun words => do
  let (signal?, targets) := match words with
    | "-s" :: name :: rest => (signalOf? name, rest)
    | word :: rest =>
        if word.startsWith "-" then (signalOf? (word.drop 1).toString, rest) else (some 15, words)
    | [] => (none, [])
  match signal? with
  | none => failWith 2 "kill: Usage: kill [-s sigspec | -signum | -sigspec] [pid | job]..."
  | some number =>
      if !targets.all (· == toString firstJob) then failWith 1 "kill: No such process"
      else if ends : 0 < number ∧ number < 127 then
        modify fun shell => { shell with killedBy? := some ⟨number, ends⟩, flow := .exit }
        return 128 + number
      else return 0

def confine (action : Action Nat) : Action Nat := do
  let status ← action
  let shell ← get
  if shell.flow == .abandon then
    set { shell with flow := .onward }
    return shell.status
  else return status

def builtin? : (depth : Nat) → String → Option Builtin
  | 0, _ => none
  | depth + 1, name =>
      let execute : Builtin := fun words =>
        match words with
        | [] => return 0
        | name :: arguments =>
            match builtin? depth name with
            | some builtin => confine (builtin arguments)
            | none => program run "" words
      match name with
      | "." => some (source run)
      | "eval" => some (eval run)
      | "kill" => some kill
      | "wait" => some (wait run)
      | "type" => some (Builtin.forWords Builtin.describe)
      | "exec" => some fun words => do
          let status ← program run "exec: " words
          unless words.isEmpty do leave .exit
          return status
      | "command" => some fun words =>
          match words with
          | "-v" :: names => Builtin.forWords Builtin.locate (names.take 1)
          | "-V" :: names => Builtin.forWords Builtin.describe (names.take 1)
          | "-p" :: words => execute words
          | "--" :: words => execute words
          | words => execute words
      | name => Builtin.plain.lookup name

/-! Simple commands -/

def assignAll : List (String × Word) → Action Unit
  | [] => return ()
  | (name, word) :: rest => do
      let value ← expandAssigned (substitute run) word
      if ← onward then assign name value
      if ← onward then assignAll rest

def withAssignments (assignments : List (String × Word)) (action : Action Unit) : Action Unit := do
  let before ← get
  assignAll run assignments
  if ← onward then
    modify fun shell => assignments.foldl (fun (shell : Shell) (name, _) =>
      match shell.find? name with
      | some known => shell.put name { known with exported := true }
      | none => shell) shell
    action
  modify fun shell => assignments.foldl (fun (shell : Shell) (name, _) =>
    shell.restore name (before.find? name)) shell

def expandArgument (word : Word) : Action (List String) := do
  match word.assignment? with
  | none => expandWord (substitute run) word
  | some (name, value) => return [name ++ "=" ++ (← expandAssigned (substitute run) value)]

def expandCommand : List Word → Action (List String)
  | [] => return []
  | word :: rest => do
      match ← expandWord (substitute run) word with
      | [] => if ← onward then expandCommand rest else return []
      | [name] =>
          if ["export", "readonly", "local"].contains name then
            return name :: (← rest.mapM (expandArgument run)).flatten
          else return name :: (← expandWords (substitute run) rest)
      | fields => return fields ++ (← expandWords (substitute run) rest)

def carryOutWords : Builtin := fun words => do
  let shell ← get
  let name := words.headD ""
  match builtin? run deepestStart name, shell.functions.lookup name with
  | some builtin, none =>
      if Builtin.special.contains name then builtin (words.drop 1)
      else confine (builtin (words.drop 1))
  | none, none => program run "" words
  | _, some body =>
      call run body (words.drop 1)
      return (← get).status

def runSimple (line : Nat) (assignments : List (String × Word)) (words : List Word)
    (redirections : List Redirection) : Action Unit := do
  modify fun shell => { shell with line, substitutedStatus := none }
  let isExtended := (← get).isExtended
  let words := if isExtended then words.flatMap fun word => expandBraces (word.length + 1) word
    else words
  match isExtended, words.map Word.plainText?, words with
  | true, some "[[" :: _, [_, subject, _, pattern, _] =>
      let accepted ← accepts run pattern (← expandText (substitute run) subject)
      if ← onward then setStatus (if accepted then 0 else 1)
  | _, _, _ =>
      let fields ← expandCommand run words
      if ← onward then
        let name := fields.headD ""
        let isSpecial := Builtin.special.contains name
        let action : Action Unit := do
          if fields.isEmpty then
            assignAll run assignments
            if ← onward then
              modify fun shell => { shell with status := shell.substitutedStatus.getD 0 }
          else if isSpecial then
            assignAll run assignments
            if ← onward then setStatus (← carryOutWords run fields)
          else withAssignments run assignments do setStatus (← carryOutWords run fields)
        let failed : Action Unit := do
          if isSpecial && (← onward) then leave .abandon
        if name = "exec" then
          if ← performAll run redirections then action else failed
        else redirected run redirections action failed

/-! One step -/

/-- Carries out a command, given how those in it are carried out. -/
def step : Command → Action Unit
  | .simple line assignments words redirections => do
      runSimple run line assignments words redirections
      checkFailure
  | .sequence commands => runAll run commands
  | .background command => modify fun shell => { shell with
      status := 0, jobs := shell.jobs ++ [⟨command, shell.arguments, shell.bindings, none⟩] }
  | .both first second => do
      asTested (run first)
      if (← onward) && (← get).status = 0 then run second
  | .either first second => do
      asTested (run first)
      if (← onward) && (← get).status ≠ 0 then run second
  | .negation command => do
      asTested (run command)
      if ← onward then
        modify fun shell => { shell with status := if shell.status = 0 then 1 else 0 }
  | .pipeline commands => do
      let before ← get
      runPiped run none commands
      modify fun shell => { shell with streams := shell.streams.extract 0 before.streams.size }
      checkFailure
  | .subshell body => do
      runInCopy run (run body)
      checkFailure
  | .redirected body redirections => redirected run redirections (run body) checkFailure
  | .branch condition body otherwise => do
      asTested (run condition)
      if ← onward then
        match (← get).status, otherwise with
        | 0, _ => run body
        | _, .sequence [] => setStatus 0
        | _, otherwise => run otherwise
  | .loop untilHolds condition body =>
      inLoop do
        let holds : Action Bool := do
          asTested (run condition)
          return ((← get).status == 0) != untilHolds
        repeatWhile holds (run body) (longestLoop (← get).feeds) 0
  | .each name words? body => do
      let values ← match words? with
        | none => pure (← get).arguments
        | some words => expandWords (substitute run) words
      if ← onward then inLoop (forEach run name body 0 values)
  | .choice subject branches => do
      let text ← expandText (substitute run) subject
      if ← onward then choose run text branches
  | .function name body =>
      if Builtin.special.contains name then giveUp "Syntax error: Bad function name"
      else modify fun shell => { shell with
        status := 0, functions := (name, body) :: shell.functions.filter (·.1 != name) }

end Interpreter

def runUpTo : (depth : Nat) → Runner
  | 0, _ => giveUp "maximum nesting level reached"
  | depth + 1, command => do
      unless (← get).flags.contains 'n' do Interpreter.step (runUpTo depth) command

def deepestNesting : Nat := 20000

def runCommand : Runner := runUpTo deepestNesting

end StatementLine.Host
