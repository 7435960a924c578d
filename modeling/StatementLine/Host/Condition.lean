import StatementLine.Host.Files

/-! Conditions of `test`: words that are operators where their place allows it, and operands. -/

namespace StatementLine.Host.Condition

def unaryOperators : List String :=
  ["-z", "-n", "-e", "-f", "-d", "-r", "-w", "-x", "-s", "-L", "-h", "-t"]

def binaryOperators : List String :=
  ["=", "!=", "<", ">", "-eq", "-ne", "-lt", "-le", "-gt", "-ge"]

abbrev Judging := StateT (List String) (Except String)

def integer (text : String) : Except String Int :=
  let (negative, digits) := cutSign (trimmed text.toList)
  if digits.isEmpty || !digits.all Char.isDigit then .error ("Illegal number: " ++ text)
  else .ok (if negative then -(numberIn 10 digits : Int) else numberIn 10 digits)

def unary (files : Files) (operator operand : String) : Bool :=
  let holds (test : FileTree → Bool) : Bool := (files.find? operand).any test
  match operator with
  | "-z" => operand.isEmpty
  | "-n" => !operand.isEmpty
  | "-f" => holds fun tree => match tree with
      | .file _ _ => true
      | _ => false
  | "-d" => holds FileTree.isFolder
  | "-s" => holds fun tree => match tree with
      | .file content _ => content ≠ ""
      | tree => tree.isFolder
  | "-x" => holds fun tree => match tree with
      | .file _ executable => executable
      | tree => tree.isFolder
  | "-t" => false
  | _ =>
      if operator = "-L" || operator = "-h" then
        match files.entry? operand with
        | some (.link _) => true
        | _ => false
      else holds fun _ => true

def binary (operator first second : String) : Except String Bool := do
  match operator with
  | "=" => return first == second
  | "!=" => return first != second
  | "<" => return first < second
  | ">" => return second < first
  | _ =>
      let first ← integer first
      let second ← integer second
      match operator with
      | "-eq" => return first == second
      | "-ne" => return first != second
      | "-lt" => return first < second
      | "-le" => return first ≤ second
      | "-gt" => return first > second
      | _ => return first ≥ second

/-- A condition that is not joined to others. A word in front of an operator is an operand, whatever
it looks like. -/
def primary (files : Files) (joined : Judging Bool) : (limit : Nat) → Judging Bool
  | 0 => return false
  | limit + 1 => do
      match ← get with
      | [] => throw "argument expected"
      | first :: rest =>
          match rest with
          | operator :: second :: later =>
              if binaryOperators.contains operator then
                set later
                return ← binary operator first second
          | _ => pure ()
          set rest
          if first = "!" && !rest.isEmpty then return !(← primary files joined limit)
          if first = "(" && !rest.isEmpty then
            let holds ← joined
            match ← get with
            | ")" :: later => set later
            | _ => throw "closing paren expected"
            return holds
          match rest with
          | operand :: later =>
              if unaryOperators.contains first then
                set later
                return unary files first operand
          | [] => pure ()
          return !first.isEmpty

def joinedBy (operator : String) (join : Bool → Bool → Bool) (operand : Judging Bool) :
    (limit : Nat) → Bool → Judging Bool
  | 0, first => return first
  | limit + 1, first => do
      match ← get with
      | word :: rest =>
          if word ≠ operator then return first
          set rest
          joinedBy operator join operand limit (join first (← operand))
      | [] => return first

def either (files : Files) : (depth : Nat) → Judging Bool
  | 0 => return false
  | depth + 1 => do
      let limit := (← get).length + 1
      let operand := primary files (either files depth) limit
      let both : Judging Bool := do joinedBy "-a" and operand limit (← operand)
      joinedBy "-o" or both limit (← both)

def holds (files : Files) (words : List String) : Except String Bool := do
  if words.isEmpty then return false
  let (holds, rest) ← (either files (words.length + 1)).run words
  match rest with
  | [] => return holds
  | word :: _ => throw (word ++ ": unexpected operator")

end StatementLine.Host.Condition
