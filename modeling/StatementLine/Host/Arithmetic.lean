import StatementLine.Host.ByteText

/-! Arithmetic of scripts, on integers of 64 bits. Values are read and changed in variables; the
operand of an operator that is not needed is not evaluated. -/

namespace StatementLine.Host

def isNameStart (c : Char) : Bool := c.isAlpha || c == '_'

def isNameChar (c : Char) : Bool := c.isAlphanum || c == '_'

def isName (text : String) : Bool := text.toList.head?.any isNameStart && text.all isNameChar

inductive Arithmetic where
  | number (value : Int)
  | variable (name : String)
  | unary (operator : String) (operand : Arithmetic)
  | binary (operator : String) (first second : Arithmetic)
  | choose (condition first second : Arithmetic)
  | assign (name operator : String) (value : Arithmetic)
deriving Repr, Inhabited

namespace Arithmetic

def wrap (value : Int) : Int := Int.bmod value 0x10000000000000000

/-- The number that a text begins with: hexadecimal behind `0x`, octal behind a zero, decimal
otherwise. What is too large counts as the largest. -/
def readNumber (input : List Char) : Int × List Char :=
  let ofBase (base : Nat) (input : List Char) : Int × List Char :=
    let digits := input.takeWhile (isDigitOf base)
    ((min (numberIn base digits) 0x7fffffffffffffff : Nat), input.drop digits.length)
  match input with
  | '0' :: 'x' :: rest => ofBase 16 rest
  | '0' :: 'X' :: rest => ofBase 16 rest
  | '0' :: _ => ofBase 8 input
  | _ => ofBase 10 input

def valueOf? (text : String) : Option Int :=
  let text := trimmed text.toList
  let (negative, digits) := cutSign text
  if text.isEmpty then some 0
  else
    match digits, readNumber digits with
    | _ :: _, (value, []) => some (if negative then -value else value)
    | _, _ => none

inductive Token where
  | number (value : Int)
  | name (name : String)
  | operator (text : String)

def operators : List String :=
  ["<<=", ">>=", "<<", ">>", "<=", ">=", "==", "!=", "&&", "||", "+=", "-=", "*=", "/=", "%=", "&=",
    "^=", "|=", "<", ">", "=", "+", "-", "*", "/", "%", "&", "^", "|", "!", "~", "?", ":", "(", ")"]

def tokens : (limit : Nat) → List Char → Except String (List Token)
  | 0, _ => .ok []
  | _, [] => .ok []
  | limit + 1, c :: rest => do
      if isSpaceByte c then tokens limit rest
      else if c.isDigit then
        let (value, rest) := readNumber (c :: rest)
        return .number value :: (← tokens limit rest)
      else if isNameStart c then
        let name := c :: rest.takeWhile isNameChar
        return .name (String.ofList name) :: (← tokens limit (rest.dropWhile isNameChar))
      else
        match operators.find? (·.toList.isPrefixOf (c :: rest)) with
        | some operator =>
            return .operator operator :: (← tokens limit ((c :: rest).drop operator.length))
        | none => throw "expecting EOF"

abbrev Parsing := StateT (List Token) (Except String)

def accept (operator : String) : Parsing Bool := do
  match ← get with
  | .operator found :: rest =>
      if found = operator then set rest
      return found = operator
  | _ => return false

def require (operator failure : String) : Parsing Unit := do
  unless ← accept operator do throw failure

def precedence? : String → Option Nat
  | "||" => some 0
  | "&&" => some 1
  | "|" => some 2
  | "^" => some 3
  | "&" => some 4
  | "==" => some 5
  | "!=" => some 5
  | "<" => some 6
  | ">" => some 6
  | "<=" => some 6
  | ">=" => some 6
  | "<<" => some 7
  | ">>" => some 7
  | "+" => some 8
  | "-" => some 8
  | "*" => some 9
  | "/" => some 9
  | "%" => some 9
  | _ => none

def isAssignment (operator : String) : Bool :=
  operator.endsWith "=" && !(["==", "!=", "<=", ">="].contains operator)

def operand (expression : Parsing Arithmetic) : (depth : Nat) → Parsing Arithmetic
  | 0 => throw "expecting primary"
  | depth + 1 => do
      match ← get with
      | .number value :: rest =>
          set rest
          return .number value
      | .name name :: .operator operator :: rest =>
          if isAssignment operator then
            set rest
            return .assign name (operator.dropEnd 1).toString (← expression)
          else
            set (Token.operator operator :: rest)
            return .variable name
      | .name name :: rest =>
          set rest
          return .variable name
      | .operator "(" :: rest =>
          set rest
          let inner ← expression
          require ")" "expecting ')'"
          return inner
      | .operator operator :: rest =>
          unless ["-", "+", "!", "~"].contains operator do throw "expecting primary"
          set rest
          return .unary operator (← operand expression depth)
      | [] => throw "expecting primary"

def joined (operand : Parsing Arithmetic) :
    (limit least : Nat) → Arithmetic → Parsing Arithmetic
  | 0, _, first => return first
  | limit + 1, least, first => do
      match ← get with
      | .operator operator :: rest =>
          match precedence? operator with
          | none => return first
          | some level =>
              if level < least then return first
              set rest
              let second ← joined operand limit (level + 1) (← operand)
              joined operand limit least (.binary operator first second)
      | _ => return first

def expression : (depth : Nat) → Parsing Arithmetic
  | 0 => throw "expecting primary"
  | depth + 1 => do
      let limit := (← get).length + 1
      let operand := operand (expression depth) limit
      let first ← joined operand limit 0 (← operand)
      if ← accept "?" then
        let second ← expression depth
        require ":" "expecting ':'"
        return .choose first second (← expression depth)
      else return first

def parse (text : String) : Except String Arithmetic := do
  let tokens ← tokens text.length text.toList
  let (expression, rest) ← (expression (tokens.length + 1)).run tokens
  if rest.isEmpty then return expression else throw "expecting EOF"

def apply (operator : String) (first second : Int) : Except String Int :=
  let truth (holds : Bool) : Except String Int := .ok (if holds then 1 else 0)
  let bits (operation : Nat → Nat → Nat) : Except String Int :=
    let word (value : Int) : Nat := (value % 0x10000000000000000).toNat
    .ok (wrap (operation (word first) (word second) : Nat))
  let quotient (operation : Int → Int → Int) : Except String Int :=
    if second = 0 then .error "division by zero" else .ok (wrap (operation first second))
  let distance := (second % 64).toNat
  match operator with
  | "*" => .ok (wrap (first * second))
  | "/" => quotient Int.tdiv
  | "%" => quotient Int.tmod
  | "+" => .ok (wrap (first + second))
  | "-" => .ok (wrap (first - second))
  | "<<" => .ok (wrap (first * Int.pow 2 distance))
  | ">>" => .ok (first.fdiv (Int.pow 2 distance))
  | "<" => truth (first < second)
  | "<=" => truth (first ≤ second)
  | ">" => truth (first > second)
  | ">=" => truth (first ≥ second)
  | "==" => truth (first == second)
  | "!=" => truth (first != second)
  | "&" => bits (· &&& ·)
  | "^" => bits (· ^^^ ·)
  | "|" => bits (· ||| ·)
  | _ => .ok second

/-- The value of an expression, given how variables are read and changed. -/
def evaluate {σ : Type} (read : String → σ → Except String Int)
    (write : String → Int → σ → Except String σ) : Arithmetic → StateT σ (Except String) Int
  | .number value => return value
  | .variable name => do read name (← get)
  | .unary operator operand => do
      let value ← evaluate read write operand
      match operator with
      | "-" => return wrap (-value)
      | "~" => return -value - 1
      | "!" => return if value = 0 then 1 else 0
      | _ => return value
  | .binary "||" first second => do
      if (← evaluate read write first) ≠ 0 then return 1
      return if (← evaluate read write second) = 0 then 0 else 1
  | .binary "&&" first second => do
      if (← evaluate read write first) = 0 then return 0
      return if (← evaluate read write second) = 0 then 0 else 1
  | .binary operator first second => do
      let first ← evaluate read write first
      apply operator first (← evaluate read write second)
  | .choose condition first second => do
      if (← evaluate read write condition) ≠ 0 then evaluate read write first
      else evaluate read write second
  | .assign name operator value => do
      let value ← evaluate read write value
      let value ← if operator = "" then pure value else do apply operator (← read name (← get)) value
      set (← write name value (← get))
      return value

end Arithmetic

end StatementLine.Host
