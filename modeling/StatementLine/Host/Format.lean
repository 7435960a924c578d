import StatementLine.Host.Fraction

/-! What printing commands make of their arguments: backslash escapes and formats. A format is used
again as long as it takes arguments and some are left. -/

namespace StatementLine.Host

structure EscapeRules where
  afterZero : Bool := false
  withoutZero : Bool := false
  hexadecimal : Bool := false
  quotes : Bool := false
  stops : Bool := false

namespace EscapeRules

def letter? (rules : EscapeRules) (c : Char) : Option Char :=
  match c with
  | '\\' => some '\\'
  | 'a' => some '\x07'
  | 'b' => some '\x08'
  | 'e' => some '\x1b'
  | 'f' => some '\x0c'
  | 'n' => some '\n'
  | 'r' => some '\r'
  | 't' => some '\t'
  | 'v' => some '\x0b'
  | c => if rules.quotes && (c = '"' || c = '\'') then some c else none

/-- Reads an escape behind its backslash: what it stands for, or `none` if it ends all printing, and
what follows it. One that is not known stands for itself. -/
def read (rules : EscapeRules) (input : List Char) : Option (List Char) × List Char :=
  let byte (base : Nat) (digits : List Char) : Option (List Char) :=
    some [Char.ofNat (numberIn base digits % 256)]
  let octal (input : List Char) : List Char := (input.take 3).takeWhile (isDigitOf 8)
  match input with
  | [] => (some ['\\'], [])
  | c :: rest =>
      let digits := (rest.take 2).takeWhile (isDigitOf 16)
      if c = 'c' && rules.stops then (none, [])
      else if c = '0' && rules.afterZero then (byte 8 (octal rest), rest.drop (octal rest).length)
      else if isDigitOf 8 c && rules.withoutZero then
        (byte 8 (octal input), input.drop (octal input).length)
      else if c = 'x' && rules.hexadecimal && !digits.isEmpty then
        (byte 16 digits, rest.drop digits.length)
      else
        match rules.letter? c with
        | some meant => (some [meant], rest)
        | none => (some ['\\', c], rest)

def unescapeFrom (rules : EscapeRules) : (limit : Nat) → (done input : List Char) → List Char × Bool
  | 0, done, _ => (done.reverse, false)
  | _, done, [] => (done.reverse, false)
  | limit + 1, done, '\\' :: rest =>
      match rules.read rest with
      | (none, _) => (done.reverse, true)
      | (some text, rest) => rules.unescapeFrom limit (text.reverse ++ done) rest
  | limit + 1, done, c :: rest => rules.unescapeFrom limit (c :: done) rest

def unescape (rules : EscapeRules) (text : String) : String × Bool :=
  let (characters, stopped) := rules.unescapeFrom text.length [] text.toList
  (String.ofList characters, stopped)

end EscapeRules

/-! Echoing -/

def echoed (rules : EscapeRules) (alwaysEscapes : Bool) (words : List String) : String :=
  let isOption (word : String) : Bool :=
    word.startsWith "-" && word.length > 1 && (word.toList.drop 1).all ("neE".contains ·)
  let given := if alwaysEscapes then (words.take 1).takeWhile (· == "-n") else words.takeWhile isOption
  let letters := given.flatMap fun word => word.toList.drop 1
  let escapes := alwaysEscapes || (letters.filter (· ≠ 'n')).getLast? == some 'e'
  let text := String.intercalate " " (words.drop given.length)
  let (text, stopped) := if escapes then rules.unescape text else (text, false)
  if stopped || letters.contains 'n' then text else text ++ "\n"

/-! Formats -/

/-- How a program formats: the escapes in a format and in an argument that may have them, the status
after a conversion that is not known, and how arguments are quoted. -/
structure FormatRules where
  escapes : EscapeRules
  argumentEscapes : EscapeRules
  badConversion : Nat
  quoting : Option (String → String) := none

structure Conversion where
  flags : List Char
  width : Int
  precision : Option Nat

namespace Conversion

def has (conversion : Conversion) (flag : Char) : Bool := conversion.flags.contains flag

def pad (conversion : Conversion) (sign body : List Char) (zeros : Bool) : List Char :=
  let missing := conversion.width.natAbs - (sign.length + body.length)
  if conversion.has '-' || conversion.width < 0 then sign ++ body ++ List.replicate missing ' '
  else if zeros then sign ++ List.replicate missing '0' ++ body
  else List.replicate missing ' ' ++ sign ++ body

def text (conversion : Conversion) (characters : List Char) : List Char :=
  let shown := match conversion.precision with
    | none => characters
    | some longest => characters.take longest
  conversion.pad [] shown false

def sign (conversion : Conversion) (negative : Bool) : List Char :=
  if negative then ['-']
  else if conversion.has '+' then ['+']
  else if conversion.has ' ' then [' ']
  else []

def integer (conversion : Conversion) (letter : Char) (value : Int) : List Char :=
  let signed := letter == 'd' || letter == 'i'
  let size := if signed then value.natAbs else (value % 0x10000000000000000).toNat
  let base := if letter == 'o' then 8 else if letter == 'x' || letter == 'X' then 16 else 10
  let digits := if size = 0 && conversion.precision = some 0 then []
    else (padded base (conversion.precision.getD 1) size).toList
  let digits := if letter == 'X' then digits.map Char.toUpper else digits
  let alternate := conversion.has '#'
  let digits := if base = 8 && alternate && digits.head? != some '0' then '0' :: digits else digits
  let start := if alternate && base = 16 && size ≠ 0 then ['0', letter] else []
  conversion.pad (if signed then conversion.sign (value < 0) else start) digits
    (conversion.has '0' && conversion.precision.isNone)

def float (conversion : Conversion) (letter : Char) (negative : Bool) (fraction : Fraction) :
    List Char :=
  let fraction := fraction.rounded
  let places := conversion.precision.getD 6
  let alternate := conversion.has '#'
  let (start, body) := match letter.toLower with
    | 'a' => (['0', 'x'], fraction.hexadecimal conversion.precision alternate)
    | 'f' => ([], fraction.fixed places alternate)
    | 'e' => ([], fraction.scientific places alternate)
    | _ => ([], fraction.general places alternate)
  let cased (text : List Char) : List Char := if letter.isUpper then text.map Char.toUpper else text
  conversion.pad (conversion.sign negative ++ cased start) (cased body) (conversion.has '0')

end Conversion

structure Printing where
  output : List (List Char) := []
  arguments : List String
  faults : List String := []
  stopped : Bool := false
  failed : Bool := false

namespace Printing

def emit (printing : Printing) (text : List Char) : Printing :=
  { printing with output := text :: printing.output }

def next (printing : Printing) : String × Printing :=
  (printing.arguments.headD "", { printing with arguments := printing.arguments.drop 1 })

def faulty (printing : Printing) (text : String) (reason : String) : Printing :=
  { printing with faults := (text ++ ": " ++ reason) :: printing.faults }

def readInteger (text : List Char) : Option (Int × List Char) :=
  let (negative, unsigned) := cutSign (text.dropWhile isSpaceByte)
  let ofBase (base : Nat) (input : List Char) : Option (Int × List Char) :=
    match input.takeWhile (isDigitOf base) with
    | [] => none
    | digits =>
        let value : Int := numberIn base digits
        some (if negative then -value else value, input.drop digits.length)
  match unsigned with
  | '0' :: 'x' :: rest => (ofBase 16 rest).or (some (0, 'x' :: rest))
  | '0' :: 'X' :: rest => (ofBase 16 rest).or (some (0, 'X' :: rest))
  | '0' :: _ => ofBase 8 unsigned
  | _ => ofBase 10 unsigned

def numberOf {α : Type} (zero : α) (ofCode : Nat → α) (read? : List Char → Option (α × List Char))
    (printing : Printing) : α × Printing :=
  let (text, printing) := printing.next
  match text.toList with
  | [] => (zero, printing)
  | c :: rest =>
      if c = '\'' || c = '"' then (ofCode ((rest.map Char.toNat).headD 0), printing)
      else
        match read? (c :: rest) with
        | none => (zero, printing.faulty text "expected numeric value")
        | some (value, []) => (value, printing)
        | some (value, _) => (value, printing.faulty text "not completely converted")

def integer (printing : Printing) : Int × Printing :=
  let (value, printing) := printing.numberOf 0 Int.ofNat readInteger
  (max (-0x8000000000000000) (min value 0xffffffffffffffff), printing)

def convert? (rules : FormatRules) (conversion : Conversion) (letter : Char) (printing : Printing) :
    Option Printing :=
  let (text, later) := printing.next
  match letter with
  | 's' => some (later.emit (conversion.text text.toList))
  | 'c' => some (later.emit (conversion.text (text.toList.take 1)))
  | 'b' =>
      let (plain, stopped) := rules.argumentEscapes.unescape text
      some { later.emit (conversion.text plain.toList) with stopped }
  | 'q' => rules.quoting.map fun quote => later.emit (conversion.text (quote text).toList)
  | _ =>
      if "diuoxX".contains letter then
        let (value, later) := printing.integer
        some (later.emit (conversion.integer letter value))
      else if "fFeEgGaA".contains letter then
        let read? (input : List Char) : Option ((Bool × Fraction) × List Char) :=
          (Fraction.read? input).map fun (negative, fraction, rest) => ((negative, fraction), rest)
        let ((negative, fraction), later) :=
          printing.numberOf (false, ⟨0, 1⟩) (fun code => (false, ⟨code, 1⟩)) read?
        some (later.emit (conversion.float letter negative fraction))
      else none

def readCount (input : List Char) (printing : Printing) : Int × List Char × Printing :=
  match input with
  | '*' :: rest =>
      let (value, printing) := printing.integer
      (value, rest, printing)
  | _ =>
      let digits := input.takeWhile Char.isDigit
      (numberIn 10 digits, input.drop digits.length, printing)

def readConversion (input : List Char) (printing : Printing) : Conversion × List Char × Printing :=
  let flags := input.takeWhile ("-0+ #".contains ·)
  let (width, rest, printing) := readCount (input.drop flags.length) printing
  match rest with
  | '.' :: later =>
      let (precision, rest, printing) := readCount later printing
      (⟨flags, width, if precision < 0 then none else some precision.toNat⟩, rest, printing)
  | _ => (⟨flags, width, none⟩, rest, printing)

def printOnce (rules : FormatRules) : (limit : Nat) → List Char → Printing → Printing
  | 0, _, printing => printing
  | _, [], printing => printing
  | limit + 1, '\\' :: rest, printing =>
      match rules.escapes.read rest with
      | (none, _) => { printing with stopped := true }
      | (some text, rest) => printOnce rules limit rest (printing.emit text)
  | limit + 1, '%' :: '%' :: rest, printing => printOnce rules limit rest (printing.emit ['%'])
  | limit + 1, '%' :: rest, printing =>
      let (conversion, later, read) := readConversion rest printing
      match later.head?.bind fun letter => convert? rules conversion letter read with
      | some printing =>
          if printing.stopped then printing else printOnce rules limit (later.drop 1) printing
      | none =>
          let written := String.ofList ('%' :: rest.take (rest.length - later.length + 1))
          { printing.faulty written "invalid directive" with failed := true, stopped := true }
  | limit + 1, c :: rest, printing => printOnce rules limit rest (printing.emit [c])

def printAll (rules : FormatRules) (format : List Char) : (limit : Nat) → Printing → Printing
  | 0, printing => printing
  | limit + 1, printing =>
      let after := printOnce rules format.length format printing
      let isOver := after.stopped || after.arguments.isEmpty
      if isOver || after.arguments.length = printing.arguments.length then after
      else printAll rules format limit after

end Printing

def formatted (rules : FormatRules) (format : String) (arguments : List String) :
    String × Nat × List String :=
  let printing := Printing.printAll rules format.toList (arguments.length + 1) { arguments }
  let status := if printing.failed then rules.badConversion else if printing.faults.isEmpty then 0 else 1
  (String.ofList printing.output.reverse.flatten, status, printing.faults.reverse)

end StatementLine.Host
