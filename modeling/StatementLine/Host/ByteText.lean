/-! Texts of bytes. A byte is written as the character of its number, so that texts of bytes have
the operations of all texts. -/

namespace StatementLine.Host

def byteText (bytes : ByteArray) : String :=
  String.ofList (bytes.toList.map fun byte => Char.ofNat byte.toNat)

def textBytes (text : String) : ByteArray :=
  ⟨(text.toList.map fun c => c.toNat.toUInt8).toArray⟩

def encodedText (text : String) : String := byteText text.toUTF8

def isSpaceByte (c : Char) : Bool := c == ' ' || ('\t' ≤ c && c ≤ '\r')

def trimmed (text : List Char) : List Char :=
  ((text.dropWhile isSpaceByte).reverse.dropWhile isSpaceByte).reverse

/-- Whether a number has a minus in front of it, and what follows its sign. -/
def cutSign : List Char → Bool × List Char
  | '-' :: rest => (true, rest)
  | '+' :: rest => (false, rest)
  | text => (false, text)

def digitValue (c : Char) : Nat :=
  if c.isDigit then c.toNat - '0'.toNat
  else if c.isAlpha then c.toLower.toNat - 'a'.toNat + 10
  else 99

def isDigitOf (base : Nat) (c : Char) : Bool := digitValue c < base

def numberIn (base : Nat) (digits : List Char) : Nat :=
  digits.foldl (fun value digit => base * value + digitValue digit) 0

def padded (base width value : Nat) : String :=
  String.ofList ((Nat.toDigits base value).leftpad width '0')

/-- A text behind blanks, up to a width. -/
def aligned (width : Nat) (text : String) : String := String.ofList (text.toList.leftpad width ' ')

def count? (text : String) : Option Nat :=
  if text.isEmpty || !text.all Char.isDigit then none else some (numberIn 10 text.toList)

def cutAt (separator : Char) (text : String) : String × Option String :=
  let name := text.toList.takeWhile (· ≠ separator)
  match text.toList.drop name.length with
  | [] => (text, none)
  | _ :: rest => (String.ofList name, some (String.ofList rest))

end StatementLine.Host
