import StatementLine.Quote

/-! Writing values between quotes, every quote inside doubled. -/

namespace StatementLine

def doubleDelimiter (delimiter : Char) (text : List Char) : List Char :=
  text.flatMap fun c => if c = delimiter then [c, c] else [c]

def writeQuoted (delimiter : Char) (value : String) : String :=
  String.ofList (delimiter :: doubleDelimiter delimiter value.toList ++ [delimiter])

def quoteLiteral (value : String) : String :=
  writeQuoted QuoteKind.single.delimiter value

def quoteIdentifier (value : String) : String :=
  writeQuoted QuoteKind.double.delimiter value

@[simp] theorem doubleDelimiter_nil (delimiter : Char) : doubleDelimiter delimiter [] = [] := rfl

@[simp] theorem doubleDelimiter_cons (delimiter c : Char) (rest : List Char) :
    doubleDelimiter delimiter (c :: rest) =
      (if c = delimiter then [c, c] else [c]) ++ doubleDelimiter delimiter rest := by
  simp [doubleDelimiter]

theorem toList_writeQuoted (delimiter : Char) (value : String) :
    (writeQuoted delimiter value).toList =
      delimiter :: doubleDelimiter delimiter value.toList ++ [delimiter] := by
  simp [writeQuoted]

end StatementLine
