import StatementLine.CodePoint.DecimalDigit
import StatementLine.CodePoint.Letter

/-! Names of variables: a letter or underscore, then letters, underscores and decimal digits,
of any script. -/

namespace StatementLine.Identifier

def isStart (c : Char) : Bool :=
  isLetter c || c == '_'

def isContinue (c : Char) : Bool :=
  isStart c || isDecimalDigit c

def accepts : List Char → Bool
  | [] => false
  | first :: rest => isStart first && rest.all isContinue

/-- Cuts the longest identifier off the front. The first part is empty if there is none. -/
def span : List Char → List Char × List Char
  | [] => ([], [])
  | first :: rest =>
      if isStart first then (first :: rest.takeWhile isContinue, rest.dropWhile isContinue)
      else ([], first :: rest)

theorem span_append (input : List Char) : (span input).1 ++ (span input).2 = input := by
  cases input with
  | nil => rfl
  | cons first rest =>
      simp only [span]
      split <;> simp [List.takeWhile_append_dropWhile]

theorem span_accepts (input : List Char) (found : (span input).1 ≠ []) :
    accepts (span input).1 = true := by
  cases input with
  | nil => simp [span] at found
  | cons first rest =>
      simp only [span] at found ⊢
      split
      · rename_i start
        simp [accepts, start, List.all_takeWhile]
      · rename_i noStart
        simp [noStart] at found

theorem span_longest (input : List Char) (found : (span input).1 ≠ []) (next : Char)
    (first : (span input).2.head? = some next) : isContinue next = false := by
  cases input with
  | nil => simp [span] at found
  | cons start rest =>
      simp only [span] at found first
      split at first
      · have := List.head?_dropWhile_not isContinue rest
        simpa [first] using this
      · rename_i noStart
        simp [noStart] at found

end StatementLine.Identifier

namespace StatementLine

def isIdentifier (text : String) : Bool :=
  Identifier.accepts text.toList

end StatementLine
