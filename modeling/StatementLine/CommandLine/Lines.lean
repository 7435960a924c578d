/-! Lines of a text. A line feed ends a line, with a carriage return before it or without. What
follows the last line feed is a line only if it is not empty. -/

namespace StatementLine.CommandLine

def linesOf : List Char → List (List Char)
  | [] => []
  | '\n' :: rest => [] :: linesOf rest
  | '\r' :: '\n' :: rest => [] :: linesOf rest
  | c :: rest =>
      match linesOf rest with
      | [] => [[c]]
      | line :: later => (c :: line) :: later

def lines (text : String) : List String :=
  (linesOf text.toList).map String.ofList

end StatementLine.CommandLine
