/-! Regular expressions. What is left to be read of an expression behind a character is an expression
again. The patterns of scripts and the expressions of lines are read as these. -/

namespace StatementLine.Host

structure FieldChar where
  character : Char
  quoted : Bool
deriving Repr, DecidableEq

abbrev Field := List FieldChar

def Field.text (field : Field) : String := String.ofList (field.map (·.character))

def Field.ofChars (quoted : Bool) (characters : List Char) : Field := characters.map (⟨·, quoted⟩)

structure CharSet where
  negated : Bool
  ranges : List (Char × Char)
deriving Repr, DecidableEq

namespace CharSet

def holds (set : CharSet) (c : Char) : Bool :=
  (set.ranges.any fun (first, last) => first ≤ c && c ≤ last) != set.negated

def any : CharSet := ⟨true, []⟩

def only (c : Char) : CharSet := ⟨false, [(c, c)]⟩

def namedRanges? : String → Option (List (Char × Char))
  | "alpha" => some [('A', 'Z'), ('a', 'z')]
  | "digit" => some [('0', '9')]
  | "alnum" => some [('0', '9'), ('A', 'Z'), ('a', 'z')]
  | "upper" => some [('A', 'Z')]
  | "lower" => some [('a', 'z')]
  | "space" => some [('\t', '\r'), (' ', ' ')]
  | "blank" => some [('\t', '\t'), (' ', ' ')]
  | "punct" => some [('!', '/'), (':', '@'), ('[', '`'), ('\x7b', '~')]
  | "print" => some [(' ', '~')]
  | "graph" => some [('!', '~')]
  | "cntrl" => some [('\x00', '\x1f'), ('\x7f', '\x7f')]
  | "xdigit" => some [('0', '9'), ('A', 'F'), ('a', 'f')]
  | _ => none

def readRanges (isFirst : Bool) : (limit : Nat) → Field → Option (List (Char × Char) × Field)
  | 0, _ => none
  | _, [] => none
  | limit + 1, c :: rest =>
      let goOn (ranges : List (Char × Char)) (rest : Field) : Option (List (Char × Char) × Field) :=
        (readRanges false limit rest).map fun (later, rest) => (ranges ++ later, rest)
      let name := (rest.drop 1).takeWhile (·.character ≠ ':')
      match c, rest with
      | ⟨']', false⟩, rest => if isFirst then goOn [(']', ']')] rest else some ([], rest)
      | ⟨'[', false⟩, ⟨':', false⟩ :: later =>
          match namedRanges? (Field.text name), later.drop name.length with
          | some ranges, ⟨':', _⟩ :: ⟨']', _⟩ :: rest => goOn ranges rest
          | _, _ => goOn [('[', '[')] rest
      | first, ⟨'-', false⟩ :: last :: later =>
          if last = ⟨']', false⟩ then goOn [(first.character, first.character)] rest
          else goOn [(first.character, last.character)] later
      | only, rest => goOn [(only.character, only.character)] rest

def read? (marks : List Char) (input : Field) : Option (CharSet × Field) :=
  let negated := input.head?.any fun c => !c.quoted && marks.contains c.character
  let members := if negated then input.drop 1 else input
  (readRanges true (members.length + 1) members).map fun (ranges, rest) => (⟨negated, ranges⟩, rest)

end CharSet

inductive Regex where
  | nothing
  | empty
  | one (set : CharSet)
  | sequence (first second : Regex)
  | either (first second : Regex)
  | many (body : Regex)
deriving Repr, DecidableEq, Inhabited

namespace Regex

def nullable : Regex → Bool
  | nothing => false
  | empty => true
  | one _ => false
  | sequence first second => first.nullable && second.nullable
  | either first second => first.nullable || second.nullable
  | many _ => true

def followedBy : Regex → Regex → Regex
  | nothing, _ => nothing
  | empty, second => second
  | first, second => sequence first second

def alternatives : Regex → List Regex
  | nothing => []
  | either first second => first.alternatives ++ second.alternatives
  | regex => [regex]

/-- One of two expressions, of which each alternative is kept once. -/
def orElse (first second : Regex) : Regex :=
  let new := second.alternatives.filter fun regex => !first.alternatives.contains regex
  match first, new with
  | nothing, _ => second
  | first, new => new.foldl either first

/-- What is left to be read behind a character. -/
def behind (c : Char) : Regex → Regex
  | nothing => nothing
  | empty => nothing
  | one set => if set.holds c then empty else nothing
  | sequence first second =>
      let inFirst := (first.behind c).followedBy second
      if first.nullable then inFirst.orElse (second.behind c) else inFirst
  | either first second => (first.behind c).orElse (second.behind c)
  | many body => (body.behind c).followedBy (many body)

def accepts (regex : Regex) (text : List Char) : Bool :=
  (text.foldl (fun regex c => regex.behind c) regex).nullable

def lengthsFrom (length : Nat) (found : List Nat) (regex : Regex) : List Char → List Nat
  | [] => if regex.nullable then length :: found else found
  | c :: rest =>
      let found := if regex.nullable then length :: found else found
      match regex.behind c with
      | nothing => found
      | later => lengthsFrom (length + 1) found later rest

def lengths (regex : Regex) (text : List Char) : List Nat := lengthsFrom 0 [] regex text

def reversed : Regex → Regex
  | sequence first second => sequence second.reversed first.reversed
  | either first second => either first.reversed second.reversed
  | many body => many body.reversed
  | regex => regex

def dropStart (regex : Regex) (longest : Bool) (text : List Char) : List Char :=
  let lengths := regex.lengths text
  text.drop ((if longest then lengths.head? else lengths.getLast?).getD 0)

def dropEnd (regex : Regex) (longest : Bool) (text : List Char) : List Char :=
  (regex.reversed.dropStart longest text.reverse).reverse

/-- Reads the pattern of a script: a star stands for any text, a question mark for any character. -/
def ofPattern (marks : List Char) : (limit : Nat) → Field → Regex
  | 0, _ => empty
  | _, [] => empty
  | limit + 1, c :: rest =>
      let set? := if c = ⟨'[', false⟩ then CharSet.read? marks rest else none
      match c, rest, set? with
      | ⟨'*', false⟩, rest, _ => sequence (many (one .any)) (ofPattern marks limit rest)
      | ⟨'?', false⟩, rest, _ => sequence (one .any) (ofPattern marks limit rest)
      | ⟨'\\', false⟩, next :: rest, _ =>
          sequence (one (.only next.character)) (ofPattern marks limit rest)
      | _, _, some (set, rest) => sequence (one set) (ofPattern marks limit rest)
      | c, rest, none => sequence (one (.only c.character)) (ofPattern marks limit rest)

def ofField (field : Field) (marks : List Char := ['!']) : Regex := ofPattern marks field.length field

end Regex

structure LineRegex where
  atStart : Bool
  atEnd : Bool
  body : Regex

namespace LineRegex

def readBody (inGroup : Bool) : (limit : Nat) → List Char → Regex × List Char
  | 0, rest => (.empty, rest)
  | _, [] => (.empty, [])
  | limit + 1, c :: rest =>
      let goOn (item : Regex) (rest : List Char) : Regex × List Char :=
        let (item, rest) := match rest with
          | '*' :: rest => (Regex.many item, rest)
          | rest => (item, rest)
        let (later, rest) := readBody inGroup limit rest
        (item.followedBy later, rest)
      match c, rest with
      | '.', rest => goOn (.one .any) rest
      | '[', rest =>
          match CharSet.read? ['^'] (Field.ofChars false rest) with
          | some (set, rest) => goOn (.one set) (rest.map (·.character))
          | none => goOn (.one (.only '[')) rest
      | '\\', '(' :: rest =>
          let (inner, rest) := readBody true limit rest
          goOn inner rest
      | '\\', ')' :: rest => if inGroup then (.empty, rest) else goOn (.one (.only ')')) rest
      | '\\', next :: rest => goOn (.one (.only next)) rest
      | c, rest => goOn (.one (.only c)) rest

def ofText (text : String) : LineRegex :=
  let characters := text.toList
  let atStart := characters.head? == some '^'
  let characters := if atStart then characters.drop 1 else characters
  let isEnd := characters.getLast? == some '$' && (characters.dropLast.getLast? != some '\\')
  let characters := if isEnd then characters.dropLast else characters
  ⟨atStart, isEnd, (readBody false (characters.length + 1) characters).1⟩

def matchAt? (regex : LineRegex) (text : List Char) : Option Nat :=
  let lengths := regex.body.lengths text
  if regex.atEnd then lengths.find? (· == text.length) else lengths.head?

def searchFrom (regex : LineRegex) (start : Nat) (text : List Char) : Option (Nat × Nat) :=
  match regex.matchAt? text with
  | some length => some (start, length)
  | none =>
      match text with
      | [] => none
      | _ :: rest => if regex.atStart then none else regex.searchFrom (start + 1) rest

def isFound (regex : LineRegex) (text : String) : Bool := (regex.searchFrom 0 text.toList).isSome

def replace (regex : LineRegex) (everywhere : Bool) (replacement : List Char → List Char) :
    (limit : Nat) → List Char → List Char
  | 0, text => text
  | limit + 1, text =>
      match regex.searchFrom 0 text with
      | none => text
      | some (start, length) =>
          let found := (text.drop start).take length
          let rest := text.drop (start + length)
          let later := if everywhere && !regex.atStart then regex.replace true replacement limit else id
          text.take start ++ replacement found ++
            -- Behind an empty part one character is passed over, so that the search goes on.
            (if length = 0 then rest.take 1 ++ (if rest.isEmpty then [] else later (rest.drop 1))
            else later rest)

end LineRegex

end StatementLine.Host
