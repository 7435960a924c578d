import StatementLine.Identifier
import StatementLine.Lookup

/-! References to variables: `:name`, `:'name'`, `:"name"` and `:{?name}`. Reading takes a whole
reference off the front of the input, or nothing. -/

namespace StatementLine

inductive ReferenceForm where
  | value (style : NameStyle)
  | existence
deriving Repr, DecidableEq

namespace ReferenceForm

def opening : ReferenceForm → List Char
  | value style => ':' :: style.quote?.toList
  | existence => [':', '{', existenceMarker]

def closing? : ReferenceForm → Option Char
  | value style => style.quote?
  | existence => some '}'

/-- The form that the input opens, with what follows the opening. A bare colon opens the bare
form where it opens no other. -/
def opened? : List Char → Option (ReferenceForm × List Char)
  | ':' :: '{' :: '?' :: rest => some (existence, rest)
  | ':' :: '\'' :: rest => some (value .singleQuoted, rest)
  | ':' :: '"' :: rest => some (value .doubleQuoted, rest)
  | ':' :: rest => some (value .bare, rest)
  | _ => none

theorem opened?_eq_some (input rest : List Char) (form : ReferenceForm)
    (opened : opened? input = some (form, rest)) : input = form.opening ++ rest := by
  unfold opened? at opened
  split at opened <;> cases opened <;> rfl

def closed? (form : ReferenceForm) (input : List Char) : Option (List Char) :=
  match form.closing?, input with
  | none, rest => some rest
  | some delimiter, c :: rest => if c = delimiter then some rest else none
  | some _, [] => none

theorem closed?_eq_some (form : ReferenceForm) (input rest : List Char)
    (closed : form.closed? input = some rest) : input = form.closing?.toList ++ rest := by
  unfold closed? at closed
  split at closed
  · rename_i bare
    simpa [bare] using closed
  · rename_i delimiter c later delimited
    simpa [delimited] using closed
  · cases closed

end ReferenceForm

structure Reference where
  form : ReferenceForm
  name : String
deriving Repr, DecidableEq

namespace Reference

def source (reference : Reference) : String :=
  String.ofList reference.form.opening ++ reference.name ++
    String.ofList reference.form.closing?.toList

def lookup (reference : Reference) : Lookup :=
  match reference.form with
  | .value style => .value reference.name style
  | .existence => .defined reference.name

def read? (input : List Char) : Option (Reference × List Char) :=
  match ReferenceForm.opened? input with
  | none => none
  | some (form, afterOpening) =>
      match Identifier.span afterOpening with
      | ([], _) => none
      | (name, afterName) =>
          match form.closed? afterName with
          | none => none
          | some rest => some (⟨form, String.ofList name⟩, rest)

theorem read?_eq_some (input rest : List Char) (reference : Reference)
    (found : read? input = some (reference, rest)) : input = reference.source.toList ++ rest := by
  unfold read? at found
  split at found
  · cases found
  rename_i form afterOpening opened
  split at found
  · cases found
  rename_i name afterName _ spanned
  split at found
  · cases found
  rename_i later closed
  simp only [Option.some.injEq, Prod.mk.injEq] at found
  obtain ⟨rfl, rfl⟩ := found
  have whole := Identifier.span_append afterOpening
  rw [spanned, ReferenceForm.closed?_eq_some form afterName later closed] at whole
  rw [ReferenceForm.opened?_eq_some input afterOpening form opened, ← whole]
  simp [source]

end Reference

end StatementLine
