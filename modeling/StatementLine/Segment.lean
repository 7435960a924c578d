import StatementLine.CodePoint.Blank
import StatementLine.Quote
import StatementLine.Reference

/-! Segments, the pieces of a token: quoted spans, references and literal text. A segment ends
where the next one, white space or the line's end begins. -/

namespace StatementLine

inductive Segment where
  | literal (text : String)
  | quoted (span : QuotedSpan)
  | reference (written : Reference)
deriving Repr, DecidableEq

inductive SegmentReading where
  | boundary
  | segment (segment : Segment) (rest : List Char)
  | failed (error : QuoteError) (unread : List Char)
deriving Repr, DecidableEq

namespace Segment

def lookup? : Segment → Option Lookup
  | literal _ => none
  | quoted span =>
      match span.kind with
      | .backtick => some (.command span.raw)
      | .single => none
      | .double => none
  | reference written => some written.lookup

def literalText : Segment → String
  | literal text => text
  | quoted span =>
      match span.kind with
      | .backtick => span.source
      | .single => span.text
      | .double => span.text
  | reference written => written.source

def source : Segment → String
  | literal text => text
  | quoted span => span.source
  | reference written => written.source

def isPlain (c : Char) : Bool :=
  !isBlank c && c != ':' && (QuoteKind.ofChar? c).isNone

/-- Reads one segment. A colon that starts no reference is literal text. -/
def read : List Char → SegmentReading
  | [] => .boundary
  | first :: rest =>
      if isBlank first then .boundary
      else
        match QuoteKind.ofChar? first with
        | some kind =>
            match kind.readSpan rest with
            | .closed raw text later =>
                .segment (.quoted ⟨kind, String.ofList raw, String.ofList text⟩) later
            | .failed error unread => .failed error unread
        | none =>
            match Reference.read? (first :: rest) with
            | some (written, later) => .segment (.reference written) later
            | none =>
                .segment (.literal (String.ofList (first :: rest.takeWhile isPlain)))
                  (rest.dropWhile isPlain)

theorem read_ne_boundary (first : Char) (rest : List Char) (text : isBlank first = false) :
    read (first :: rest) ≠ .boundary := by
  simp only [read, text]
  split
  · contradiction
  split
  · split <;> simp
  · split <;> simp

theorem read_segment (input rest : List Char) (segment : Segment)
    (found : read input = .segment segment rest) : input = segment.source.toList ++ rest := by
  cases input with
  | nil => cases found
  | cons first input =>
      simp only [read] at found
      split at found
      · cases found
      split at found
      · rename_i kind delimiter
        split at found
        · rename_i raw text later closed
          cases found
          have opening := (QuoteKind.ofChar?_eq_some_iff first kind).mp delimiter
          rw [kind.readSpan_closed input raw text rest closed, opening]
          simp [source, QuotedSpan.source]
        · cases found
      · split at found
        · rename_i written later referred
          cases found
          exact Reference.read?_eq_some (first :: input) rest written referred
        · cases found
          simp [source, List.takeWhile_append_dropWhile]

theorem source_ne_nil (input rest : List Char) (segment : Segment)
    (found : read input = .segment segment rest) : segment.source.toList ≠ [] := by
  cases input with
  | nil => cases found
  | cons first input =>
      simp only [read] at found
      split at found
      · cases found
      split at found
      · split at found <;> cases found
        simp [source, QuotedSpan.source]
      · split at found <;> cases found
        · rename_i written _
          cases form : written.form <;> simp [source, Reference.source, ReferenceForm.opening, form]
        · simp [source]

theorem read_shortens (input rest : List Char) (segment : Segment)
    (found : read input = .segment segment rest) : rest.length < input.length := by
  have cut := congrArg List.length (read_segment input rest segment found)
  have present := List.length_pos_iff.mpr (source_ne_nil input rest segment found)
  simp only [List.length_append] at cut
  omega

end Segment

end StatementLine
