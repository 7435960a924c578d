/-! Quoted spans. Inside single quotes `''` and `\'` both stand for one quote; inside double
quotes `""` stands for one quote and a backslash is refused; a backtick span has no escapes.
Reading starts behind the opening delimiter and ends behind the closing one. -/

namespace StatementLine

inductive QuoteKind where
  | single
  | double
  | backtick
deriving Repr, DecidableEq

def QuoteKind.delimiter : QuoteKind → Char
  | .single => '\''
  | .double => '"'
  | .backtick => '`'

def QuoteKind.ofChar? : Char → Option QuoteKind
  | '\'' => some .single
  | '"' => some .double
  | '`' => some .backtick
  | _ => none

theorem QuoteKind.ofChar?_eq_some_iff (c : Char) (kind : QuoteKind) :
    QuoteKind.ofChar? c = some kind ↔ c = kind.delimiter := by
  constructor
  · intro found
    unfold QuoteKind.ofChar? at found
    split at found <;> cases found <;> rfl
  · rintro rfl
    cases kind <;> rfl

inductive QuoteError where
  | unterminated
  | invalid
deriving Repr, DecidableEq

def QuoteError.message : QuoteError → String
  | .unterminated => "unterminated quoted string"
  | .invalid => "invalid quoted string"

/-- A quoted span: `raw` is what stands between the delimiters, `text` what it stands for. -/
structure QuotedSpan where
  kind : QuoteKind
  raw : String
  text : String
deriving Repr, DecidableEq

def QuotedSpan.source (span : QuotedSpan) : String :=
  String.singleton span.kind.delimiter ++ span.raw ++ String.singleton span.kind.delimiter

/-- What reading a span comes to: its two contents and what follows the closing delimiter, or
an error and what was not read. -/
inductive SpanReading where
  | closed (raw text rest : List Char)
  | failed (error : QuoteError) (unread : List Char)
deriving Repr, DecidableEq

namespace SpanReading

def cons (piece : List Char) (value : Char) : SpanReading → SpanReading
  | closed raw text rest => closed (piece ++ raw) (value :: text) rest
  | failed error unread => failed error unread

theorem cons_eq_closed {piece raw text rest : List Char} {value : Char} {reading : SpanReading}
    (closed : reading.cons piece value = .closed raw text rest) :
    ∃ laterRaw laterText, reading = .closed laterRaw laterText rest ∧
      piece ++ laterRaw = raw ∧ value :: laterText = text := by
  cases reading with
  | closed laterRaw laterText laterRest =>
      simp only [cons, SpanReading.closed.injEq] at closed
      obtain ⟨sameRaw, sameText, rfl⟩ := closed
      exact ⟨laterRaw, laterText, rfl, sameRaw, sameText⟩
  | failed => cases closed

end SpanReading

def readSingleQuoted : List Char → SpanReading
  | '\'' :: '\'' :: rest => (readSingleQuoted rest).cons ['\'', '\''] '\''
  | '\'' :: rest => .closed [] [] rest
  | '\\' :: '\'' :: rest => (readSingleQuoted rest).cons ['\\', '\''] '\''
  | c :: rest => (readSingleQuoted rest).cons [c] c
  | [] => .failed .unterminated []

def readDoubleQuoted : List Char → SpanReading
  | '"' :: '"' :: rest => (readDoubleQuoted rest).cons ['"', '"'] '"'
  | '"' :: rest => .closed [] [] rest
  | '\\' :: rest => .failed .invalid rest
  | c :: rest => (readDoubleQuoted rest).cons [c] c
  | [] => .failed .unterminated []

def readBacktickQuoted : List Char → SpanReading
  | '`' :: rest => .closed [] [] rest
  | c :: rest => (readBacktickQuoted rest).cons [c] c
  | [] => .failed .unterminated []

def QuoteKind.readSpan : QuoteKind → List Char → SpanReading
  | .single => readSingleQuoted
  | .double => readDoubleQuoted
  | .backtick => readBacktickQuoted

theorem readSingleQuoted_closed (input raw text rest : List Char)
    (closed : readSingleQuoted input = .closed raw text rest) : input = raw ++ '\'' :: rest := by
  fun_induction readSingleQuoted input generalizing raw text with
  | case1 _ ih =>
      obtain ⟨laterRaw, laterText, later, rfl, rfl⟩ := SpanReading.cons_eq_closed closed
      simp [ih _ _ later]
  | case2 => cases closed; rfl
  | case3 _ ih =>
      obtain ⟨laterRaw, laterText, later, rfl, rfl⟩ := SpanReading.cons_eq_closed closed
      simp [ih _ _ later]
  | case4 _ _ _ _ _ ih =>
      obtain ⟨laterRaw, laterText, later, rfl, rfl⟩ := SpanReading.cons_eq_closed closed
      simp [ih _ _ later]
  | case5 => cases closed

theorem readDoubleQuoted_closed (input raw text rest : List Char)
    (closed : readDoubleQuoted input = .closed raw text rest) : input = raw ++ '"' :: rest := by
  fun_induction readDoubleQuoted input generalizing raw text with
  | case1 _ ih =>
      obtain ⟨laterRaw, laterText, later, rfl, rfl⟩ := SpanReading.cons_eq_closed closed
      simp [ih _ _ later]
  | case2 => cases closed; rfl
  | case3 => cases closed
  | case4 _ _ _ _ _ ih =>
      obtain ⟨laterRaw, laterText, later, rfl, rfl⟩ := SpanReading.cons_eq_closed closed
      simp [ih _ _ later]
  | case5 => cases closed

theorem readBacktickQuoted_closed (input raw text rest : List Char)
    (closed : readBacktickQuoted input = .closed raw text rest) : input = raw ++ '`' :: rest := by
  fun_induction readBacktickQuoted input generalizing raw text with
  | case1 => cases closed; rfl
  | case2 _ _ _ ih =>
      obtain ⟨laterRaw, laterText, later, rfl, rfl⟩ := SpanReading.cons_eq_closed closed
      simp [ih _ _ later]
  | case3 => cases closed

theorem QuoteKind.readSpan_closed (kind : QuoteKind) (input raw text rest : List Char)
    (closed : kind.readSpan input = .closed raw text rest) :
    input = raw ++ kind.delimiter :: rest := by
  cases kind with
  | single => exact readSingleQuoted_closed input raw text rest closed
  | double => exact readDoubleQuoted_closed input raw text rest closed
  | backtick => exact readBacktickQuoted_closed input raw text rest closed

end StatementLine
