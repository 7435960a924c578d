import StatementLine.Quote

/-!
The inside of a quoted span by rules that mention no reader: which characters stand for
themselves, which pairs stand for one quote, and how a span ends. `QuoteKind.readSpan_eq_iff`
says that the readers follow these rules and no others.
-/

namespace StatementLine

def QuoteKind.StandsForItself : QuoteKind → Char → List Char → Prop
  | .single, c, following => c ≠ '\'' ∧ (c = '\\' → following.head? ≠ some '\'')
  | .double, c, _ => c ≠ '"' ∧ c ≠ '\\'
  | .backtick, c, _ => c ≠ '`'

/-- What is written in front of `following`, and what it stands for. What follows matters for a
backslash at the end of what is written. -/
inductive SpanContent (kind : QuoteKind) (following : List Char) : List Char → List Char → Prop
  | empty : SpanContent kind following [] []
  | doubled {raw text} : kind ≠ .backtick → SpanContent kind following raw text →
      SpanContent kind following (kind.delimiter :: kind.delimiter :: raw) (kind.delimiter :: text)
  | escaped {raw text} : kind = .single → SpanContent kind following raw text →
      SpanContent kind following ('\\' :: '\'' :: raw) ('\'' :: text)
  | itself {c raw text} : kind.StandsForItself c (raw ++ following) →
      SpanContent kind following raw text → SpanContent kind following (c :: raw) (c :: text)

theorem SpanContent.not_mem {kind : QuoteKind} {following raw text : List Char} {c : Char}
    (content : SpanContent kind following raw text) (notSingle : kind ≠ .single)
    (noPair : kind ≠ .backtick → c ≠ kind.delimiter)
    (never : ∀ following, ¬kind.StandsForItself c following) : c ∉ raw := by
  induction content with
  | empty => exact List.not_mem_nil
  | doubled pairs _ ih => simpa [noPair pairs] using ih
  | escaped isSingle => exact absurd isSingle notSingle
  | itself alone _ ih =>
      intro member
      rcases List.mem_cons.mp member with rfl | later
      · exact never _ alone
      · exact ih later

def QuoteKind.Closes (kind : QuoteKind) (rest : List Char) : Prop :=
  kind ≠ .backtick → rest.head? ≠ some kind.delimiter

theorem QuoteKind.Closes.of_single {kind : QuoteKind} {rest : List Char}
    (alone : ∀ later, rest ≠ kind.delimiter :: later) : kind.Closes rest := by
  intro _ head
  obtain ⟨later, rfl⟩ := List.head?_eq_some_iff.mp head
  exact alone later rfl

inductive SpanEnd (kind : QuoteKind) : List Char → SpanReading → Prop
  | closed {raw text rest} : SpanContent kind (kind.delimiter :: rest) raw text →
      kind.Closes rest → SpanEnd kind (raw ++ kind.delimiter :: rest) (.closed raw text rest)
  | invalid {raw text unread} : kind = .double → SpanContent kind ('\\' :: unread) raw text →
      SpanEnd kind (raw ++ '\\' :: unread) (.failed .invalid unread)
  | unterminated {input text} : SpanContent kind [] input text →
      SpanEnd kind input (.failed .unterminated [])

theorem QuoteKind.StandsForItself.following_head {kind : QuoteKind} {c : Char}
    {following other : List Char} (alone : kind.StandsForItself c following)
    (same : following.head? = other.head?) : kind.StandsForItself c other := by
  cases kind with
  | single => simpa only [QuoteKind.StandsForItself, same] using alone
  | double => exact alone
  | backtick => exact alone

theorem SpanContent.following_head {kind : QuoteKind} {raw text following other : List Char}
    (content : SpanContent kind following raw text) (same : following.head? = other.head?) :
    SpanContent kind other raw text := by
  induction content with
  | empty => exact .empty
  | doubled pairs _ ih => exact .doubled pairs ih
  | escaped isSingle _ ih => exact .escaped isSingle ih
  | itself alone _ ih =>
      refine .itself (alone.following_head ?_) ih
      rw [List.head?_append, List.head?_append, same]

namespace SpanEnd

theorem doubled {kind : QuoteKind} {input : List Char} {reading : SpanReading}
    (pairs : kind ≠ .backtick) (ending : SpanEnd kind input reading) :
    SpanEnd kind (kind.delimiter :: kind.delimiter :: input)
      (reading.cons [kind.delimiter, kind.delimiter] kind.delimiter) := by
  cases ending with
  | closed content closes => exact .closed (.doubled pairs content) closes
  | invalid isDouble content => exact .invalid isDouble (.doubled pairs content)
  | unterminated content => exact .unterminated (.doubled pairs content)

theorem escaped {input : List Char} {reading : SpanReading} (ending : SpanEnd .single input reading) :
    SpanEnd .single ('\\' :: '\'' :: input) (reading.cons ['\\', '\''] '\'') := by
  cases ending with
  | closed content closes => exact .closed (.escaped rfl content) closes
  | invalid isDouble => cases isDouble
  | unterminated content => exact .unterminated (.escaped rfl content)

theorem itself {kind : QuoteKind} {c : Char} {input : List Char} {reading : SpanReading}
    (alone : kind.StandsForItself c input) (ending : SpanEnd kind input reading) :
    SpanEnd kind (c :: input) (reading.cons [c] c) := by
  cases ending with
  | closed content closes => exact .closed (.itself alone content) closes
  | invalid isDouble content => exact .invalid isDouble (.itself alone content)
  | unterminated content => exact .unterminated (.itself (by simpa using alone) content)

theorem closes {kind : QuoteKind} {rest : List Char} (closes : kind.Closes rest) :
    SpanEnd kind (kind.delimiter :: rest) (.closed [] [] rest) :=
  .closed .empty closes

end SpanEnd

theorem readSingleQuoted_end (input : List Char) :
    SpanEnd .single input (readSingleQuoted input) := by
  fun_induction readSingleQuoted input with
  | case1 rest ih => exact ih.doubled (by decide)
  | case2 rest notDoubled => exact .closes (.of_single notDoubled)
  | case3 rest ih => exact ih.escaped
  | case4 c rest _ notQuote notEscape ih =>
      refine ih.itself ⟨notQuote, fun backslash head => ?_⟩
      obtain ⟨later, rfl⟩ := List.head?_eq_some_iff.mp head
      exact notEscape later backslash rfl
  | case5 => exact .unterminated .empty

theorem readDoubleQuoted_end (input : List Char) :
    SpanEnd .double input (readDoubleQuoted input) := by
  fun_induction readDoubleQuoted input with
  | case1 rest ih => exact ih.doubled (by decide)
  | case2 rest notDoubled => exact .closes (.of_single notDoubled)
  | case3 rest =>
      have stop : SpanEnd .double ([] ++ '\\' :: rest) (.failed .invalid rest) := .invalid rfl .empty
      exact stop
  | case4 c rest _ notQuote notBackslash ih => exact ih.itself ⟨notQuote, notBackslash⟩
  | case5 => exact .unterminated .empty

theorem readBacktickQuoted_end (input : List Char) :
    SpanEnd .backtick input (readBacktickQuoted input) := by
  fun_induction readBacktickQuoted input with
  | case1 rest => exact .closes fun never => absurd rfl never
  | case2 c rest notQuote ih => exact ih.itself notQuote
  | case3 => exact .unterminated .empty

theorem QuoteKind.readSpan_end (kind : QuoteKind) (input : List Char) :
    SpanEnd kind input (kind.readSpan input) := by
  cases kind with
  | single => exact readSingleQuoted_end input
  | double => exact readDoubleQuoted_end input
  | backtick => exact readBacktickQuoted_end input

namespace SpanReading

def prepend (raw text : List Char) : SpanReading → SpanReading
  | closed laterRaw laterText rest => closed (raw ++ laterRaw) (text ++ laterText) rest
  | failed error unread => failed error unread

theorem prepend_cons (piece raw text : List Char) (value : Char) (reading : SpanReading) :
    (reading.prepend raw text).cons piece value = reading.prepend (piece ++ raw) (value :: text) := by
  cases reading with
  | closed => simp [prepend, cons]
  | failed => rfl

end SpanReading

namespace QuoteKind

theorem readSpan_doubled {kind : QuoteKind} (pairs : kind ≠ .backtick) (rest : List Char) :
    kind.readSpan (kind.delimiter :: kind.delimiter :: rest) =
      (kind.readSpan rest).cons [kind.delimiter, kind.delimiter] kind.delimiter := by
  cases kind with
  | single => simp [readSpan, delimiter, readSingleQuoted]
  | double => simp [readSpan, delimiter, readDoubleQuoted]
  | backtick => contradiction

theorem readSpan_itself {kind : QuoteKind} {c : Char} {rest : List Char}
    (alone : kind.StandsForItself c rest) :
    kind.readSpan (c :: rest) = (kind.readSpan rest).cons [c] c := by
  cases kind with
  | single =>
      obtain ⟨notQuote, notEscape⟩ := alone
      refine readSingleQuoted.eq_4 c rest ?_ notQuote ?_
      · rintro _ rfl
        contradiction
      · rintro _ rfl rfl
        exact notEscape rfl rfl
  | double =>
      obtain ⟨notQuote, notBackslash⟩ := alone
      exact readDoubleQuoted.eq_4 c rest (fun _ same _ => notQuote same) notQuote notBackslash
  | backtick => exact readBacktickQuoted.eq_2 c rest alone

theorem readSpan_closes {kind : QuoteKind} {rest : List Char} (closes : kind.Closes rest) :
    kind.readSpan (kind.delimiter :: rest) = .closed [] [] rest := by
  cases kind with
  | single =>
      refine readSingleQuoted.eq_2 rest ?_
      rintro later rfl
      exact closes (by decide) rfl
  | double =>
      refine readDoubleQuoted.eq_2 rest ?_
      rintro later rfl
      exact closes (by decide) rfl
  | backtick => rfl

theorem readSpan_content {kind : QuoteKind} {raw text following : List Char}
    (content : SpanContent kind following raw text) :
    kind.readSpan (raw ++ following) = (kind.readSpan following).prepend raw text := by
  induction content with
  | empty =>
      rw [List.nil_append]
      cases kind.readSpan following <;> rfl
  | doubled pairs _ ih =>
      rw [List.cons_append, List.cons_append, readSpan_doubled pairs, ih, SpanReading.prepend_cons]
      rfl
  | escaped isSingle _ ih =>
      subst isSingle
      simp only [List.cons_append, readSpan, readSingleQuoted] at ih ⊢
      rw [ih, SpanReading.prepend_cons]
      rfl
  | itself alone _ ih =>
      rw [List.cons_append, readSpan_itself alone, ih, SpanReading.prepend_cons]
      rfl

/-- The readers follow the rules of spans, and these leave no choice. -/
theorem readSpan_eq_iff (kind : QuoteKind) (input : List Char) (reading : SpanReading) :
    kind.readSpan input = reading ↔ SpanEnd kind input reading := by
  constructor
  · rintro rfl
    exact kind.readSpan_end input
  · intro ending
    cases ending with
    | closed content closes =>
        rw [readSpan_content content, readSpan_closes closes]
        simp [SpanReading.prepend]
    | invalid isDouble content =>
        rw [readSpan_content content, isDouble]
        rfl
    | unterminated content =>
        have whole := readSpan_content content
        rw [List.append_nil] at whole
        rw [whole]
        cases kind <;> rfl

end QuoteKind

end StatementLine
