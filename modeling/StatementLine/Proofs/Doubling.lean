import StatementLine.Proofs.SpanGrammar
import StatementLine.Quote.Writing

/-!
What the readers make of a value whose quotes were doubled. Doubling leaves backslashes as they
are, and readers do not: between single quotes a backslash escapes the quote behind it, between
double quotes it is refused. A value comes back if it gives neither of them an occasion.
-/

namespace StatementLine

def escapedQuote : List Char :=
  ['\\', '\'']

theorem head?_doubleDelimiter (delimiter : Char) (text : List Char) :
    (doubleDelimiter delimiter text).head? = text.head? := by
  cases text with
  | nil => rfl
  | cons c rest =>
      rw [doubleDelimiter_cons]
      split <;> rfl

theorem doubleDelimiter_append (delimiter : Char) (first second : List Char) :
    doubleDelimiter delimiter (first ++ second) =
      doubleDelimiter delimiter first ++ doubleDelimiter delimiter second :=
  List.flatMap_append

namespace SpanContent

/-- Single quotes give a doubled text back if no quote in it, or behind it, is escaped. -/
theorem of_unescaped {text following : List Char}
    (unescaped : ¬ escapedQuote <:+: text ++ following.head?.toList) :
    SpanContent .single following (doubleDelimiter '\'' text) text := by
  induction text with
  | nil => exact .empty
  | cons c rest ih =>
      rw [List.cons_append, List.infix_cons_iff, not_or] at unescaped
      obtain ⟨here, later⟩ := unescaped
      rw [doubleDelimiter_cons]
      by_cases quote : c = '\''
      · subst quote
        exact .doubled (by decide) (ih later)
      · rw [if_neg quote]
        refine .itself ⟨quote, fun backslash head => here ?_⟩ (ih later)
        rw [List.head?_append, List.append_eq, List.nil_append, head?_doubleDelimiter] at head
        have next : (rest ++ following.head?.toList).head? = some '\'' := by
          rw [List.head?_append, Option.head?_toList, head]
        obtain ⟨more, behind⟩ := List.head?_eq_some_iff.mp next
        rw [behind, backslash]
        exact ⟨more, rfl⟩

theorem of_noBackslash {text following : List Char} (absent : '\\' ∉ text) :
    SpanContent .double following (doubleDelimiter '"' text) text := by
  induction text with
  | nil => exact .empty
  | cons c rest ih =>
      rw [List.mem_cons, not_or] at absent
      obtain ⟨other, later⟩ := absent
      rw [doubleDelimiter_cons]
      by_cases quote : c = '"'
      · subst quote
        exact .doubled (by decide) (ih later)
      · rw [if_neg quote]
        exact .itself ⟨quote, fun backslash => other backslash.symm⟩ (ih later)

end SpanContent

theorem exists_first_escape {text : List Char} (escaped : escapedQuote <:+: text ++ ['\'']) :
    ∃ first later, text = first ++ '\\' :: later ∧ (later ++ ['\'']).head? = some '\'' ∧
      ¬ escapedQuote <:+: first ++ ['\\'] := by
  induction text with
  | nil => exact absurd escaped (by decide)
  | cons c rest ih =>
      rw [List.cons_append] at escaped
      by_cases here : escapedQuote <+: c :: (rest ++ ['\''])
      · obtain ⟨more, start⟩ := here
        obtain ⟨rfl, behind⟩ := List.cons.inj start
        exact ⟨[], rest, rfl, by rw [← behind]; rfl, by decide⟩
      · obtain ⟨first, later, rfl, quote, unescaped⟩ :=
          ih ((List.infix_cons_iff.mp escaped).resolve_left here)
        refine ⟨c :: first, later, rfl, quote, ?_⟩
        rw [List.cons_append, List.infix_cons_iff]
        rintro (start | inside)
        · exact here (start.trans ⟨later ++ ['\''], by simp⟩)
        · exact unescaped inside

inductive Quotation where
  | literal
  | identifier
deriving Repr, DecidableEq

namespace Quotation

def kind : Quotation → QuoteKind
  | literal => .single
  | identifier => .double

def write : Quotation → String → String
  | literal => quoteLiteral
  | identifier => quoteIdentifier

def Keeps : Quotation → String → Prop
  | literal, value => ¬ escapedQuote <:+: value.toList ∧ value.toList.getLast? ≠ some '\\'
  | identifier, value => '\\' ∉ value.toList

instance : (quotation : Quotation) → (value : String) → Decidable (quotation.Keeps value)
  | literal, _ => inferInstanceAs (Decidable (_ ∧ _))
  | identifier, _ => inferInstanceAs (Decidable (_ ∉ _))

def inside (quotation : Quotation) (value : String) : List Char :=
  doubleDelimiter quotation.kind.delimiter value.toList

theorem toList_write (quotation : Quotation) (value : String) :
    (quotation.write value).toList = quotation.kind.delimiter ::
      (quotation.inside value ++ [quotation.kind.delimiter]) := by
  cases quotation with
  | literal => exact toList_writeQuoted _ value
  | identifier => exact toList_writeQuoted _ value

theorem keeps_literal_iff (value : String) :
    literal.Keeps value ↔ ¬ escapedQuote <:+: value.toList ++ ['\''] := by
  have ends : escapedQuote <:+ value.toList ++ ['\''] ↔ value.toList.getLast? = some '\\' := by
    rw [List.getLast?_eq_some_iff]
    constructor
    · rintro ⟨start, whole⟩
      refine ⟨start, ?_⟩
      have apart : start ++ ['\\'] ++ ['\''] = value.toList ++ ['\''] := by
        simpa [escapedQuote] using whole
      exact (List.append_cancel_right apart).symm
    · rintro ⟨start, whole⟩
      exact ⟨start, by simp [whole, escapedQuote]⟩
  rw [List.infix_concat_iff, not_or, ends, Keeps, and_comm]

theorem Keeps.content {quotation : Quotation} {value : String} (keeps : quotation.Keeps value)
    (rest : List Char) :
    SpanContent quotation.kind (quotation.kind.delimiter :: rest) (quotation.inside value)
      value.toList := by
  cases quotation with
  | literal => exact .of_unescaped ((keeps_literal_iff value).mp keeps)
  | identifier => exact .of_noBackslash keeps

/-- A value that does not come back has a backslash up to which it is read as it is. Between single
quotes a quote stands behind this backslash, be it the closing one. -/
theorem exists_backslash {quotation : Quotation} {value : String} (lost : ¬ quotation.Keeps value) :
    ∃ first later, value.toList = first ++ '\\' :: later ∧
      (∀ unread, SpanContent quotation.kind ('\\' :: unread)
        (doubleDelimiter quotation.kind.delimiter first) first) ∧
      (quotation = .literal → (later ++ ['\'']).head? = some '\'') := by
  cases quotation with
  | literal =>
      rw [keeps_literal_iff, Decidable.not_not] at lost
      obtain ⟨first, later, cut, quote, unescaped⟩ := exists_first_escape lost
      exact ⟨first, later, cut, fun _ => .of_unescaped unescaped, fun _ => quote⟩
  | identifier =>
      obtain ⟨first, later, cut, absent⟩ :=
        List.eq_append_cons_of_mem (Decidable.not_not.mp lost)
      exact ⟨first, later, cut, fun _ => .of_noBackslash absent, fun never => nomatch never⟩

theorem readSpan_lost {quotation : Quotation} {value : String} (lost : ¬ quotation.Keeps value)
    (rest : List Char) :
    ∃ first later unread, value.toList = first ++ '\\' :: later ∧
      quotation.kind.readSpan (quotation.inside value ++ quotation.kind.delimiter :: rest) =
        (quotation.kind.readSpan ('\\' :: unread)).prepend
          (doubleDelimiter quotation.kind.delimiter first) first ∧
      (quotation = .literal → unread.head? = some '\'') := by
  obtain ⟨first, later, cut, content, quote⟩ := exists_backslash lost
  have single : '\\' ≠ quotation.kind.delimiter := by cases quotation <;> decide
  -- Behind the backslash stands what the rest of the value became and the closing quote.
  refine ⟨first, later, doubleDelimiter quotation.kind.delimiter later ++
    quotation.kind.delimiter :: rest, cut, ?_, ?_⟩
  · rw [← QuoteKind.readSpan_content (content _), inside, cut, doubleDelimiter_append,
      doubleDelimiter_cons, if_neg single]
    simp
  · rintro rfl
    have next := quote rfl
    rw [List.head?_append] at next
    rw [List.head?_append, head?_doubleDelimiter]
    exact next

theorem readSpan_refused {value : String} (lost : ¬ identifier.Keeps value) (rest : List Char) :
    ∃ unread, QuoteKind.double.readSpan (identifier.inside value ++ '"' :: rest) =
      .failed .invalid unread := by
  obtain ⟨first, _, unread, _, reading, _⟩ := readSpan_lost lost rest
  exact ⟨unread, reading⟩

theorem readSpan_lost_text {quotation : Quotation} {value : String}
    (lost : ¬ quotation.Keeps value) {rest raw text after : List Char}
    (closed : quotation.kind.readSpan (quotation.inside value ++ quotation.kind.delimiter :: rest) =
      .closed raw text after) : ¬ text <+: value.toList := by
  cases quotation with
  | identifier =>
      obtain ⟨unread, refused⟩ := readSpan_refused lost rest
      rw [kind, QuoteKind.delimiter, refused] at closed
      cases closed
  | literal =>
      obtain ⟨first, later, unread, cut, reading, quote⟩ := readSpan_lost lost rest
      obtain ⟨behind, rfl⟩ := List.head?_eq_some_iff.mp (quote rfl)
      rw [reading] at closed
      have escape : QuoteKind.single.readSpan ('\\' :: '\'' :: behind) =
          (QuoteKind.single.readSpan behind).cons escapedQuote '\'' := rfl
      rw [kind, escape] at closed
      cases ending : QuoteKind.single.readSpan behind with
      | failed error unread =>
          rw [ending] at closed
          cases closed
      | closed laterRaw laterText laterRest =>
          rw [ending] at closed
          simp only [SpanReading.cons, SpanReading.prepend, SpanReading.closed.injEq] at closed
          obtain ⟨_, rfl, _⟩ := closed
          rw [cut, List.prefix_append_right_inj, List.cons_prefix_cons]
          rintro ⟨same, _⟩
          contradiction

end Quotation

end StatementLine
