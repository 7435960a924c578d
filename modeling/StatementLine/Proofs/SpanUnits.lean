import StatementLine.Proofs.SpanGrammar

/-!
The inside of a quoted span as a row of units: pairs of delimiters, escaped quotes, and characters
that stand for themselves. `span_reading_units` says by units alone which texts a reader accepts, what
it makes of them, and to which error it comes with all others.
-/

namespace StatementLine

inductive SpanUnit where
  | pair
  | escape
  | plain (c : Char)
deriving Repr, DecidableEq

namespace SpanUnit

variable (kind : QuoteKind)

def written : SpanUnit → List Char
  | pair => [kind.delimiter, kind.delimiter]
  | escape => ['\\', kind.delimiter]
  | plain c => [c]

def value : SpanUnit → Char
  | pair => kind.delimiter
  | escape => kind.delimiter
  | plain c => c

def StandsBefore (following : List Char) : SpanUnit → Prop
  | pair => kind ≠ .backtick
  | escape => kind = .single
  | plain c => kind.StandsForItself c following

def Stand (following : List Char) : List SpanUnit → Prop
  | [] => True
  | unit :: later =>
      unit.StandsBefore kind (later.flatMap (written kind) ++ following) ∧ Stand following later

/-- A row of units that is written as `raw` and stands for `text`. -/
structure Spell (following raw text : List Char) (units : List SpanUnit) : Prop where
  raw : units.flatMap (written kind) = raw
  text : units.map (value kind) = text
  stand : Stand kind following units

end SpanUnit

theorem SpanContent.exists_units {kind : QuoteKind} {following raw text : List Char}
    (content : SpanContent kind following raw text) :
    ∃ units, SpanUnit.Spell kind following raw text units := by
  induction content with
  | empty => exact ⟨[], rfl, rfl, trivial⟩
  | doubled pairs _ ih =>
      obtain ⟨units, rfl, rfl, stand⟩ := ih
      exact ⟨.pair :: units, rfl, rfl, pairs, stand⟩
  | escaped isSingle _ ih =>
      subst isSingle
      obtain ⟨units, rfl, rfl, stand⟩ := ih
      exact ⟨.escape :: units, rfl, rfl, rfl, stand⟩
  | itself alone _ ih =>
      rename_i c _ _ _
      obtain ⟨units, rfl, rfl, stand⟩ := ih
      exact ⟨.plain c :: units, rfl, rfl, alone, stand⟩

theorem SpanUnit.Stand.content {kind : QuoteKind} {following : List Char} {units : List SpanUnit}
    (stand : SpanUnit.Stand kind following units) :
    SpanContent kind following (units.flatMap (SpanUnit.written kind))
      (units.map (SpanUnit.value kind)) := by
  induction units with
  | nil => exact .empty
  | cons unit later ih =>
      obtain ⟨first, others⟩ := stand
      cases unit with
      | pair => exact .doubled first (ih others)
      | escape =>
          have isSingle : kind = .single := first
          subst isSingle
          exact .escaped rfl (ih others)
      | plain c => exact .itself first (ih others)

theorem spanContent_iff_units {kind : QuoteKind} {following raw text : List Char} :
    SpanContent kind following raw text ↔
      ∃ units, SpanUnit.Spell kind following raw text units := by
  constructor
  · exact SpanContent.exists_units
  · rintro ⟨units, rfl, rfl, stand⟩
    exact stand.content

namespace QuoteKind

variable (kind : QuoteKind) (input : List Char)

theorem readSpan_eq_closed_iff (raw text rest : List Char) :
    kind.readSpan input = .closed raw text rest ↔
      input = raw ++ kind.delimiter :: rest ∧
        SpanContent kind (kind.delimiter :: rest) raw text ∧ kind.Closes rest := by
  rw [readSpan_eq_iff]
  constructor
  · intro ending
    cases ending with
    | closed content closes => exact ⟨rfl, content, closes⟩
  · rintro ⟨rfl, content, closes⟩
    exact .closed content closes

theorem readSpan_eq_invalid_iff (unread : List Char) :
    kind.readSpan input = .failed .invalid unread ↔
      kind = .double ∧ ∃ raw text, input = raw ++ '\\' :: unread ∧
        SpanContent kind ('\\' :: unread) raw text := by
  rw [readSpan_eq_iff]
  constructor
  · intro ending
    cases ending with
    | invalid isDouble content => exact ⟨isDouble, _, _, rfl, content⟩
  · rintro ⟨isDouble, raw, text, rfl, content⟩
    exact .invalid isDouble content

theorem readSpan_eq_unterminated_iff (unread : List Char) :
    kind.readSpan input = .failed .unterminated unread ↔
      unread = [] ∧ (∀ raw text rest, kind.readSpan input ≠ .closed raw text rest) ∧
        ∀ later, kind.readSpan input ≠ .failed .invalid later := by
  constructor
  · intro failed
    have ending := (kind.readSpan_eq_iff input _).mp failed
    rw [failed]
    cases ending with
    | unterminated content => simp
  · rintro ⟨rfl, notClosed, notInvalid⟩
    have ending := kind.readSpan_end input
    cases reading : kind.readSpan input with
    | closed raw text rest => exact absurd reading (notClosed raw text rest)
    | failed error later =>
        rw [reading] at ending
        cases ending with
        | invalid isDouble content => exact absurd reading (notInvalid later)
        | unterminated content => rfl

end QuoteKind

/-- Behind an opening delimiter, reading comes to a content and a rest exactly if the text is that
content, written in units, with the delimiter and the rest behind it, where a delimiter that can be
doubled does not follow at once. There is one such content and one such rest at most. Reading is
refused exactly if a double-quoted text goes on with a backslash behind its units, and in all other
cases it meets the end of the text. -/
theorem span_reading_units (kind : QuoteKind) (input : List Char) :
    let Accepted (raw text rest : List Char) : Prop :=
      input = raw ++ kind.delimiter :: rest ∧
      (∃ units, SpanUnit.Spell kind (kind.delimiter :: rest) raw text units) ∧
      (kind ≠ .backtick → rest.head? ≠ some kind.delimiter)
    let Refused (unread : List Char) : Prop :=
      kind = .double ∧ ∃ raw text, input = raw ++ '\\' :: unread ∧
        ∃ units, SpanUnit.Spell kind ('\\' :: unread) raw text units
    (∀ raw text rest, kind.readSpan input = .closed raw text rest ↔ Accepted raw text rest) ∧
    (∀ raw text rest otherRaw otherText otherRest,
      Accepted raw text rest → Accepted otherRaw otherText otherRest →
        raw = otherRaw ∧ text = otherText ∧ rest = otherRest) ∧
    (∀ unread, kind.readSpan input = .failed .invalid unread ↔ Refused unread) ∧
    ∀ unread, kind.readSpan input = .failed .unterminated unread ↔
      unread = [] ∧ (¬∃ raw text rest, Accepted raw text rest) ∧ ¬∃ later, Refused later := by
  intro Accepted Refused
  have accepted : ∀ raw text rest,
      kind.readSpan input = .closed raw text rest ↔ Accepted raw text rest := by
    intro raw text rest
    rw [kind.readSpan_eq_closed_iff, spanContent_iff_units]
    rfl
  have refused : ∀ unread, kind.readSpan input = .failed .invalid unread ↔ Refused unread := by
    intro unread
    simp only [Refused, kind.readSpan_eq_invalid_iff, spanContent_iff_units]
  refine ⟨accepted, ?_, refused, ?_⟩
  · intro raw text rest otherRaw otherText otherRest first second
    have closed := (accepted raw text rest).mpr first
    rw [(accepted otherRaw otherText otherRest).mpr second] at closed
    cases closed
    exact ⟨rfl, rfl, rfl⟩
  · intro unread
    rw [kind.readSpan_eq_unterminated_iff]
    simp only [ne_eq, accepted, refused, not_exists]

end StatementLine
