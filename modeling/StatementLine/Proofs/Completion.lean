import StatementLine.Proofs.Adjacency
import StatementLine.Proofs.Answering

/-!
What the two errors of quoted spans say about the text that follows a line. `quote_errors_completion`
says that an invalid line stays invalid whatever follows, and that an unterminated one is exactly a
line that fails as it stands and has a continuation with which it does not.
-/

universe u

namespace StatementLine

variable {σ : Type u} {line tail : List Char} {layout : Segmentation} {broken : BrokenGroup}

theorem Row.extend_backslash {rest : List Char} {segments : List Segment} (row : Row rest segments)
    (backslash : '\\' ∈ rest) : Row (rest ++ tail) segments := by
  induction row with
  | nil => exact .nil
  | @cons segment later stands _ ih =>
      have behind : '\\' ∈ sources later ++ rest := List.mem_append_right _ backslash
      refine .cons ?_ ih
      rw [← List.append_assoc]
      refine stands.extend_within (List.ne_nil_of_mem behind) ?_
      -- A reference that came to be here would hold the backslash behind the segment.
      intro reference accepted first plain c excess reaches
      apply reference.not_mem_source accepted (c := '\\') (by decide) (by decide)
      rw [reaches]
      exact List.mem_append_left _ (List.mem_append_right _ behind)

theorem SpanEnd.backslash_mem {kind : QuoteKind} {body unread : List Char}
    (ending : SpanEnd kind body (.failed .invalid unread)) : '\\' ∈ body := by
  cases ending with
  | invalid isDouble content => simp

theorem RunGrammar.stays_invalid {segments : List Segment} {unread : List Char}
    (run : RunGrammar line ⟨segments, some .invalid, unread⟩) :
    RunGrammar (line ++ tail) ⟨segments, some .invalid, unread ++ tail⟩ := by
  cases run with
  | broken row ending =>
      rw [List.append_assoc]
      exact .broken (row.extend_backslash (List.mem_cons_of_mem _ ending.backslash_mem))
        (ending.extend_invalid tail)

theorem LineGrammar.ne_nil_of_broken (grammar : LineGrammar line layout)
    (found : layout.broken? = some broken) : line ≠ [] := by
  rintro rfl
  rw [← (segmentation_eq_iff _ _).mpr grammar, segmentation_gap rfl] at found
  cases found

theorem LineGrammar.stays_invalid (grammar : LineGrammar line layout)
    (found : layout.broken? = some broken) (invalid : broken.error = .invalid) :
    LineGrammar (line ++ tail)
      { layout with broken? := some { broken with unread := broken.unread ++ tail } } := by
  induction grammar with
  | blank => cases found
  | token white something run later ih =>
      obtain ⟨first, rest, rfl⟩ := List.exists_cons_of_ne_nil (later.ne_nil_of_broken found)
      rw [List.append_assoc]
      refine .token white something ?_ (ih found)
      cases run with
      | complete row boundary =>
          have further : AtBoundary (first :: rest ++ tail) :=
            AtBoundary.cons_iff.mpr (AtBoundary.cons_iff.mp boundary)
          rw [List.append_assoc]
          exact .complete (row.change boundary further) further
  | broken white run =>
      cases found
      simp only at invalid
      subst invalid
      rw [List.append_assoc]
      exact .broken white run.stays_invalid

theorem segmentation_error?_invalid (more : List Char)
    (invalid : (segmentation line).error? = some .invalid) :
    (segmentation (line ++ more)).error? = some .invalid := by
  obtain ⟨broken, found, error⟩ := Option.map_eq_some_iff.mp invalid
  have grammar : LineGrammar (line ++ more) _ :=
    (segmentation_grammar line).stays_invalid found error
  rw [(segmentation_eq_iff _ _).mpr grammar]
  simp only [Segmentation.error?, Option.map_some, error]

namespace SpanContent

variable {kind : QuoteKind}

theorem append {following raw text laterRaw laterText : List Char}
    (content : SpanContent kind (laterRaw ++ following) raw text)
    (later : SpanContent kind following laterRaw laterText) :
    SpanContent kind following (raw ++ laterRaw) (text ++ laterText) := by
  induction content with
  | empty => exact later
  | doubled pairs _ ih => exact .doubled pairs ih
  | escaped isSingle _ ih => exact .escaped isSingle ih
  | itself alone _ ih => exact .itself (by simpa using alone) ih

theorem before_other {raw text following : List Char} (content : SpanContent kind [] raw text)
    (other : following.head? ≠ some '\'') : SpanContent kind following raw text := by
  induction content with
  | empty => exact .empty
  | doubled pairs _ ih => exact .doubled pairs ih
  | escaped isSingle _ ih => exact .escaped isSingle ih
  | itself alone _ ih =>
      rename_i c raw text _
      refine .itself ?_ ih
      cases raw with
      | cons next raw => exact alone.following_head rfl
      | nil =>
          -- The last character may be a backslash, with which a quote would pair.
          cases kind with
          | single => exact ⟨alone.1, fun _ => other⟩
          | double => exact alone
          | backtick => exact alone

end SpanContent

/-- Closes a span, behind a space. The space keeps the delimiter from a backslash or another delimiter
in front of it, and from a colon that would make a reference of it. -/
def QuoteKind.completion (kind : QuoteKind) : List Char :=
  [' ', kind.delimiter]

theorem QuoteKind.completion_boundary (kind : QuoteKind) : AtBoundary kind.completion :=
  AtBoundary.cons_iff.mpr (by decide)

theorem isBlank_ne {c other : Char} (blank : isBlank c = true) (text : isBlank other = false) :
    c ≠ other := by
  rintro rfl
  rw [text] at blank
  cases blank

theorem QuoteKind.blank_standsForItself (kind : QuoteKind) {c : Char} (blank : isBlank c = true)
    (following : List Char) : kind.StandsForItself c following := by
  cases kind with
  | single =>
      exact ⟨isBlank_ne blank (by decide), fun backslash =>
        absurd backslash (isBlank_ne blank (by decide))⟩
  | double => exact ⟨isBlank_ne blank (by decide), isBlank_ne blank (by decide)⟩
  | backtick => exact isBlank_ne blank (by decide)

theorem SpanEnd.completed {kind : QuoteKind} {body unread : List Char}
    (ending : SpanEnd kind body (.failed .unterminated unread)) :
    ∃ raw text, body ++ kind.completion = raw ++ [kind.delimiter] ∧
      SpanContent kind [kind.delimiter] raw text := by
  cases ending with
  | unterminated content =>
      rename_i text
      have space : SpanContent kind [kind.delimiter] [' '] [' '] :=
        .itself (kind.blank_standsForItself (by decide) _) .empty
      refine ⟨body ++ [' '], text ++ [' '], by simp [QuoteKind.completion], ?_⟩
      exact (content.before_other (by simp)).append space

theorem RunGrammar.completed {segments : List Segment} {unread : List Char}
    (run : RunGrammar line ⟨segments, some .unterminated, unread⟩) :
    ∃ (kind : QuoteKind) (last : Segment),
      RunGrammar (line ++ kind.completion) ⟨segments ++ [last], none, []⟩ := by
  cases run with
  | broken row ending =>
      rename_i kind body
      obtain ⟨raw, text, whole, content⟩ := ending.completed
      let span : QuotedSpan := ⟨kind, String.ofList raw, String.ofList text⟩
      have stands : (Segment.quoted span).StandsBefore [] :=
        .quoted (by simpa [span] using content) fun _ => by simp
      have source : (kind.delimiter :: body) ++ kind.completion =
          sources [.quoted span] ++ [] := by
        rw [List.cons_append, whole]
        simp [span, Segment.source, QuotedSpan.source]
      have longRow := row.extend kind.completion_boundary
      rw [source] at longRow
      refine ⟨kind, .quoted span, ?_⟩
      rw [List.append_assoc, source, ← List.append_assoc, ← sources_append]
      exact .complete (longRow.append (.cons stands .nil)) .nil

theorem LineGrammar.completed (grammar : LineGrammar line layout)
    (found : layout.broken? = some broken) (unterminated : broken.error = .unterminated) :
    ∃ (kind : QuoteKind) (groups : List (List Segment)),
      LineGrammar (line ++ kind.completion) ⟨groups, none⟩ := by
  induction grammar with
  | blank => cases found
  | @token gap input group rest _ white something run _ ih =>
      obtain ⟨kind, groups, later⟩ := ih found
      refine ⟨kind, group :: groups, ?_⟩
      rw [List.append_assoc]
      exact .token white something (run.extend kind.completion_boundary) later
  | @broken gap input segments error unread white run =>
      cases found
      simp only at unterminated
      subst unterminated
      obtain ⟨kind, last, whole⟩ := run.completed
      refine ⟨kind, [segments ++ [last]], ?_⟩
      rw [List.append_assoc]
      exact .token white (by simp) whole (.blank rfl)

theorem segmentation_completed (unterminated : (segmentation line).error? = some .unterminated) :
    ∃ more, (segmentation (line ++ more)).error? = none := by
  obtain ⟨broken, found, error⟩ := Option.map_eq_some_iff.mp unterminated
  obtain ⟨kind, groups, grammar⟩ := (segmentation_grammar line).completed found error
  refine ⟨kind.completion, ?_⟩
  rw [(segmentation_eq_iff _ _).mpr grammar]
  rfl

theorem completable_iff (line : List Char) :
    (∃ more, (segmentation (line ++ more)).error? = none) ↔
      (segmentation line).error? ≠ some .invalid := by
  constructor
  · rintro ⟨more, complete⟩ invalid
    rw [segmentation_error?_invalid more invalid] at complete
    cases complete
  · intro valid
    cases error : (segmentation line).error? with
    | none => exact ⟨[], by rwa [List.append_nil]⟩
    | some found =>
        cases found with
        | unterminated => exact segmentation_completed error
        | invalid => exact absurd error valid

/-- With nothing resolved, a line is invalid exactly if nothing can be put behind it with which it can
be split, and it stays invalid then. It is unterminated exactly if it cannot be split as it stands
and can be with something behind it. -/
theorem quote_errors_completion (line : String) (state : σ) :
    let result (text : String) := (split Resolver.literal text state).result
    let completable := ∃ more tokens, result (line ++ more) = .ok tokens
    (result line = .error (.quote .invalid) ↔ ¬completable) ∧
    (result line = .error (.quote .invalid) ↔
      ∀ more, result (line ++ more) = .error (.quote .invalid)) ∧
    (result line = .error (.quote .unterminated) ↔
      (∃ error, result line = .error error) ∧ completable) := by
  intro result completable
  have results (text : String) :
      result text = (segmentation text.toList).resultBy fun _ => .unhandled :=
    Resolver.literal_answersBy.split_result text state
  have errorIff (text : String) (error : QuoteError) :
      result text = .error (.quote error) ↔ (segmentation text.toList).error? = some error := by
    simp [results, Segmentation.resultBy_eq_error_iff]
  have completableIff : completable ↔ (segmentation line.toList).error? ≠ some .invalid := by
    rw [← completable_iff]
    simp only [completable, results, Segmentation.resultBy_succeeds_iff, String.toList_append]
    constructor
    · rintro ⟨more, complete⟩
      exact ⟨more.toList, complete⟩
    · rintro ⟨more, complete⟩
      exact ⟨String.ofList more, by rwa [String.toList_ofList]⟩
  refine ⟨?_, ?_, ?_⟩
  · rw [completableIff, Decidable.not_not]
    exact errorIff line .invalid
  · constructor
    · intro invalid more
      rw [errorIff, String.toList_append]
      exact segmentation_error?_invalid more.toList ((errorIff line .invalid).mp invalid)
    · intro always
      simpa using always ""
  · rw [errorIff, completableIff, results, Segmentation.resultBy]
    cases (segmentation line.toList).error? with
    | none => simp
    | some error => cases error <;> simp

end StatementLine
