import StatementLine.Proofs.SpanGrammar
import StatementLine.Segment

/-!
References and segments by rules that mention no reader: which segment stands at a place is
decided by its own text and by what follows it. `Segment.read_eq_segment_iff` says that reading
gives the segment that stands there, `Segment.read_eq_failed_iff` which quoted spans fail.
-/

namespace StatementLine

def RunEnds (property : Char → Bool) (rest : List Char) : Prop :=
  ∀ c, rest.head? = some c → property c = false

def AtBoundary (rest : List Char) : Prop :=
  ∀ c, rest.head? = some c → isBlank c = true

theorem AtBoundary.nil : AtBoundary [] := by
  intro c head
  cases head

theorem AtBoundary.cons_iff {c : Char} {rest : List Char} :
    AtBoundary (c :: rest) ↔ isBlank c = true := by
  simp [AtBoundary]

namespace RunEnds

variable {property : Char → Bool} {rest : List Char}

theorem nil (property : Char → Bool) : RunEnds property [] := by
  intro c head
  cases head

theorem cons_iff {c : Char} : RunEnds property (c :: rest) ↔ property c = false := by
  simp [RunEnds]

theorem takeWhile_append (ends : RunEnds property rest) (run : List Char)
    (inside : run.all property = true) : (run ++ rest).takeWhile property = run := by
  rw [List.takeWhile_append_of_pos (by simpa using inside)]
  cases rest with
  | nil => simp
  | cons c rest => simp [cons_iff.mp ends]

theorem dropWhile_append (ends : RunEnds property rest) (run : List Char)
    (inside : run.all property = true) : (run ++ rest).dropWhile property = rest := by
  rw [List.dropWhile_append_of_pos (by simpa using inside)]
  cases rest with
  | nil => rfl
  | cons c rest => simp [cons_iff.mp ends]

end RunEnds

theorem RunEnds.dropWhile (property : Char → Bool) (input : List Char) :
    RunEnds property (input.dropWhile property) := by
  intro c head
  simpa [head] using List.head?_dropWhile_not property input

namespace Identifier

theorem span_append_of_accepts {name rest : List Char} (accepted : accepts name = true)
    (ends : RunEnds isContinue rest) : span (name ++ rest) = (name, rest) := by
  cases name with
  | nil => cases accepted
  | cons first later =>
      simp only [accepts, Bool.and_eq_true] at accepted
      simp only [List.cons_append, span, accepted.1, if_true,
        ends.takeWhile_append later accepted.2, ends.dropWhile_append later accepted.2]

end Identifier

namespace ReferenceForm

theorem closing_not_continue (form : ReferenceForm) (delimiter : Char)
    (closing : form.closing? = some delimiter) : Identifier.isContinue delimiter = false := by
  cases form with
  | value style => cases style <;> cases closing <;> decide
  | existence => cases closing; decide

theorem closed?_closing (form : ReferenceForm) (rest : List Char) :
    form.closed? (form.closing?.toList ++ rest) = some rest := by
  cases form with
  | value style => cases style <;> rfl
  | existence => rfl

theorem opened?_bare {first : Char} {rest : List Char} (start : Identifier.isStart first = true) :
    opened? (':' :: first :: rest) = some (value .bare, first :: rest) := by
  unfold opened?
  split
  · rename_i same
    cases same
    contradiction
  · rename_i same
    cases same
    contradiction
  · rename_i same
    cases same
    contradiction
  · rename_i same
    cases same
    rfl
  · rename_i other
    exact absurd rfl (other _)

theorem opened?_opening (form : ReferenceForm) {first : Char} (rest : List Char)
    (start : Identifier.isStart first = true) :
    opened? (form.opening ++ first :: rest) = some (form, first :: rest) := by
  cases form with
  | value style =>
      cases style with
      | bare => exact opened?_bare start
      | singleQuoted => rfl
      | doubleQuoted => rfl
  | existence => rfl

end ReferenceForm

namespace Reference

theorem source_colon (reference : Reference) :
    ∃ later, reference.source.toList = ':' :: later := by
  cases form : reference.form with
  | value style => simp [source, ReferenceForm.opening, form]
  | existence => simp [source, ReferenceForm.opening, form]

/-- The name is an identifier, and in the bare form it does not go on in what follows. -/
def StandsBefore (reference : Reference) (rest : List Char) : Prop :=
  Identifier.accepts reference.name.toList = true ∧
    (reference.form = .value .bare → RunEnds Identifier.isContinue rest)

theorem StandsBefore.name_ends {reference : Reference} {rest : List Char}
    (stands : reference.StandsBefore rest) :
    RunEnds Identifier.isContinue (reference.form.closing?.toList ++ rest) := by
  cases closing : reference.form.closing? with
  | none =>
      apply stands.2
      cases form : reference.form with
      | value style => cases style <;> simp_all [ReferenceForm.closing?, NameStyle.quote?]
      | existence => simp [ReferenceForm.closing?, form] at closing
  | some delimiter =>
      exact RunEnds.cons_iff.mpr (reference.form.closing_not_continue delimiter closing)

theorem read?_source {reference : Reference} {rest : List Char}
    (stands : reference.StandsBefore rest) :
    read? (reference.source.toList ++ rest) = some (reference, rest) := by
  obtain ⟨form, name⟩ := reference
  have span := Identifier.span_append_of_accepts stands.1 stands.name_ends
  cases characters : name.toList with
  | nil => simp [StandsBefore, characters, Identifier.accepts] at stands
  | cons first later =>
      have start : Identifier.isStart first = true := by
        have accepted := stands.1
        simp only [characters, Identifier.accepts, Bool.and_eq_true] at accepted
        exact accepted.1
      simp only [characters] at span
      have whole : (Reference.mk form name).source.toList ++ rest =
          form.opening ++ first :: (later ++ (form.closing?.toList ++ rest)) := by
        simp [source, characters]
      rw [List.cons_append] at span
      rw [whole, read?]
      simp only [form.opened?_opening _ start, span, form.closed?_closing]
      rw [← characters, String.ofList_toList]

theorem StandsBefore.of_read? {input rest : List Char} {reference : Reference}
    (found : read? input = some (reference, rest)) : reference.StandsBefore rest := by
  unfold read? at found
  split at found
  · cases found
  rename_i form afterOpening opened
  split at found
  · cases found
  rename_i name afterName present spanned
  split at found
  · cases found
  rename_i later closed
  simp only [Option.some.injEq, Prod.mk.injEq] at found
  obtain ⟨rfl, rfl⟩ := found
  have nonempty : (Identifier.span afterOpening).1 ≠ [] := by
    rw [spanned]
    exact present
  refine ⟨?_, ?_⟩
  · have accepted := Identifier.span_accepts afterOpening nonempty
    rw [spanned] at accepted
    simpa using accepted
  · rintro rfl
    intro c head
    have sameRest := ReferenceForm.closed?_eq_some _ _ _ closed
    apply Identifier.span_longest afterOpening nonempty c
    rw [spanned, sameRest]
    exact head

theorem read?_eq_some_iff (input rest : List Char) (reference : Reference) :
    read? input = some (reference, rest) ↔
      input = reference.source.toList ++ rest ∧ reference.StandsBefore rest := by
  constructor
  · intro found
    exact ⟨read?_eq_some input rest reference found, .of_read? found⟩
  · rintro ⟨rfl, stands⟩
    exact read?_source stands

theorem read?_eq_none_iff (input : List Char) :
    read? input = none ↔ ∀ (reference : Reference) (rest : List Char),
      reference.StandsBefore rest → input ≠ reference.source.toList ++ rest := by
  constructor
  · rintro missing reference rest stands rfl
    rw [read?_source stands] at missing
    cases missing
  · intro missing
    cases found : read? input with
    | none => rfl
    | some pair =>
        obtain ⟨cut, stands⟩ := (read?_eq_some_iff input pair.2 pair.1).mp found
        exact absurd cut (missing _ _ stands)

end Reference

theorem QuoteKind.ofChar?_eq_none_iff (c : Char) :
    QuoteKind.ofChar? c = none ↔ c ≠ '\'' ∧ c ≠ '"' ∧ c ≠ '`' := by
  unfold QuoteKind.ofChar?
  split <;> simp_all

namespace Segment

def isOrdinary (c : Char) : Bool :=
  !isBlank c && c != ':' && c != '\'' && c != '"' && c != '`'

theorem isPlain_eq_isOrdinary : isPlain = isOrdinary := by
  funext c
  rw [Bool.eq_iff_iff]
  simp [isPlain, isOrdinary, QuoteKind.ofChar?_eq_none_iff, and_assoc]

/-- The rules of segments. A quote rune opens a span; a reference stands wherever one can; all
else is literal, one character of any kind and then as many ordinary ones as there are. -/
inductive StandsBefore (rest : List Char) : Segment → Prop
  | literal {first plain} : isBlank first = false → first ≠ '\'' ∧ first ≠ '"' ∧ first ≠ '`' →
      (∀ (reference : Reference) (later : List Char), reference.StandsBefore later →
        first :: plain ++ rest ≠ reference.source.toList ++ later) →
      plain.all isOrdinary = true → RunEnds isOrdinary rest →
      StandsBefore rest (.literal (String.ofList (first :: plain)))
  | quoted {span} :
      SpanContent span.kind (span.kind.delimiter :: rest) span.raw.toList span.text.toList →
      span.kind.Closes rest → StandsBefore rest (.quoted span)
  | reference {written} : written.StandsBefore rest → StandsBefore rest (.reference written)

theorem read_delimiter (kind : QuoteKind) (body : List Char) :
    read (kind.delimiter :: body) =
      match kind.readSpan body with
      | .closed raw text rest => .segment (.quoted ⟨kind, String.ofList raw, String.ofList text⟩) rest
      | .failed error unread => .failed error unread := by
  cases kind <;> rfl

theorem read_reference {written : Reference} {rest : List Char}
    (stands : written.StandsBefore rest) :
    read (written.source.toList ++ rest) = .segment (.reference written) rest := by
  have found := Reference.read?_source stands
  obtain ⟨later, colon⟩ := written.source_colon
  rw [colon, List.cons_append] at found ⊢
  have notBlank : isBlank ':' = false := by decide
  have noQuote : QuoteKind.ofChar? ':' = none := rfl
  simp [read, found, notBlank, noQuote]

theorem read_source {segment : Segment} {rest : List Char} (stands : segment.StandsBefore rest) :
    read (segment.source.toList ++ rest) = .segment segment rest := by
  cases stands with
  | literal notBlank noQuote noReference inside ends =>
      rename_i first plain
      have missing := (Reference.read?_eq_none_iff _).mpr noReference
      have noKind := (QuoteKind.ofChar?_eq_none_iff first).mpr noQuote
      simp only [source, String.toList_ofList, List.cons_append] at missing ⊢
      simp [read, notBlank, noKind, missing, isPlain_eq_isOrdinary,
        ends.takeWhile_append plain inside, ends.dropWhile_append plain inside]
  | quoted content closes =>
      rename_i span
      have whole : (Segment.quoted span).source.toList ++ rest =
          span.kind.delimiter :: (span.raw.toList ++ span.kind.delimiter :: rest) := by
        simp [source, QuotedSpan.source]
      have closed := (span.kind.readSpan_eq_iff _ _).mpr (.closed content closes)
      rw [whole, read_delimiter, closed]
      simp
  | reference written => exact read_reference written

theorem StandsBefore.of_read {input rest : List Char} {segment : Segment}
    (found : read input = .segment segment rest) : segment.StandsBefore rest := by
  cases input with
  | nil => cases found
  | cons first input =>
      simp only [read] at found
      split at found
      · cases found
      rename_i notBlank
      split at found
      · rename_i kind delimiter
        split at found
        · rename_i raw text later closed
          cases found
          cases (kind.readSpan_eq_iff _ _).mp closed with
          | closed content closes => exact .quoted (by simpa using content) closes
        · cases found
      · rename_i noQuote
        split at found
        · rename_i written later referred
          cases found
          exact .reference (.of_read? referred)
        · rename_i missing
          cases found
          rw [isPlain_eq_isOrdinary]
          refine .literal (by simpa using notBlank) ((QuoteKind.ofChar?_eq_none_iff first).mp noQuote)
            ?_ List.all_takeWhile (RunEnds.dropWhile isOrdinary input)
          simpa [List.takeWhile_append_dropWhile] using (Reference.read?_eq_none_iff _).mp missing

theorem read_eq_segment_iff (input rest : List Char) (segment : Segment) :
    read input = .segment segment rest ↔
      input = segment.source.toList ++ rest ∧ segment.StandsBefore rest := by
  constructor
  · intro found
    exact ⟨read_segment input rest segment found, .of_read found⟩
  · rintro ⟨rfl, stands⟩
    exact read_source stands

theorem read_eq_failed_iff (input unread : List Char) (error : QuoteError) :
    read input = .failed error unread ↔ ∃ (kind : QuoteKind) (body : List Char),
      input = kind.delimiter :: body ∧ SpanEnd kind body (.failed error unread) := by
  constructor
  · intro found
    cases input with
    | nil => cases found
    | cons first input =>
        simp only [read] at found
        split at found
        · cases found
        split at found
        · rename_i kind delimiter
          rw [(QuoteKind.ofChar?_eq_some_iff first kind).mp delimiter]
          split at found
          · cases found
          · rename_i failed
            cases found
            exact ⟨kind, input, rfl, (kind.readSpan_eq_iff _ _).mp failed⟩
        · split at found <;> cases found
  · rintro ⟨kind, body, rfl, ending⟩
    rw [read_delimiter, (kind.readSpan_eq_iff _ _).mpr ending]

theorem read_eq_boundary_iff (input : List Char) :
    read input = .boundary ↔ AtBoundary input := by
  cases input with
  | nil => simp [read, AtBoundary.nil]
  | cons first rest =>
      rw [AtBoundary.cons_iff]
      cases blank : isBlank first with
      | true => simp [read, blank]
      | false => simpa using read_ne_boundary first rest blank

end Segment

end StatementLine
