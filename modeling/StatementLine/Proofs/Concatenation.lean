import StatementLine.Proofs.Inquiry
import StatementLine.Proofs.Seam

/-!
Lines put together with white space between them. `split_append` says that each is split as if it
stood alone, unless the first ends inside a quoted span.
-/

universe u

namespace StatementLine

variable {σ : Type u} {line tail : List Char} {layout : Segmentation}

theorem RunGrammar.extend {segments : List Segment} {rest : List Char}
    (boundary : AtBoundary tail) (run : RunGrammar line ⟨segments, none, rest⟩) :
    RunGrammar (line ++ tail) ⟨segments, none, rest ++ tail⟩ := by
  cases run with
  | complete row ended =>
      rw [List.append_assoc]
      exact .complete (row.extend boundary) (ended.append boundary)

theorem SpanEnd.extend_invalid {kind : QuoteKind} {body unread : List Char}
    (ending : SpanEnd kind body (.failed .invalid unread)) (tail : List Char) :
    SpanEnd kind (body ++ tail) (.failed .invalid (unread ++ tail)) := by
  cases ending with
  | invalid isDouble content =>
      rw [List.append_assoc]
      exact .invalid isDouble (content.following_head rfl)

theorem RunGrammar.extend_invalid {segments : List Segment} {unread : List Char}
    (boundary : AtBoundary tail) (run : RunGrammar line ⟨segments, some .invalid, unread⟩) :
    RunGrammar (line ++ tail) ⟨segments, some .invalid, unread ++ tail⟩ := by
  cases run with
  | broken row ending =>
      rw [List.append_assoc]
      exact .broken (row.extend boundary) (ending.extend_invalid tail)

theorem blank_append {gap other : List Char} (white : gap.all isBlank = true)
    (whiteOther : other.all isBlank = true) : (gap ++ other).all isBlank = true := by
  rw [List.all_append, white, whiteOther, Bool.and_self]

namespace LineGrammar

theorem lead {gap : List Char} (white : gap.all isBlank = true) (grammar : LineGrammar line layout) :
    LineGrammar (gap ++ line) layout := by
  cases grammar with
  | blank whiteLine => exact .blank (blank_append white whiteLine)
  | token whiteLine something run later =>
      rw [← List.append_assoc]
      exact .token (blank_append white whiteLine) something run later
  | broken whiteLine run =>
      rw [← List.append_assoc]
      exact .broken (blank_append white whiteLine) run

theorem append {gap other : List Char} {later : Segmentation} (white : gap.all isBlank = true)
    (boundary : AtBoundary (gap ++ other)) (grammar : LineGrammar line layout)
    (complete : layout.broken? = none) (second : LineGrammar other later) :
    LineGrammar (line ++ (gap ++ other)) (later.precededBy layout.groups) := by
  induction grammar with
  | blank whiteLine => exact (second.lead white).lead whiteLine
  | token whiteLine something run _ ih =>
      rw [List.append_assoc]
      exact .token whiteLine something (run.extend boundary) (ih complete)
  | broken => cases complete

theorem extend_broken {broken : BrokenGroup} {unread : List Char} (boundary : AtBoundary tail)
    (grammar : LineGrammar line layout) (found : layout.broken? = some broken)
    (longer : ∀ {input}, RunGrammar input ⟨broken.segments, some broken.error, broken.unread⟩ →
      RunGrammar (input ++ tail) ⟨broken.segments, some broken.error, unread⟩) :
    LineGrammar (line ++ tail) { layout with broken? := some { broken with unread } } := by
  induction grammar with
  | blank => cases found
  | token white something run _ ih =>
      rw [List.append_assoc]
      exact .token white something (run.extend boundary) (ih found)
  | broken white run =>
      cases found
      rw [List.append_assoc]
      exact .broken white (longer run)

theorem append_invalid (boundary : AtBoundary tail) {broken : BrokenGroup}
    (grammar : LineGrammar line layout) (found : layout.broken? = some broken)
    (invalid : broken.error = .invalid) :
    LineGrammar (line ++ tail)
      { layout with broken? := some { broken with unread := broken.unread ++ tail } } := by
  refine grammar.extend_broken boundary found fun run => ?_
  rw [invalid] at run ⊢
  exact run.extend_invalid boundary

end LineGrammar

theorem lookupsOf_start {first second : List Segment} (start : first <+: second) :
    lookupsOf first <+: lookupsOf second := by
  obtain ⟨more, rfl⟩ := start
  exact ⟨lookupsOf more, (lookupsOf_append first more).symm⟩

theorem Segmentation.lookups_token (layout : Segmentation) (group : List Segment) :
    { layout with groups := group :: layout.groups }.lookups = lookupsOf group ++ layout.lookups := by
  have preceded := layout.lookups_precededBy [group]
  simpa [precededBy] using preceded

theorem QuoteKind.read_delimiter_ne_boundary (kind : QuoteKind) (body : List Char) :
    Segment.read (kind.delimiter :: body) ≠ .boundary := by
  apply Segment.read_ne_boundary
  cases kind <;> decide

theorem Row.read_ne_boundary {rest : List Char} {segments : List Segment} (row : Row rest segments)
    (text : Segment.read rest ≠ .boundary) : Segment.read (sources segments ++ rest) ≠ .boundary := by
  cases row with
  | nil => exact text
  | cons stands _ => simp [Segment.read_source stands]

theorem segmentation_lookups_start {gap input : List Char} (white : gap.all isBlank = true)
    (text : Segment.read input ≠ .boundary) :
    lookupsOf (readSegments input).segments <+: (segmentation (gap ++ input)).lookups := by
  rw [segmentation_text white text]
  rcases readSegments input with ⟨segments, _ | error, unread⟩
  · exact ⟨_, (Segmentation.lookups_token _ segments).symm⟩
  · exact List.prefix_rfl

theorem LineGrammar.lookups_start (boundary : AtBoundary tail) (grammar : LineGrammar line layout) :
    layout.lookups <+: (segmentation (line ++ tail)).lookups := by
  induction grammar with
  | blank => exact List.nil_prefix
  | token white something run more ih =>
      rename_i gap input group rest layout
      have longRun := run.extend boundary
      have text : Segment.read (input ++ tail) ≠ .boundary := fun ended =>
        something (longRun.boundary_iff.mp ended).1
      rw [List.append_assoc, segmentation_text white text, (readSegments_eq_iff _ _).mpr longRun]
      simp only
      rw [layout.lookups_token, Segmentation.lookups_token]
      exact (List.prefix_append_right_inj _).mpr ih
  | broken white run =>
      rename_i gap input segments error unread
      cases run with
      | broken row ending =>
          rename_i kind body
          -- What follows may close the span, so only the row in front of the span is sure to stay.
          have longRow := row.extend boundary
          have start := segmentation_lookups_start white
            (longRow.read_ne_boundary (kind.read_delimiter_ne_boundary (body ++ tail)))
          rw [readSegments_row longRow] at start
          rw [List.append_assoc, List.append_assoc]
          exact (lookupsOf_start (List.prefix_append _ _)).trans start

theorem inquire_of_start {resolver : Resolver σ} {first lookups : List Lookup} {state : σ}
    {error : ResolveError} (start : first <+: lookups)
    (failed : (inquire resolver first state).failure? = some error) :
    inquire resolver lookups state = inquire resolver first state := by
  obtain ⟨more, rfl⟩ := start
  rw [inquire_append, Inquiry.andThen, failed]

theorem asked_of_start {resolver : Resolver σ} {first lookups : List Lookup} {state : σ}
    (start : first <+: lookups) :
    lookups.take (inquire resolver first state).asked =
      first.take (inquire resolver first state).asked := by
  obtain ⟨more, rfl⟩ := start
  exact List.take_append_of_le_length (inquire_asked_le resolver first state)

theorem inquire_append_complete {resolver : Resolver σ} {first : List Lookup} (second : List Lookup)
    {state : σ} (complete : (inquire resolver first state).failure? = none) :
    let later := inquire resolver second (inquire resolver first state).state
    (inquire resolver (first ++ second) state).state = later.state ∧
      (inquire resolver (first ++ second) state).asked = first.length + later.asked := by
  intro later
  have length := inquire_resolutions_length resolver first state complete
  rw [inquire_append, Inquiry.andThen, complete]
  refine ⟨rfl, ?_⟩
  simp only [Inquiry.asked, List.length_append, length, later]
  omega

theorem ok_of_toOption {ε α : Type} {result : Except ε α} {value : α}
    (found : result.toOption = some value) : result = .ok value := by
  cases result with
  | error error => cases found
  | ok other => exact congrArg Except.ok (Option.some.inj found)

section Split

variable (resolver : Resolver σ) {first whole : String} {state : σ}

/-- Two lines that ask the same and come to the same. -/
theorem split_eq_of_inquiry_eq
    (start : (segmentation first.toList).lookups <+: (segmentation whole.toList).lookups)
    (sameInquiry : inquire resolver (segmentation whole.toList).lookups state =
      inquire resolver (segmentation first.toList).lookups state)
    (sameOutcome : (segmentation whole.toList).outcome
        (inquire resolver (segmentation first.toList).lookups state) =
      (segmentation first.toList).outcome
        (inquire resolver (segmentation first.toList).lookups state)) :
    (split resolver whole state).result = (split resolver first state).result ∧
      (split resolver whole state).state = (split resolver first state).state ∧
      lookupsMade resolver whole state = lookupsMade resolver first state := by
  obtain ⟨firstResult, firstState⟩ := split_eq_outcome resolver first state
  obtain ⟨wholeResult, wholeState⟩ := split_eq_outcome resolver whole state
  rw [sameInquiry] at wholeResult wholeState
  refine ⟨?_, ?_, ?_⟩
  · rw [wholeResult, sameOutcome, firstResult]
  · rw [wholeState, firstState]
  · rw [lookupsMade_eq_take, lookupsMade_eq_take, sameInquiry, asked_of_start start]

theorem split_eq_of_broken_eq {broken : BrokenGroup}
    (found : (segmentation first.toList).broken? = some broken)
    (complete : (inquire resolver (segmentation first.toList).lookups state).failure? = none)
    (unread : List Char)
    (layout : segmentation whole.toList =
      { segmentation first.toList with broken? := some { broken with unread := unread } }) :
    (split resolver whole state).result = (split resolver first state).result ∧
      (split resolver whole state).state = (split resolver first state).state ∧
      lookupsMade resolver whole state = lookupsMade resolver first state := by
  have sameLookups : (segmentation whole.toList).lookups =
      (segmentation first.toList).lookups := by
    rw [layout]
    simp only [Segmentation.lookups, Segmentation.segments, found]
  apply split_eq_of_inquiry_eq resolver
  · simp only [sameLookups, List.prefix_rfl]
  · rw [sameLookups]
  · rw [layout, Segmentation.outcome_broken complete found,
      Segmentation.outcome_broken complete rfl]

theorem split_eq_of_lookups_append (second : String)
    (complete : (inquire resolver (segmentation first.toList).lookups state).failure? = none)
    (lookups : (segmentation whole.toList).lookups =
      (segmentation first.toList).lookups ++ (segmentation second.toList).lookups) :
    let head := split resolver first state
    (split resolver whole state).result = (segmentation whole.toList).outcome
        ((inquire resolver (segmentation first.toList).lookups state).andThen
          (inquire resolver (segmentation second.toList).lookups)) ∧
      (split resolver whole state).state = (split resolver second head.state).state ∧
      lookupsMade resolver whole state =
        lookupsMade resolver first state ++ lookupsMade resolver second head.state := by
  intro head
  have headState := (split_eq_outcome resolver first state).2
  have laterState := (split_eq_outcome resolver second head.state).2
  obtain ⟨wholeResult, wholeState⟩ := split_eq_outcome resolver whole state
  have length := inquire_resolutions_length resolver _ state complete
  have headAsked : (inquire resolver (segmentation first.toList).lookups state).asked =
      (segmentation first.toList).lookups.length := by
    simp only [Inquiry.asked, length, complete, Option.toList_none, List.length_nil, Nat.add_zero]
  obtain ⟨appendState, appendAsked⟩ := inquire_append_complete
    (segmentation second.toList).lookups complete
  rw [lookups] at wholeResult wholeState
  refine ⟨?_, ?_, ?_⟩
  · rw [wholeResult, inquire_append]
  · rw [wholeState, appendState, laterState, headState]
  · rw [lookupsMade_eq_take, lookupsMade_eq_take, lookupsMade_eq_take, lookups, appendAsked,
      headAsked, List.take_length, List.take_length_add_append, headState]

theorem split_eq_of_precededBy {second : String}
    (unbroken : (segmentation first.toList).broken? = none)
    (complete : (inquire resolver (segmentation first.toList).lookups state).failure? = none)
    (layout : segmentation whole.toList =
      (segmentation second.toList).precededBy (segmentation first.toList).groups) :
    let head := split resolver first state
    let later := split resolver second head.state
    ∃ tokens, head.result = .ok tokens ∧
      (split resolver whole state).result = later.result.map (tokens ++ ·) ∧
      (split resolver whole state).state = later.state ∧
      lookupsMade resolver whole state =
        lookupsMade resolver first state ++ lookupsMade resolver second head.state := by
  intro head later
  obtain ⟨headResult, headState⟩ := split_eq_outcome resolver first state
  have laterResult := (split_eq_outcome resolver second head.state).1
  have firstLookups : (segmentation first.toList).lookups =
      lookupsOf (segmentation first.toList).groups.flatten := by
    simp only [Segmentation.lookups, Segmentation.segments, unbroken]
  have length := inquire_resolutions_length resolver _ state complete
  obtain ⟨result, left, lookups⟩ := split_eq_of_lookups_append resolver second complete
    (by rw [layout, Segmentation.lookups_precededBy, ← firstLookups])
  refine ⟨_, headResult.trans (Segmentation.outcome_complete complete unbroken), ?_, left, lookups⟩
  rw [result, layout, Segmentation.outcome_precededBy _ _ _ _ complete (by rw [length, firstLookups]),
    laterResult, headState]

end Split

/-- A line in front of white space is split as if nothing followed, unless it ends inside a quoted
span. What follows the white space is split as if it stood alone, from the state that is left. -/
theorem split_append (resolver : Resolver σ) (first gap second : String) (state : σ)
    (apart : gap ≠ "") (white : ∀ c ∈ gap.toList, isBlank c = true)
    (closed : (split resolver first state).result ≠ .error (.quote .unterminated)) :
    let head := split resolver first state
    let whole := split resolver (first ++ gap ++ second) state
    match head.result with
    | .error error =>
        whole.result = .error error ∧ whole.state = head.state ∧
          lookupsMade resolver (first ++ gap ++ second) state = lookupsMade resolver first state
    | .ok tokens =>
        let later := split resolver second head.state
        whole.result = later.result.map (tokens ++ ·) ∧ whole.state = later.state ∧
          lookupsMade resolver (first ++ gap ++ second) state =
            lookupsMade resolver first state ++ lookupsMade resolver second head.state := by
  intro head whole
  have boundary : AtBoundary (gap.toList ++ second.toList) := by
    cases characters : gap.toList with
    | nil => exact absurd (String.toList_eq_nil_iff.mp characters) apart
    | cons c rest => exact AtBoundary.cons_iff.mpr (white c (by simp [characters]))
  have characters : (first ++ gap ++ second).toList =
      first.toList ++ (gap.toList ++ second.toList) := by
    simp
  have grammar := segmentation_grammar first.toList
  have start := grammar.lookups_start boundary
  rw [← characters] at start
  have headResult := (split_eq_outcome resolver first state).1
  cases failure : (inquire resolver (segmentation first.toList).lookups state).failure? with
  | some error =>
      -- The whole line asks the same up to the lookup that fails.
      rw [Segmentation.outcome_failed failure] at headResult
      obtain ⟨same, sameState, sameLookups⟩ := split_eq_of_inquiry_eq resolver start
        (inquire_of_start start failure)
        (by rw [Segmentation.outcome_failed failure, Segmentation.outcome_failed failure])
      simp only [head, headResult]
      exact ⟨same.trans headResult, sameState, sameLookups⟩
  | none =>
      cases found : (segmentation first.toList).broken? with
      | none =>
          have layout := (segmentation_eq_iff _ _).mpr
            (grammar.append (List.all_eq_true.mpr white) boundary found
              (segmentation_grammar second.toList))
          rw [← characters] at layout
          obtain ⟨tokens, ok, result, left, lookups⟩ :=
            split_eq_of_precededBy resolver found failure layout
          simp only [head, ok]
          exact ⟨result, left, lookups⟩
      | some broken =>
          rw [Segmentation.outcome_broken failure found] at headResult
          cases error : broken.error with
          | unterminated =>
              rw [error] at headResult
              exact absurd headResult closed
          | invalid =>
              -- The backslash fails the span whatever follows, so nothing behind it is asked.
              have layout := (segmentation_eq_iff _ _).mpr
                (grammar.append_invalid boundary found error)
              rw [← characters] at layout
              obtain ⟨same, sameState, lookups⟩ :=
                split_eq_of_broken_eq resolver found failure _ layout
              simp only [head, headResult]
              exact ⟨same.trans headResult, sameState, lookups⟩

theorem split_append_quotes :
    let resolver : Resolver (List Answer) := Resolver.scripted
    let state : List Answer := [.ok (.replaced "1 2"), .ok .unhandled]
    " " ≠ "" ∧ (∀ c ∈ " ".toList, isBlank c = true) ∧
    (split resolver ":n'a'" state).result ≠ .error (.quote .unterminated) ∧
    (split resolver (":n'a'" ++ " " ++ "'b':{?n}") state).result = .ok ["1 2a", "b:{?n}"] ∧
    lookupsMade resolver (":n'a'" ++ " " ++ "'b':{?n}") state = [.value "n" .bare, .defined "n"] := by
  intro resolver state
  have apart : " " ≠ "" := by decide
  have white : ∀ c ∈ " ".toList, isBlank c = true :=
    List.all_eq_true.mp (by decide : " ".toList.all isBlank = true)
  have head : (split resolver ":n'a'" state).result = .ok ["1 2a"] :=
    ok_of_toOption (by decide +kernel)
  have closed : (split resolver ":n'a'" state).result ≠ .error (.quote .unterminated) := by
    rw [head]
    simp
  have parts := split_append resolver ":n'a'" " " "'b':{?n}" state apart white closed
  simp only [head] at parts
  obtain ⟨result, _, lookups⟩ := parts
  have later : (split resolver "'b':{?n}" (split resolver ":n'a'" state).state).result =
      .ok ["b:{?n}"] := ok_of_toOption (by decide +kernel)
  have headLookups : lookupsMade resolver ":n'a'" state = [.value "n" .bare] := by decide +kernel
  have laterLookups : lookupsMade resolver "'b':{?n}" (split resolver ":n'a'" state).state =
      [.defined "n"] := by decide +kernel
  refine ⟨apart, white, closed, ?_, ?_⟩
  · rw [result, later]
    rfl
  · rw [lookups, headLookups, laterLookups]
    rfl

end StatementLine
