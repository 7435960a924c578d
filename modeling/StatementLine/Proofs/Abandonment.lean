import StatementLine.Proofs.Finishing
import StatementLine.Proofs.Position
import StatementLine.Proofs.Spelling
import StatementLine.Proofs.Weaving

/-!
Where a line is given up. `failure_position` says what stands in front of the place behind which
nothing was read: the whole line if a span does not close, a backslash if one is refused, and the
reference or command itself if its lookup fails.
-/

universe u

namespace StatementLine

variable {σ : Type u}

/-- A line is given up with an error in front of what is not read, in a state of the resolver. A broken
span is the one of the line's layout. A lookup that fails is the last thing that was read. -/
inductive GivenUp (resolver : Resolver σ) (line unread : List Char) (left : σ) : LineError → Prop
  | broken {span : BrokenGroup} : (segmentation line).broken? = some span → span.unread = unread →
      GivenUp resolver line unread left (.quote span.error)
  | refused {segment : Segment} {lookup : Lookup} {before : σ} {invocations : List Invocation}
      {failure : ResolveError} : segment.source.toList ++ unread <:+ line →
      segment.StandsBefore unread → segment.lookup? = some lookup →
      resolver lookup before = ⟨.error failure, invocations, left⟩ →
      GivenUp resolver line unread left (.resolver failure)

structure Step.GivesUp {α : Type} (step : Step σ α) (resolver : Resolver σ) (line : String)
    (error : LineError) : Prop where
  given : GivenUp resolver line.toList step.reader.unread step.state error
  told : step.events.getLast? = some (.abandoned error step.reader.unread.length)

theorem Step.GivesUp.after {α β : Type} {later : Step σ α} {resolver : Resolver σ} {line : String}
    {error : LineError} (gives : later.GivesUp resolver line error) (events : List Event)
    (change : α → β) : (later.after events change).GivesUp resolver line error where
  given := gives.given
  told := by
    rw [Step.after, List.getLast?_append, gives.told]
    rfl

variable {resolver : Resolver σ} {input line unread : List Char} {left : σ}

theorem GivenUp.of_suffix {failure : ResolveError} (within : input <:+ line)
    (given : GivenUp resolver input unread left (.resolver failure)) :
    GivenUp resolver line unread left (.resolver failure) := by
  cases given with
  | refused behind stands asked reply => exact .refused (behind.trans within) stands asked reply

theorem Resolver.recorded_reply {lookup : Lookup} {before : σ} {earlier : List Lookup}
    {answer : Answer} {invocations : List Invocation} {after : σ × List Lookup}
    (reply : resolver.recorded lookup (before, earlier) = ⟨answer, invocations, after⟩) :
    resolver lookup before = ⟨answer, invocations, after.1⟩ ∧ after.2 = earlier ++ [lookup] := by
  cases reply
  exact ⟨rfl, rfl⟩

theorem TokenReading.after_result_error {later : TokenReading σ} {text : String}
    {events : List Event} {error : LineError}
    (failed : (later.after text events).result = .error error) : later.result = .error error := by
  cases result : later.result with
  | error other => simpa [after, result, Except.map] using failed
  | ok token => simp [after, result, Except.map] at failed

theorem Segment.contribute_error {segment : Segment} {state after : σ} {error : ResolveError}
    {events : List Event}
    (refused : segment.contribute resolver state = ⟨.error error, events, after⟩) :
    ∃ lookup invocations, segment.lookup? = some lookup ∧
      resolver lookup state = ⟨.error error, invocations, after⟩ := by
  cases found : segment.lookup? with
  | none => simp [contribute, found] at refused
  | some lookup =>
      rcases reply : resolver lookup state with ⟨failure | (text | _), invocations, left⟩ <;>
        simp [contribute, found, reply] at refused
      obtain ⟨rfl, _, rfl⟩ := refused
      exact ⟨lookup, invocations, rfl, reply⟩

theorem readToken_quote_error {state : σ} {error : QuoteError}
    (failed : (readToken resolver input state).result = .error (.quote error)) :
    ∃ segments, readSegments input =
      ⟨segments, some error, (readToken resolver input state).unread⟩ := by
  fun_induction readToken resolver input state with
  | case1 => cases failed
  | case2 input state found unread broken =>
      cases failed
      exact ⟨[], readSegments_failed _ _ _ broken⟩
  | case3 => cases failed
  | case4 input state segment rest found text events after added ih =>
      obtain ⟨segments, run⟩ := ih (TokenReading.after_result_error failed)
      exact ⟨segment :: segments, by rw [readSegments_segment _ _ _ found, run]; rfl⟩

theorem readToken_resolver_error {state : σ} {failure : ResolveError}
    (failed : (readToken resolver input state).result = .error (.resolver failure)) :
    GivenUp resolver input (readToken resolver input state).unread
      (readToken resolver input state).state (.resolver failure) := by
  fun_induction readToken resolver input state with
  | case1 => cases failed
  | case2 => cases failed
  | case3 input state segment rest found error events after refused =>
      cases failed
      obtain ⟨lookup, invocations, asked, reply⟩ := Segment.contribute_error refused
      have whole := Segment.read_segment input rest segment found
      exact .refused (whole ▸ List.suffix_rfl) (.of_read found) asked reply
  | case4 input state segment rest found text events after added ih =>
      exact (ih (TokenReading.after_result_error failed)).of_suffix (Segment.rest_suffix found)

namespace Reader

theorem next_error_reads {reader later : Reader} {state after : σ} {error : LineError}
    {events : List Event}
    (found : reader.next resolver state = ⟨.error error, later, after, events⟩) :
    ∃ first rest told, reader.unread.dropWhile isBlank = first :: rest ∧
      readToken resolver (first :: rest) state = ⟨.error error, later.unread, after, told⟩ ∧
      events = told ++ [.abandoned error later.unread.length] := by
  obtain ⟨line, input, finished⟩ := reader
  obtain rfl : finished = false := (next_error_finishes found).1
  cases start : input.dropWhile isBlank with
  | nil =>
      rw [next_end resolver line input state start] at found
      cases found
  | cons first rest =>
      rcases reading : readToken resolver (first :: rest) state with
        ⟨other | token, unread, left, told⟩
      · rw [next_error resolver line input rest unread first state left other told start
          reading] at found
        cases found
        exact ⟨first, rest, told, rfl, reading, rfl⟩
      · rw [next_token resolver line input rest unread first state left token told start
          reading] at found
        cases found

theorem next_failure {line : String} {reader later : Reader} {state after : σ} {error : LineError}
    {events : List Event} (within : Within line reader)
    (found : reader.next resolver state = ⟨.error error, later, after, events⟩) :
    (reader.next resolver state).GivesUp resolver line error := by
  obtain ⟨first, rest, told, start, reading, rfl⟩ := next_error_reads found
  have failed : (readToken resolver (first :: rest) state).result = .error error := by rw [reading]
  rw [found]
  refine ⟨?_, List.getLast?_concat⟩
  cases error with
  | quote failure =>
      obtain ⟨segments, run⟩ := readToken_quote_error failed
      rw [reading] at run
      obtain ⟨groups, whole⟩ := within.layout (next_error_finishes found).1
      have span : (segmentation line.toList).broken? = some ⟨segments, failure, later.unread⟩ := by
        rw [whole, segmentation_start start, run]
        rfl
      exact .broken span rfl
  | resolver failure =>
      have given := readToken_resolver_error failed
      rw [reading] at given
      have skipped : first :: rest <:+ reader.unread := start ▸ List.dropWhile_suffix isBlank
      exact given.of_suffix (skipped.trans within.suffix)

theorem take_failure {line : String} (limit : Option Nat) {reader : Reader} {state : σ}
    {error : LineError} (within : Within line reader)
    (reported : error ∈ (reader.take resolver limit state).result.errors) :
    (reader.take resolver limit state).GivesUp resolver line error := by
  fun_induction reader.take resolver limit state with
  | case1 => simp [Taken.errors] at reported
  | case2 limit reader state more other later after events found ih =>
      -- The error is the last item, since the reader is finished with the line.
      rw [take_finished resolver _ later after (next_error_finishes found).2] at reported ⊢
      obtain rfl : error = other := by
        simpa [Step.after, Taken.cons, Taken.errors, failure?] using reported
      have gives := next_failure within found
      rw [found] at gives
      exact ⟨gives.given, (congrArg List.getLast? (List.append_nil events)).trans gives.told⟩
  | case3 => simp [Taken.errors] at reported
  | case4 limit reader state more token later after events found ih =>
      have kept := next_within resolver reader state within
      rw [found] at kept
      exact (ih kept reported).after events (Taken.cons (.ok token))

theorem finished_of_error {turn : Turn σ} {reader : Reader} {state : σ} {error : LineError}
    (reported : error ∈ (reader.perform turn state).result.errors) :
    (reader.perform turn state).reader.finished = true := by
  cases finished : (reader.perform turn state).reader.finished with
  | true => rfl
  | false =>
      have spends := (reader.perform_finishes turn state).2
      have present := List.length_pos_of_mem reported
      have single := reader.chances_le
      rw [chances_of_unfinished finished] at spends
      omega

theorem perform_failure {line : String} (turn : Turn σ) {reader : Reader} {state : σ}
    {error : LineError} (within : Within line reader)
    (reported : error ∈ (reader.perform turn state).result.errors) :
    (reader.perform turn state).GivesUp turn.resolver line error := by
  have errors := reader.take_deliver_errors turn state
  rw [perform_eq_take] at reported ⊢
  exact (take_failure turn.operation.wanted within (errors ▸ reported)).after [] _

theorem play_failure {line : String} (turns : List (Turn σ)) {reader : Reader} {state : σ}
    {error : LineError} (within : Within line reader)
    (reported : error ∈ (reader.play turns state).result.flatMap Delivery.errors) :
    ∃ turn ∈ turns, (reader.play turns state).GivesUp turn.resolver line error := by
  induction turns generalizing reader state with
  | nil => simp [play] at reported
  | cons turn later ih =>
      rw [play] at reported ⊢
      rcases List.mem_append.mp reported with first | behind
      · obtain ⟨given, told⟩ := perform_failure turn within first
        rw [play_finished later _ _ (finished_of_error first)]
        exact ⟨turn, List.mem_cons_self, given, (congrArg List.getLast? (List.append_nil _)).trans told⟩
      · have kept := perform_within turn reader state within
        obtain ⟨other, member, gives⟩ := ih kept behind
        exact ⟨other, List.mem_cons_of_mem turn member, gives.after _ _⟩

end Reader

theorem SpanContent.noBackslash {following raw text : List Char}
    (content : SpanContent .double following raw text) : '\\' ∉ raw :=
  content.not_mem (by decide) (by decide) fun _ alone => alone.2 rfl

theorem quote_failure_position {line read : List Char} {span : BrokenGroup}
    (broken : (segmentation line).broken? = some span) (whole : line = read ++ span.unread) :
    (span.error = .unterminated → span.unread = []) ∧
    (span.error = .invalid → ∃ (weave : Weave) (inside : List Char),
      read = weave.text ++ '"' :: inside ++ ['\\'] ∧ '\\' ∉ inside ∧
        weave.Covers ('"' :: inside ++ '\\' :: span.unread) line (segmentation line)) := by
  obtain ⟨weave, tail, covers⟩ := (segmentation_grammar line).exists_weave
  have leaves := covers.leaves
  simp only [Segmentation.Leaves, broken] at leaves
  obtain ⟨kind, body, rfl, ending⟩ := leaves
  obtain ⟨segments, error, unread⟩ := span
  cases ending with
  | unterminated => simp
  | @invalid raw _ _ isDouble content =>
      subst isDouble
      refine ⟨by simp, fun _ => ⟨weave, raw, ?_, content.noBackslash, covers⟩⟩
      have opened : weave.text ++ '"' :: raw ++ ['\\'] ++ unread = read ++ unread := by
        rw [← whole, covers.whole]
        simp [QuoteKind.delimiter]
      exact (List.append_cancel_right opened).symm

theorem Segment.StandsBefore.bare_name_ends {segment : Segment} {rest : List Char} {name : String}
    (stands : segment.StandsBefore rest) (asked : segment.lookup? = some (.value name .bare)) :
    RunEnds Identifier.isContinue rest := by
  cases stands with
  | literal => cases asked
  | @quoted span =>
      obtain ⟨kind, raw, text⟩ := span
      cases kind <;> cases asked
  | @reference written standsWritten =>
      obtain ⟨form, ownName⟩ := written
      cases form <;> cases asked
      exact standsWritten.2 rfl

/-- Behind an error, what is unread is an end of the line, and the last that is told is the error with
the number of characters in it. A span that does not close leaves nothing unread. If a backslash is
refused, reading stops behind it, and it is the first behind the double quote that opens the span. If
a lookup fails, it is the last that was made, and reading stops behind the text that is written for it,
where no name goes on that nothing closes. -/
theorem failure_position (line : String) (turns : List (Turn σ)) (state : σ) (error : LineError)
    (reported : error ∈ ((Reader.ofLine line).play turns state).result.flatMap Delivery.errors) :
    let session := (Reader.ofLine line).play turns state
    let unread := session.reader.unread
    ∃ read : List Char, line.toList = read ++ unread ∧
      session.events.getLast? = some (.abandoned error unread.length) ∧
      (error = .quote .unterminated → unread = []) ∧
      (error = .quote .invalid → ∃ (weave : Weave) (inside : List Char),
        read = weave.text ++ '"' :: inside ++ ['\\'] ∧ '\\' ∉ inside ∧
          weave.Covers ('"' :: inside ++ '\\' :: unread) line.toList (segmentation line.toList)) ∧
      ∀ failure, error = .resolver failure → ∃ turn ∈ turns, ∃ lookup before invocations,
        turn.resolver lookup before = ⟨.error failure, invocations, session.state⟩ ∧
        ((Reader.ofLine line).lookupsPlayed turns state).getLast? = some lookup ∧
        lookup.written.toList <:+ read ∧
        ∀ name, lookup = .value name .bare → RunEnds Identifier.isContinue unread := by
  intro session unread
  -- The session that notes its lookups is otherwise the same.
  have noting := (Reader.ofLine line).play_recorded turns state []
  have lookups : (Reader.ofLine line).lookupsPlayed turns state =
      ((Reader.ofLine line).play (turns.map Turn.recorded) (state, [])).state.2 := rfl
  have fails (reported : error ∈ ((Reader.ofLine line).play (turns.map Turn.recorded)
      (state, [])).result.flatMap Delivery.errors) :=
    Reader.play_failure (turns.map Turn.recorded) (Reader.ofLine_within line) reported
  rcases played : (Reader.ofLine line).play (turns.map Turn.recorded) (state, []) with
    ⟨deliveries, left, ⟨after, noted⟩, events⟩
  simp only [played] at noting lookups fails
  have same : session = ⟨deliveries, left, after, events⟩ := noting
  obtain ⟨_, member, given, told⟩ := fails (by rwa [noting] at reported)
  obtain ⟨turn, inTurns, rfl⟩ := List.mem_map.mp member
  obtain ⟨read, cut⟩ := (Reader.play_within line turns state).suffix
  have whole : line.toList = read ++ unread := cut.symm
  simp only [unread, same] at whole ⊢
  refine ⟨read, whole, told, ?_⟩
  cases given with
  | @broken span broken sameUnread =>
      rw [← sameUnread] at whole ⊢
      obtain ⟨unterminated, invalid⟩ := quote_failure_position broken whole
      exact ⟨fun isError => unterminated (LineError.quote.inj isError),
        fun isError => invalid (LineError.quote.inj isError), by simp⟩
  | @refused segment lookup before invocations failure behind stands asked reply =>
      refine ⟨by simp, by simp, ?_⟩
      rintro _ ⟨rfl⟩
      obtain ⟨before, earlier⟩ := before
      obtain ⟨answered, rfl⟩ := Resolver.recorded_reply reply
      refine ⟨turn, inTurns, lookup, before, invocations, answered, ?_, ?_, ?_⟩
      · rw [lookups, List.getLast?_concat]
      · obtain ⟨front, behind⟩ := behind
        rw [whole, ← List.append_assoc] at behind
        rw [← (Segment.source_of_lookup asked).1]
        exact ⟨front, List.append_cancel_right behind⟩
      · rintro name rfl
        exact stands.bare_name_ends asked

theorem failure_position_name :
    let turns : List (Turn (List Answer)) :=
      [⟨Resolver.scripted, .next⟩, ⟨Resolver.scripted, .take none⟩]
    let state : List Answer := [.ok .unhandled, .ok (.replaced "1"), .error (.message "no")]
    let error : LineError := .resolver (.message "no")
    let session := (Reader.ofLine "a`c` :n:m \"b").play turns state
    error ∈ session.result.flatMap Delivery.errors ∧
    session.events.getLast? = some (.abandoned error 3) ∧
    ∃ read, "a`c` :n:m \"b".toList = read ++ " \"b".toList ∧ ":m".toList <:+ read := by
  intro turns state error session
  have reported : error ∈ session.result.flatMap Delivery.errors := by decide +kernel
  have unread : session.reader.unread = " \"b".toList := by decide +kernel
  have last : ((Reader.ofLine "a`c` :n:m \"b").lookupsPlayed turns state).getLast? =
      some (.value "m" .bare) := by decide +kernel
  obtain ⟨read, whole, told, _, _, refused⟩ := failure_position _ turns state error reported
  rw [unread] at whole told
  obtain ⟨turn, _, lookup, before, invocations, _, asked, written, _⟩ := refused _ rfl
  obtain rfl : Lookup.value "m" .bare = lookup := Option.some.inj (last.symm.trans asked)
  exact ⟨reported, told, read, whole, written⟩

end StatementLine
