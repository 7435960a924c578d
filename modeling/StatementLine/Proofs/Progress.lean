import Mathlib.Data.List.TakeWhile
import StatementLine.Proofs.Finishing
import StatementLine.Proofs.Resumption

/-!
How far a line can go. Every segment takes characters of the line, one with a lookup at least two, and
tokens have white space between them. `line_is_bounded` says what follows for operations in any order:
how many tokens they give, how many lookups they make, and that a line comes to an end.
-/

universe u

namespace StatementLine

variable {σ : Type u}

theorem ReferenceForm.one_le_length_opening (form : ReferenceForm) : 1 ≤ form.opening.length := by
  cases form <;> simp [opening]

theorem Reference.StandsBefore.two_le_length_source {reference : Reference} {rest : List Char}
    (stands : reference.StandsBefore rest) : 2 ≤ reference.source.toList.length := by
  have opening := reference.form.one_le_length_opening
  have named : 1 ≤ reference.name.toList.length := by
    refine List.length_pos_iff.mpr fun nothing => ?_
    have accepted := stands.1
    rw [nothing] at accepted
    cases accepted
  simp only [Reference.source, String.toList_append, String.toList_ofList, List.length_append]
  omega

theorem QuotedSpan.two_le_length_source (span : QuotedSpan) : 2 ≤ span.source.toList.length := by
  simp only [source, String.toList_append, String.toList_singleton, List.length_append,
    List.length_singleton]
  omega

namespace Segment

theorem StandsBefore.two_le_length_source {segment : Segment} {rest : List Char}
    (stands : segment.StandsBefore rest) (asks : segment.lookup? ≠ none) :
    2 ≤ segment.source.toList.length := by
  cases stands with
  | literal => exact absurd rfl asks
  | quoted content closes => exact QuotedSpan.two_le_length_source _
  | reference stands => exact stands.two_le_length_source

theorem read_takes {input rest : List Char} {segment : Segment}
    (found : read input = .segment segment rest) :
    rest.length + 1 ≤ input.length ∧ (segment.lookup? ≠ none → rest.length + 2 ≤ input.length) := by
  refine ⟨read_shortens input rest segment found, fun asks => ?_⟩
  obtain ⟨cut, stands⟩ := (read_eq_segment_iff input rest segment).mp found
  have long := stands.two_le_length_source asks
  rw [cut, List.length_append]
  omega

theorem contribute_recorded (resolver : Resolver σ) (segment : Segment) (state : σ)
    (noted : List Lookup) :
    (segment.contribute resolver.recorded (state, noted)).state.2 =
      noted ++ segment.lookup?.toList := by
  cases found : segment.lookup? with
  | none => simp [contribute, found]
  | some lookup =>
      rcases reply : resolver lookup state with ⟨error | (text | _), invocations, after⟩ <;>
        simp [contribute, found, Resolver.recorded, reply]

theorem contribute_pays {resolver : Resolver σ} {input rest : List Char} {segment : Segment}
    {state : σ} {noted : List Lookup} {added : Contribution (σ × List Lookup)}
    (found : read input = .segment segment rest)
    (contributed : segment.contribute resolver.recorded (state, noted) = added) :
    2 * added.state.2.length + rest.length ≤ 2 * noted.length + input.length := by
  obtain ⟨shorter, muchShorter⟩ := read_takes found
  have grown := segment.contribute_recorded resolver state noted
  rw [contributed] at grown
  rw [grown, List.length_append]
  cases asked : segment.lookup? with
  | none =>
      simp only [Option.toList_none, List.length_nil]
      omega
  | some lookup =>
      have two := muchShorter (by simp [asked])
      simp only [Option.toList_some, List.length_singleton]
      omega

end Segment

theorem readToken_pays (resolver : Resolver σ) (input : List Char) (start : σ × List Lookup) :
    let reading := readToken resolver.recorded input start
    2 * reading.state.2.length + reading.unread.length ≤ 2 * start.2.length + input.length := by
  intro reading
  fun_induction readToken resolver.recorded input start with
  | case1 input start boundary => exact Nat.le_refl _
  | case2 input start error unread failed =>
      exact Nat.add_le_add_left (Segment.unread_suffix failed).length_le _
  | case3 input start segment rest found error events after refused =>
      exact Segment.contribute_pays found refused
  | case4 input start segment rest found text events after added ih =>
      exact Nat.le_trans ih (Segment.contribute_pays found added)

def Taken.tokens (taken : Taken) : List String :=
  taken.items.filterMap Except.toOption

def Delivery.tokens : Delivery → List String
  | .next (.ok token?) => token?.toList
  | .next (.error _) => []
  | .all (.ok tokens) => tokens
  | .all (.error _) => []
  | .take taken => taken.tokens

theorem collect_eq_ok {items : List (Except LineError String)} {tokens : List String}
    (complete : collect items = .ok tokens) : items.filterMap Except.toOption = tokens := by
  induction items generalizing tokens with
  | nil => cases complete; rfl
  | cons item later ih =>
      cases item with
      | error error => cases complete
      | ok token =>
          cases rest : collect later with
          | error error => simp [collect, rest, Except.map] at complete
          | ok others =>
              simp only [collect, rest, Except.map, Except.ok.injEq] at complete
              have head : (Except.ok token : Except LineError String).toOption = some token := rfl
              rw [List.filterMap_cons_some head, ih rest, complete]

theorem Operation.deliver_tokens_le (operation : Operation) (taken : Taken) :
    (operation.deliver taken).tokens.length ≤ taken.tokens.length := by
  obtain ⟨items, ended⟩ := taken
  cases operation with
  | next =>
      cases items with
      | nil => exact Nat.le_refl 0
      | cons item later =>
          cases item <;> simp [deliver, Delivery.tokens, Taken.tokens, Except.map, Except.toOption]
  | all =>
      cases collected : collect items with
      | error error => simp [deliver, Delivery.tokens, collected]
      | ok tokens => simp [deliver, Delivery.tokens, Taken.tokens, collected, collect_eq_ok collected]
  | take limit => exact Nat.le_refl _

namespace Reader

/-- The characters in which tokens can still stand, with one more where no white space is needed in
front of the next token. -/
def room (reader : Reader) : Nat :=
  if reader.finished then 0
  else if reader.unread.head?.all isBlank then reader.unread.length
  else reader.unread.length + 1

theorem room_finished {reader : Reader} (finished : reader.finished = true) : reader.room = 0 :=
  if_pos finished

theorem room_boundary {reader : Reader} (boundary : AtBoundary reader.unread) :
    reader.room ≤ reader.unread.length := by
  have blank : reader.unread.head?.all isBlank = true := by
    cases head : reader.unread.head? with
    | none => rfl
    | some c => exact boundary c head
  cases finished : reader.finished with
  | true => rw [room_finished finished]; exact Nat.zero_le _
  | false => simp [room, finished, blank]

theorem room_le (reader : Reader) : reader.room ≤ reader.unread.length + 1 := by
  unfold room
  split
  · exact Nat.zero_le _
  split
  · exact Nat.le_succ _
  · exact Nat.le_refl _

theorem next_token_reads {resolver : Resolver σ} {reader later : Reader} {state after : σ}
    {token : String} {events : List Event}
    (found : reader.next resolver state = ⟨.ok (some token), later, after, events⟩) :
    ∃ first rest told, reader.unread.dropWhile isBlank = first :: rest ∧
      readToken resolver (first :: rest) state = ⟨.ok token, later.unread, after, told⟩ := by
  obtain ⟨line, input, finished⟩ := reader
  obtain rfl : finished = false := (next_token_unfinished found).1
  cases start : input.dropWhile isBlank with
  | nil =>
      rw [next_end resolver line input state start] at found
      cases found
  | cons first rest =>
      rcases reading : readToken resolver (first :: rest) state with
        ⟨error | other, unread, left, told⟩
      · rw [next_error resolver line input rest unread first state left error told start
          reading] at found
        cases found
      · rw [next_token resolver line input rest unread first state left other told start
          reading] at found
        cases found
        exact ⟨first, rest, told, rfl, reading⟩

theorem start_room {reader : Reader} {first : Char} {rest : List Char}
    (unfinished : reader.finished = false)
    (start : reader.unread.dropWhile isBlank = first :: rest) :
    (first :: rest).length + 1 ≤ reader.room := by
  obtain ⟨line, input, finished⟩ := reader
  subst unfinished
  cases input with
  | nil => cases start
  | cons c later =>
      simp only at start
      cases blank : isBlank c with
      | true =>
          rw [List.dropWhile_cons_of_pos blank] at start
          have shorter := (List.dropWhile_suffix (l := later) isBlank).length_le
          rw [start] at shorter
          simpa [room, blank] using shorter
      | false =>
          rw [List.dropWhile_cons_of_neg (by simp [blank])] at start
          simp [← start, room, blank]

theorem next_token_room {resolver : Resolver σ} {reader later : Reader} {state after : σ}
    {token : String} {events : List Event}
    (found : reader.next resolver state = ⟨.ok (some token), later, after, events⟩) :
    later.unread.length < reader.unread.length ∧ later.room + 2 ≤ reader.room := by
  obtain ⟨first, rest, told, start, reading⟩ := next_token_reads found
  have text : isBlank first = false := by
    simpa [start] using List.head?_dropWhile_not isBlank reader.unread
  have shorter := readToken_shortens resolver first rest state token text (by rw [reading])
  rw [reading] at shorter
  have skipped := (List.dropWhile_suffix (l := reader.unread) isBlank).length_le
  rw [start] at skipped
  have ends : AtBoundary later.unread := by
    have given : AtBoundary (reader.next resolver state).reader.unread :=
      next_token_ends (by rw [found])
    rwa [found] at given
  have left := room_boundary ends
  have enough := start_room (next_token_unfinished found).1 start
  simp only at shorter
  omega

theorem take_room (resolver : Resolver σ) (limit : Option Nat) (reader : Reader) (state : σ) :
    let step := reader.take resolver limit state
    2 * step.result.tokens.length + step.reader.room ≤ reader.room := by
  intro step
  fun_induction reader.take resolver limit state with
  | case1 reader state => simp [step, Taken.tokens]
  | case2 limit reader state more error later after events found ih =>
      have finished := (next_error_finishes found).2
      have nothing := take_finished resolver (limit.map (· - 1)) later after finished
      simp [step, nothing, Step.after, Taken.cons, Taken.tokens, List.filterMap_cons,
        Except.toOption, room_finished finished]
  | case3 limit reader state more later after events found =>
      have finished := next_end_finished found
      simp [step, Taken.tokens, room_finished finished]
  | case4 limit reader state more token later after events found ih =>
      have spent := (next_token_room found).2
      simp only [step, Step.after, Taken.cons, Taken.tokens, List.filterMap_cons, Except.toOption,
        List.length_cons] at ih ⊢
      omega

theorem play_room (turns : List (Turn σ)) (reader : Reader) (state : σ) :
    let session := reader.play turns state
    2 * (session.result.flatMap Delivery.tokens).length + session.reader.room ≤ reader.room := by
  induction turns generalizing reader state with
  | nil => simp [play]
  | cons turn later ih =>
      have first := reader.take_room turn.resolver turn.operation.wanted state
      have given := turn.operation.deliver_tokens_le
        (reader.take turn.resolver turn.operation.wanted state).result
      have rest := ih (reader.take turn.resolver turn.operation.wanted state).reader
        (reader.take turn.resolver turn.operation.wanted state).state
      rw [play, perform_eq_take]
      simp only [Step.after, List.flatMap_cons, List.length_append] at rest ⊢
      omega

theorem nexts_finish (resolvers : List (Resolver σ)) {reader : Reader} (state : σ)
    (enough : reader.room < 2 * resolvers.length) :
    (reader.play (resolvers.map (Turn.mk · .next)) state).reader.finished = true := by
  induction resolvers generalizing reader state with
  | nil => exact absurd enough (Nat.not_lt_zero _)
  | cons resolver others ih =>
      rw [List.length_cons] at enough
      rw [List.map_cons, play]
      simp only [perform, Step.after]
      rcases reader.next_cases resolver state with ⟨token, later, after, events, found, _⟩ |
        ⟨error, later, after, events, found, _, finished⟩ | ⟨later, found, finished⟩
      · have spent := (next_token_room found).2
        have left : later.room < 2 * others.length := by omega
        rw [found]
        exact ih after left
      · rw [found, play_finished _ later after finished]
        exact finished
      · rw [found, play_finished _ later state finished]
        exact finished

theorem take_all_ends (resolver : Resolver σ) (reader : Reader) (state : σ) :
    let step := reader.take resolver none state
    step.result.ended = true ∧ step.reader.finished = true := by
  intro step
  have ended : step.result.ended = true := by rw [(reader.take_reads resolver none state).1]; rfl
  refine ⟨ended, ?_⟩
  rw [(reader.take_finishes resolver none state).1, Taken.stops, ended, Bool.true_or, Bool.or_true]

theorem all_ends (resolver : Resolver σ) (reader : Reader) (state : σ) :
    (reader.all resolver state).reader.finished = true := by
  rw [all_eq_take]
  exact (reader.take_all_ends resolver state).2

def Paid (length : Nat) (reader : Reader) (state : σ × List Lookup) : Prop :=
  2 * state.2.length + reader.unread.length ≤ length

theorem next_paid {length : Nat} (resolver : Resolver σ) (reader : Reader)
    (state : σ × List Lookup) (paid : Paid length reader state) :
    Paid length (reader.next resolver.recorded state).reader
      (reader.next resolver.recorded state).state := by
  obtain ⟨line, input, finished⟩ := reader
  unfold Paid at *
  cases finished with
  | true =>
      rw [next_finished resolver.recorded _ state rfl]
      exact paid
  | false =>
      cases start : input.dropWhile isBlank with
      | nil =>
          rw [next_end resolver.recorded line input state start]
          exact Nat.le_trans (Nat.add_le_add_left (Nat.zero_le _) _) paid
      | cons first rest =>
          have pays := readToken_pays resolver (first :: rest) state
          have skipped := (List.dropWhile_suffix (l := input) isBlank).length_le
          rw [start] at skipped
          rcases reading : readToken resolver.recorded (first :: rest) state with
            ⟨error | token, unread, after, events⟩
          · rw [reading] at pays
            rw [next_error resolver.recorded line input rest unread first state after error events
              start reading]
            simp only at paid pays ⊢
            omega
          · rw [reading] at pays
            rw [next_token resolver.recorded line input rest unread first state after token events
              start reading]
            simp only at paid pays ⊢
            omega

theorem lookupsPlayed_paid (turns : List (Turn σ)) (line : String) (state : σ) :
    2 * ((Reader.ofLine line).lookupsPlayed turns state).length ≤ line.toList.length := by
  have start : Paid line.toList.length (Reader.ofLine line) (state, []) := by
    simp [Paid, Reader.ofLine]
  have each : ∀ turn ∈ turns.map Turn.recorded, ∀ reader state, Paid line.toList.length reader state →
      Paid line.toList.length (reader.next turn.resolver state).reader
        (reader.next turn.resolver state).state := by
    intro turn member reader state paid
    obtain ⟨plain, _, rfl⟩ := List.mem_map.mp member
    exact next_paid plain.resolver reader state paid
  exact Nat.le_trans (Nat.le_add_right _ _) (play_preserves (turns.map Turn.recorded) each start)

theorem next_none_iff (resolver : Resolver σ) (line : String) (state : σ) :
    ((Reader.ofLine line).next resolver state).result = .ok none ↔
      ∀ c ∈ line.toList, isBlank c = true := by
  rw [← List.dropWhile_eq_nil_iff]
  cases start : line.toList.dropWhile isBlank with
  | nil => simp [Reader.ofLine, next_end resolver line line.toList state start]
  | cons first rest =>
      rcases reading : readToken resolver (first :: rest) state with
        ⟨error | token, unread, after, events⟩
      · simp [Reader.ofLine, next_error resolver line line.toList rest unread first state after error
          events start reading]
      · simp [Reader.ofLine, next_token resolver line line.toList rest unread first state after token
          events start reading]

theorem all_nothing_iff (resolver : Resolver σ) (reader : Reader) (state : σ) :
    (reader.all resolver state).result = .ok [] ↔ (reader.next resolver state).result = .ok none := by
  rcases reader.next_cases resolver state with ⟨token, later, after, events, found, _⟩ |
    ⟨error, later, after, events, found, _⟩ | ⟨later, found, _⟩
  · rw [all_token resolver _ _ _ _ _ _ found, found]
    simp only [Step.after]
    cases (later.all resolver after).result <;> simp [Except.map]
  · simp [all_error resolver _ _ _ _ _ _ found, found]
  · simp [all_end resolver _ _ _ _ _ found, found]

end Reader

/-- Every token that is read moves the reader forward, every segment takes a character and one with a
lookup two, and every line comes to an end. So however a line of `length` characters is read, to its
end or to a failure, it gives at most half of `length + 1` tokens and makes at most half of `length`
lookups. It gives none at all exactly if it is all white space. -/
theorem line_is_bounded (line : String) (turns : List (Turn σ)) (state : σ) :
    let fresh := Reader.ofLine line
    let length := line.toList.length
    let session := fresh.play turns state
    (∀ (resolver : Resolver σ) (other : σ) (token : String),
      let step := session.reader.next resolver other
      step.result = .ok (some token) → session.reader.position + 1 ≤ step.reader.position) ∧
    (∀ (input rest : List Char) (segment : Segment), Segment.read input = .segment segment rest →
      rest.length + 1 ≤ input.length ∧ (segment.lookup? ≠ none → rest.length + 2 ≤ input.length)) ∧
    (∀ (resolver : Resolver σ) (other : σ),
      (session.reader.all resolver other).reader.finished = true ∧
      (session.reader.take resolver none other).reader.finished = true ∧
      (session.reader.take resolver none other).result.ended = true) ∧
    (∀ resolvers : List (Resolver σ), (length + 1) / 2 < resolvers.length →
      (fresh.play (resolvers.map (Turn.mk · .next)) state).reader.finished = true) ∧
    (session.result.flatMap Delivery.tokens).length ≤ (length + 1) / 2 ∧
    (fresh.lookupsPlayed turns state).length ≤ length / 2 ∧
    ∀ resolver : Resolver σ,
      ((fresh.next resolver state).result = .ok none ↔ ∀ c ∈ line.toList, isBlank c = true) ∧
      ((split resolver line state).result = .ok [] ↔ ∀ c ∈ line.toList, isBlank c = true) := by
  intro fresh length session
  have room : fresh.room ≤ length + 1 := fresh.room_le
  refine ⟨?_, fun input rest segment => Segment.read_takes, ?_, ?_, ?_, ?_, ?_⟩
  · intro resolver other token step given
    have within : Reader.Within line session.reader := Reader.play_within line turns state
    rcases found : session.reader.next resolver other with ⟨result, later, after, events⟩
    have laterWithin : Reader.Within line later := by
      have kept := Reader.next_within resolver session.reader other within
      rwa [found] at kept
    simp only [step, found] at given ⊢
    subst given
    have shorter := (Reader.next_token_room found).1
    have inside := within.suffix.length_le
    simp only [Reader.position, within.ofLine, laterWithin.ofLine]
    omega
  · intro resolver other
    obtain ⟨ended, finished⟩ := session.reader.take_all_ends resolver other
    exact ⟨session.reader.all_ends resolver other, finished, ended⟩
  · intro resolvers many
    exact fresh.nexts_finish resolvers state (by omega)
  · have spent : 2 * (session.result.flatMap Delivery.tokens).length + session.reader.room ≤
        fresh.room := fresh.play_room turns state
    omega
  · have paid : 2 * (fresh.lookupsPlayed turns state).length ≤ length :=
      Reader.lookupsPlayed_paid turns line state
    omega
  · intro resolver
    have first := Reader.next_none_iff resolver line state
    exact ⟨first, (fresh.all_nothing_iff resolver state).trans first⟩

end StatementLine
