import StatementLine.Proofs.Inquiry
import StatementLine.Proofs.Recording

/-!
All ways of reading a line are views of one stream, the results that `next` gives again and again.
`operations_read_stream` says that operations in any order take this stream in turn, each from
where the one before it stopped.
-/

universe u

namespace StatementLine

variable {σ : Type u}

def upTo (limit : Option Nat) (stream : List (Except LineError String)) :
    List (Except LineError String) :=
  match limit with
  | none => stream
  | some count => stream.take count

def past (limit : Option Nat) (stream : List (Except LineError String)) :
    List (Except LineError String) :=
  match limit with
  | none => []
  | some count => stream.drop count

def takenFrom (limit : Option Nat) (stream : List (Except LineError String)) : Taken :=
  ⟨upTo limit stream, limit.all ((upTo limit stream).length < ·)⟩

def readOff : List Operation → List (Except LineError String) →
    List Delivery × List (Except LineError String)
  | [], stream => ([], stream)
  | operation :: later, stream =>
      let rest := readOff later (past operation.wanted stream)
      (operation.deliver (takenFrom operation.wanted stream) :: rest.1, rest.2)

theorem upTo_append_past (limit : Option Nat) (stream : List (Except LineError String)) :
    upTo limit stream ++ past limit stream = stream := by
  cases limit with
  | none => exact List.append_nil stream
  | some count => exact List.take_append_drop count stream

theorem readOff_parts (operations : List Operation) (stream : List (Except LineError String)) :
    ∃ parts : List Taken, parts.length = operations.length ∧
      (readOff operations stream).1 = List.zipWith Operation.deliver operations parts ∧
      parts.flatMap Taken.items ++ (readOff operations stream).2 = stream := by
  induction operations generalizing stream with
  | nil => exact ⟨[], rfl, rfl, rfl⟩
  | cons operation later ih =>
      obtain ⟨parts, length, deliveries, whole⟩ := ih (past operation.wanted stream)
      refine ⟨takenFrom operation.wanted stream :: parts, ?_, ?_, ?_⟩
      · rw [List.length_cons, List.length_cons, length]
      · rw [List.zipWith_cons_cons, ← deliveries]
        rfl
      · rw [List.flatMap_cons, List.append_assoc]
        exact (congrArg _ whole).trans (upTo_append_past operation.wanted stream)

theorem takenFrom_cons {limit : Option Nat} (more : limit ≠ some 0)
    (item : Except LineError String) (later : List (Except LineError String)) :
    takenFrom limit (item :: later) = (takenFrom (limit.map (· - 1)) later).cons item := by
  cases limit with
  | none => rfl
  | some count =>
      cases count with
      | zero => contradiction
      | succ count => simp [takenFrom, upTo, Taken.cons]

theorem past_cons {limit : Option Nat} (more : limit ≠ some 0) (item : Except LineError String)
    (later : List (Except LineError String)) :
    past limit (item :: later) = past (limit.map (· - 1)) later := by
  cases limit with
  | none => rfl
  | some count =>
      cases count with
      | zero => contradiction
      | succ count => rfl

theorem takenFrom_nil {limit : Option Nat} (more : limit ≠ some 0) :
    takenFrom limit [] = ⟨[], true⟩ := by
  cases limit with
  | none => rfl
  | some count =>
      have positive : 0 < count := Nat.pos_of_ne_zero fun zero => more (by rw [zero])
      simp [takenFrom, upTo, positive]

theorem past_nil (limit : Option Nat) : past limit [] = [] := by
  cases limit with
  | none => rfl
  | some count => exact List.drop_nil

namespace Reader

/-- The results of `next`, again and again up to the end of the line. -/
def results (resolver : Resolver σ) (reader : Reader) (state : σ) :
    List (Except LineError String) :=
  match _found : reader.next resolver state with
  | ⟨.error error, later, after, _⟩ => .error error :: later.results resolver after
  | ⟨.ok none, _, _, _⟩ => []
  | ⟨.ok (some token), later, after, _⟩ => .ok token :: later.results resolver after
termination_by reader.remaining
decreasing_by all_goals exact next_remaining resolver reader _ _ _found (by simp)

theorem results_end (resolver : Resolver σ) (reader later : Reader) (state after : σ)
    (events : List Event) (found : reader.next resolver state = ⟨.ok none, later, after, events⟩) :
    reader.results resolver state = [] := by
  rw [results]
  split <;> simp_all

theorem results_finished (resolver : Resolver σ) (reader : Reader) (state : σ)
    (finished : reader.finished = true) : reader.results resolver state = [] :=
  results_end resolver reader _ state _ _ (next_finished resolver reader state finished)

theorem results_error (resolver : Resolver σ) (reader later : Reader) (state after : σ)
    (error : LineError) (events : List Event)
    (found : reader.next resolver state = ⟨.error error, later, after, events⟩) :
    reader.results resolver state = [.error error] := by
  have stopped := results_finished resolver later after (next_error_finishes found).2
  rw [results]
  split <;> simp_all

theorem results_token (resolver : Resolver σ) (reader later : Reader) (state after : σ)
    (token : String) (events : List Event)
    (found : reader.next resolver state = ⟨.ok (some token), later, after, events⟩) :
    reader.results resolver state = .ok token :: later.results resolver after := by
  rw [results]
  split <;> simp_all

theorem take_reads (resolver : Resolver σ) (limit : Option Nat) (reader : Reader) (state : σ) :
    (reader.take resolver limit state).result = takenFrom limit (reader.results resolver state) ∧
      (reader.take resolver limit state).reader.results resolver
          (reader.take resolver limit state).state =
        past limit (reader.results resolver state) := by
  fun_induction reader.take resolver limit state with
  | case1 reader state => exact ⟨rfl, rfl⟩
  | case2 limit reader state more error later after events found ih =>
      obtain ⟨result, left⟩ := ih
      have stopped := results_finished resolver later after (next_error_finishes found).2
      rw [results_error resolver reader later state after error events found, takenFrom_cons more,
        past_cons more]
      rw [stopped] at result left
      exact ⟨congrArg (Taken.cons (.error error)) result, left⟩
  | case3 limit reader state more later after events found =>
      have finished := next_end_finished found
      rw [results_end resolver reader later state after events found, takenFrom_nil more, past_nil]
      exact ⟨rfl, results_finished resolver later after finished⟩
  | case4 limit reader state more token later after events found ih =>
      obtain ⟨result, left⟩ := ih
      rw [results_token resolver reader later state after token events found, takenFrom_cons more,
        past_cons more]
      exact ⟨congrArg (Taken.cons (.ok token)) result, left⟩

theorem take_rest_state (resolver : Resolver σ) (limit : Option Nat) (reader : Reader) (state : σ) :
    ((reader.take resolver limit state).reader.take resolver none
        (reader.take resolver limit state).state).state =
      (reader.take resolver none state).state := by
  fun_induction reader.take resolver limit state with
  | case1 reader state => rfl
  | case2 limit reader state more error later after events found ih =>
      rw [take_error resolver none _ _ _ _ _ _ (by simp) found]
      exact ih
  | case3 limit reader state more later after events found =>
      rw [take_end resolver none _ _ _ _ _ (by simp) found,
        take_finished resolver none _ _ (next_end_finished found)]
  | case4 limit reader state more token later after events found ih =>
      rw [take_token resolver none _ _ _ _ _ _ (by simp) found]
      exact ih

theorem take_rest_of_results_nil {resolver : Resolver σ} {reader : Reader} {state : σ}
    (nothing : reader.results resolver state = []) :
    (reader.take resolver none state).state = state := by
  rcases reader.next_cases resolver state with ⟨token, later, after, events, found, _⟩ |
    ⟨error, later, after, events, found, _⟩ | ⟨later, found, _⟩
  · rw [results_token resolver _ _ _ _ _ _ found] at nothing
    cases nothing
  · rw [results_error resolver _ _ _ _ _ _ found] at nothing
    cases nothing
  · rw [take_end resolver none _ _ _ _ _ (by simp) found]

theorem perform_reads (resolver : Resolver σ) (operation : Operation) (reader : Reader) (state : σ) :
    let step := reader.perform ⟨resolver, operation⟩ state
    let stream := reader.results resolver state
    step.result = operation.deliver (takenFrom operation.wanted stream) ∧
      step.reader.results resolver step.state = past operation.wanted stream ∧
      (step.reader.take resolver none step.state).state = (reader.take resolver none state).state := by
  obtain ⟨result, left⟩ := reader.take_reads resolver operation.wanted state
  rw [perform_eq_take]
  exact ⟨congrArg operation.deliver result, left, reader.take_rest_state resolver operation.wanted state⟩

theorem play_reads (resolver : Resolver σ) (operations : List Operation) (reader : Reader)
    (state : σ) :
    let session := reader.play (operations.map (Turn.mk resolver)) state
    let served := readOff operations (reader.results resolver state)
    session.result = served.1 ∧ session.reader.results resolver session.state = served.2 ∧
      (session.reader.take resolver none session.state).state =
        (reader.take resolver none state).state := by
  induction operations generalizing reader state with
  | nil => exact ⟨rfl, rfl, rfl⟩
  | cons operation later ih =>
      obtain ⟨delivery, left, rest⟩ := reader.perform_reads resolver operation state
      obtain ⟨deliveries, laterLeft, laterRest⟩ := ih
        (reader.perform ⟨resolver, operation⟩ state).reader
        (reader.perform ⟨resolver, operation⟩ state).state
      rw [left] at deliveries laterLeft
      refine ⟨?_, laterLeft, laterRest.trans rest⟩
      simp only [List.map_cons, play, Step.after, readOff, delivery, deliveries]

theorem results_dropLast (resolver : Resolver σ) (reader : Reader) (state : σ) :
    ∀ item ∈ (reader.results resolver state).dropLast, ∃ token, item = .ok token := by
  fun_induction reader.results resolver state with
  | case1 reader state error later after events found =>
      rw [results_finished resolver later after (next_error_finishes found).2]
      simp
  | case2 => simp
  | case3 reader state token later after events found ih =>
      intro item member
      cases more : later.results resolver after with
      | nil => simp [more] at member
      | cons second others =>
          rw [more, List.dropLast_cons_cons] at member
          rcases List.mem_cons.mp member with rfl | inLater
          · exact ⟨token, rfl⟩
          · exact ih item (by rwa [more])

theorem results_follows {τ : Type u} {fine : Resolver τ} {coarse : Resolver σ} {part : τ → σ}
    (follows : fine.Follows coarse part) (reader : Reader) (state : τ) :
    reader.results coarse (part state) = reader.results fine state := by
  fun_induction reader.results fine state with
  | case1 reader state error later after events found ih =>
      have same := next_follows follows reader state
      rw [found] at same
      rw [results_error coarse reader later _ _ error events same,
        results_finished fine later after (next_error_finishes found).2]
  | case2 reader state later after events found =>
      have same := next_follows follows reader state
      rw [found] at same
      exact results_end coarse reader later _ _ events same
  | case3 reader state token later after events found ih =>
      have same := next_follows follows reader state
      rw [found] at same
      rw [results_token coarse reader later _ _ token events same, ih]

end Reader

theorem split_state_eq_take (resolver : Resolver σ) (line : String) (state : σ) :
    (split resolver line state).state = ((Reader.ofLine line).take resolver none state).state := by
  rw [split, Reader.all_eq_take]
  rfl

theorem play_state_eq_split {resolver : Resolver σ} {line : String} {operations : List Operation}
    {state : σ}
    (exhausted : (readOff operations ((Reader.ofLine line).results resolver state)).2 = []) :
    ((Reader.ofLine line).play (operations.map (Turn.mk resolver)) state).state =
      (split resolver line state).state := by
  obtain ⟨_, left, rest⟩ := (Reader.ofLine line).play_reads resolver operations state
  rw [Reader.take_rest_of_results_nil (left.trans exhausted)] at rest
  rw [rest, split_state_eq_take]

/-- Operations on a line, in any order, take the results of `next` in turn: each delivers its part
of them, and the parts make up the stream. If nothing of it is left, the resolver was asked what
splitting the line asks. -/
theorem operations_read_stream (resolver : Resolver σ) (line : String) (operations : List Operation)
    (state : σ) :
    let fresh := Reader.ofLine line
    let stream := fresh.results resolver state
    let turns := operations.map (Turn.mk resolver)
    let session := fresh.play turns state
    let served := readOff operations stream
    session.result = served.1 ∧
    session.reader.results resolver session.state = served.2 ∧
    (∃ parts : List Taken, parts.length = operations.length ∧
      served.1 = List.zipWith Operation.deliver operations parts ∧
      parts.flatMap Taken.items ++ served.2 = stream) ∧
    (∀ item ∈ stream.dropLast, ∃ token, item = .ok token) ∧
    (served.2 = [] → session.state = (split resolver line state).state ∧
      fresh.lookupsPlayed turns state = lookupsMade resolver line state) := by
  intro fresh stream turns session served
  obtain ⟨deliveries, left, _⟩ := fresh.play_reads resolver operations state
  refine ⟨deliveries, left, readOff_parts operations stream, fresh.results_dropLast resolver state, ?_⟩
  intro exhausted
  refine ⟨play_state_eq_split exhausted, ?_⟩
  have recordedTurns : turns.map Turn.recorded = operations.map (Turn.mk resolver.recorded) := by
    simp only [turns, List.map_map]
    rfl
  have same : fresh.results resolver.recorded (state, []) = stream :=
    (fresh.results_follows resolver.recorded_follows (state, [])).symm
  rw [Reader.lookupsPlayed, recordedTurns, lookupsMade,
    play_state_eq_split (by rw [same]; exact exhausted)]

end StatementLine
