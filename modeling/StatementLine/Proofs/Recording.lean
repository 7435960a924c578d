import StatementLine.Proofs.Schedule

/-!
What a resolver keeps beside the state of another one changes nothing. A resolver that answers as
another does, on a state that holds the other's, leads to the same results and the same trace.
-/

universe u v

namespace StatementLine

variable {σ : Type u} {τ : Type v}

/-- The first resolver answers as the second does, on states of which the second sees a part. -/
def Resolver.Follows (fine : Resolver τ) (coarse : Resolver σ) (part : τ → σ) : Prop :=
  ∀ lookup state, coarse lookup (part state) =
    ⟨(fine lookup state).answer, (fine lookup state).invocations, part (fine lookup state).state⟩

theorem Resolver.recorded_follows (resolver : Resolver σ) :
    resolver.recorded.Follows resolver Prod.fst := by
  intro lookup state
  rfl

def TokenReading.mapState (part : τ → σ) (reading : TokenReading τ) : TokenReading σ :=
  { reading with state := part reading.state }

def Step.map {α : Type} (view : Reader → Reader) (part : τ → σ) (step : Step τ α) : Step σ α :=
  ⟨step.result, view step.reader, part step.state, step.events⟩

def Step.mapState {α : Type} (part : τ → σ) (step : Step τ α) : Step σ α :=
  { step with state := part step.state }

section

variable {fine : Resolver τ} {coarse : Resolver σ} {part : τ → σ}

theorem Segment.contribute_follows (follows : fine.Follows coarse part) (segment : Segment)
    (state : τ) :
    segment.contribute coarse (part state) =
      { segment.contribute fine state with state := part (segment.contribute fine state).state } := by
  cases found : segment.lookup? with
  | none => simp only [contribute, found]
  | some lookup =>
      have same := follows lookup state
      rcases reply : fine lookup state with ⟨error | (text | _), invocations, after⟩
      · simp only [contribute, found, same, reply]
      · simp only [contribute, found, same, reply]
      · simp only [contribute, found, same, reply]

theorem readToken_follows (follows : fine.Follows coarse part) (input : List Char) (state : τ) :
    readToken coarse input (part state) = (readToken fine input state).mapState part := by
  fun_induction readToken fine input state with
  | case1 input state boundary => rw [readToken_boundary coarse input _ boundary]; rfl
  | case2 input state error unread failed =>
      rw [readToken_failed coarse input unread _ error failed]
      rfl
  | case3 input state segment rest found error events after refused =>
      have contributed := segment.contribute_follows follows state
      rw [refused] at contributed
      rw [readToken_refused coarse input rest _ _ segment error events found contributed]
      rfl
  | case4 input state segment rest found text events after added ih =>
      have contributed := segment.contribute_follows follows state
      rw [added] at contributed
      rw [readToken_segment coarse input rest _ _ segment text events found contributed, ih]
      rfl

namespace Reader

theorem next_follows (follows : fine.Follows coarse part) (reader : Reader) (state : τ) :
    reader.next coarse (part state) = (reader.next fine state).mapState part := by
  unfold next
  split
  · rfl
  split
  · rfl
  · rename_i first rest _
    rw [readToken_follows follows]
    rcases readToken fine (first :: rest) state with ⟨error | token, unread, after, events⟩
    · rfl
    · rfl

theorem take_map {view : Reader → Reader}
    (each : ∀ reader state,
      (view reader).next coarse (part state) = (reader.next fine state).map view part)
    (limit : Option Nat) (reader : Reader) (state : τ) :
    (view reader).take coarse limit (part state) = (reader.take fine limit state).map view part := by
  fun_induction reader.take fine limit state with
  | case1 reader state => exact (view reader).take_zero coarse _
  | case2 limit reader state more error later after events found ih =>
      have same := each reader state
      rw [found] at same
      rw [take_error coarse limit _ _ _ _ error events more same, ih]
      rfl
  | case3 limit reader state more later after events found =>
      have same := each reader state
      rw [found] at same
      exact take_end coarse limit _ _ _ _ events more same
  | case4 limit reader state more token later after events found ih =>
      have same := each reader state
      rw [found] at same
      rw [take_token coarse limit _ _ _ _ token events more same, ih]
      rfl

theorem perform_map {view : Reader → Reader}
    (each : ∀ reader state,
      (view reader).next coarse (part state) = (reader.next fine state).map view part)
    (operation : Operation) (reader : Reader) (state : τ) :
    (view reader).perform ⟨coarse, operation⟩ (part state) =
      (reader.perform ⟨fine, operation⟩ state).map view part := by
  rw [perform_eq_take, perform_eq_take, take_map each]
  rfl

theorem perform_follows (follows : fine.Follows coarse part) (operation : Operation)
    (reader : Reader) (state : τ) :
    reader.perform ⟨coarse, operation⟩ (part state) =
      (reader.perform ⟨fine, operation⟩ state).mapState part :=
  perform_map (next_follows follows) operation reader state

theorem play_recorded (turns : List (Turn σ)) (reader : Reader) (state : σ) (noted : List Lookup) :
    reader.play turns state =
      (reader.play (turns.map Turn.recorded) (state, noted)).mapState Prod.fst := by
  induction turns generalizing reader state noted with
  | nil => rfl
  | cons turn later ih =>
      have first : reader.perform turn state =
          (reader.perform turn.recorded (state, noted)).mapState Prod.fst :=
        reader.perform_follows turn.resolver.recorded_follows turn.operation (state, noted)
      simp only [List.map_cons, play, first]
      rcases reader.perform turn.recorded (state, noted) with ⟨delivery, left, after, events⟩
      rw [Step.mapState, ih left after.1 after.2]
      rfl

end Reader

end

end StatementLine
