import StatementLine.Reader

/-!
Operations on one reader, one after the other. Each has a resolver of its own, and the state that
one leaves is handed on to the next.
-/

universe u

namespace StatementLine

inductive Operation where
  | next
  | all
  | take (limit : Option Nat)
deriving Repr, DecidableEq

inductive Delivery where
  | next (result : Except LineError (Option String))
  | all (result : Except LineError (List String))
  | take (taken : Taken)

def Operation.wanted : Operation → Option Nat
  | .next => some 1
  | .all => none
  | .take limit => limit

def collect : List (Except LineError String) → Except LineError (List String)
  | [] => .ok []
  | .error error :: _ => .error error
  | .ok token :: later => (collect later).map (token :: ·)

def Operation.deliver : Operation → Taken → Delivery
  | .next, ⟨[], _⟩ => .next (.ok none)
  | .next, ⟨item :: _, _⟩ => .next (item.map some)
  | .all, taken => .all (collect taken.items)
  | .take _, taken => .take taken

structure Turn (σ : Type u) where
  resolver : Resolver σ
  operation : Operation

def Turn.recorded {σ : Type u} (turn : Turn σ) : Turn (σ × List Lookup) :=
  { turn with resolver := turn.resolver.recorded }

theorem Step.after_after {σ : Type u} {α β γ : Type} (step : Step σ α) (events later : List Event)
    (first : α → β) (second : β → γ) :
    (step.after later first).after events second = step.after (events ++ later) (second ∘ first) := by
  simp [Step.after]

namespace Reader

variable {σ : Type u}

def perform (turn : Turn σ) (reader : Reader) (state : σ) : Step σ Delivery :=
  match turn.operation with
  | .next => (reader.next turn.resolver state).after [] .next
  | .all => (reader.all turn.resolver state).after [] .all
  | .take limit => (reader.take turn.resolver limit state).after [] .take

/-- Takes turns on a reader. Gives what they deliver, in order, and what they leave behind. -/
def play : List (Turn σ) → Reader → σ → Step σ (List Delivery)
  | [], reader, state => ⟨[], reader, state, []⟩
  | turn :: later, reader, state =>
      let first := reader.perform turn state
      (play later first.reader first.state).after first.events (first.result :: ·)

def lookupsPlayed (turns : List (Turn σ)) (reader : Reader) (state : σ) : List Lookup :=
  (reader.play (turns.map Turn.recorded) (state, [])).state.2

theorem next_cases (resolver : Resolver σ) (reader : Reader) (state : σ) :
    (∃ token later after events,
      reader.next resolver state = ⟨.ok (some token), later, after, events⟩ ∧
        reader.finished = false ∧ later.finished = false) ∨
    (∃ error later after events,
      reader.next resolver state = ⟨.error error, later, after, events⟩ ∧
        reader.finished = false ∧ later.finished = true) ∨
    (∃ later, reader.next resolver state = ⟨.ok none, later, state, []⟩ ∧ later.finished = true) := by
  obtain ⟨line, unread, finished⟩ := reader
  cases finished with
  | true => exact .inr (.inr ⟨_, next_finished resolver ⟨line, unread, true⟩ state rfl, rfl⟩)
  | false =>
      cases start : unread.dropWhile isBlank with
      | nil => exact .inr (.inr ⟨_, next_end resolver line unread state start, rfl⟩)
      | cons first rest =>
          rcases reading : readToken resolver (first :: rest) state with
            ⟨error | token, left, after, events⟩
          · exact .inr (.inl ⟨_, _, _, _, next_error resolver line unread rest left first state after
              error events start reading, rfl, rfl⟩)
          · exact .inl ⟨_, _, _, _, next_token resolver line unread rest left first state after
              token events start reading, rfl, rfl⟩

theorem next_error_finishes {resolver : Resolver σ} {reader later : Reader} {state after : σ}
    {error : LineError} {events : List Event}
    (found : reader.next resolver state = ⟨.error error, later, after, events⟩) :
    reader.finished = false ∧ later.finished = true := by
  rcases reader.next_cases resolver state with ⟨_, _, _, _, other, _⟩ |
    ⟨_, _, _, _, other, finishes⟩ | ⟨_, other, _⟩
  · simp [other] at found
  · rw [other] at found
    cases found
    exact finishes
  · simp [other] at found

theorem next_token_unfinished {resolver : Resolver σ} {reader later : Reader} {state after : σ}
    {token : String} {events : List Event}
    (found : reader.next resolver state = ⟨.ok (some token), later, after, events⟩) :
    reader.finished = false ∧ later.finished = false := by
  rcases reader.next_cases resolver state with ⟨_, _, _, _, other, goesOn⟩ |
    ⟨_, _, _, _, other, _⟩ | ⟨_, other, _⟩
  · rw [other] at found
    cases found
    exact goesOn
  · simp [other] at found
  · simp [other] at found

theorem next_end_finished {resolver : Resolver σ} {reader later : Reader} {state after : σ}
    {events : List Event} (found : reader.next resolver state = ⟨.ok none, later, after, events⟩) :
    later.finished = true := by
  rcases reader.next_cases resolver state with ⟨_, _, _, _, other, _⟩ |
    ⟨_, _, _, _, other, _⟩ | ⟨_, other, finished⟩
  · simp [other] at found
  · simp [other] at found
  · rw [other] at found
    cases found
    exact finished

theorem take_finished (resolver : Resolver σ) (limit : Option Nat) (reader : Reader) (state : σ)
    (finished : reader.finished = true) :
    reader.take resolver limit state = ⟨⟨[], limit.all (0 < ·)⟩, reader, state, []⟩ := by
  have nothing := next_finished resolver reader state finished
  cases limit with
  | none => exact take_end resolver none reader reader state state [] (by simp) nothing
  | some count =>
      cases count with
      | zero => exact take_zero resolver reader state
      | succ count =>
          exact take_end resolver (some (count + 1)) reader reader state state [] (by simp) nothing

theorem next_eq_take (resolver : Resolver σ) (reader : Reader) (state : σ) :
    (reader.next resolver state).after [] Delivery.next =
      (reader.take resolver (some 1) state).after [] Operation.next.deliver := by
  rcases reader.next_cases resolver state with ⟨token, later, after, events, found, _⟩ |
    ⟨error, later, after, events, found, _⟩ | ⟨later, found, _⟩
  · rw [found, take_token resolver _ _ _ _ _ _ _ (by simp) found]
    simp [Step.after, take_zero, Taken.cons, Operation.deliver, Except.map]
  · rw [found, take_error resolver _ _ _ _ _ _ _ (by simp) found]
    simp [Step.after, take_zero, Taken.cons, Operation.deliver, Except.map]
  · rw [found, take_end resolver _ _ _ _ _ _ (by simp) found]
    rfl

theorem all_eq_take (resolver : Resolver σ) (reader : Reader) (state : σ) :
    reader.all resolver state =
      (reader.take resolver none state).after [] fun taken => collect taken.items := by
  fun_induction reader.all resolver state with
  | case1 reader state error later after events found =>
      rw [take_error resolver _ _ _ _ _ _ _ (by simp) found, Option.map_none,
        take_finished resolver _ _ _ (next_error_finishes found).2]
      simp [Step.after, Taken.cons, collect]
  | case2 reader state later after events found =>
      rw [take_end resolver _ _ _ _ _ _ (by simp) found]
      rfl
  | case3 reader state token later after events found ih =>
      rw [take_token resolver _ _ _ _ _ _ _ (by simp) found, Option.map_none, ih,
        Step.after_after, Step.after_after, List.append_nil, List.nil_append]
      rfl

theorem perform_eq_take (turn : Turn σ) (reader : Reader) (state : σ) :
    reader.perform turn state =
      (reader.take turn.resolver turn.operation.wanted state).after [] turn.operation.deliver := by
  obtain ⟨resolver, operation⟩ := turn
  cases operation with
  | next => exact reader.next_eq_take resolver state
  | all =>
      simp only [perform, all_eq_take, Step.after_after, List.append_nil]
      rfl
  | take limit => rfl

/-- What `next` keeps is kept by taking any number of results. -/
theorem take_preserves {resolver : Resolver σ} {holds : Reader → σ → Prop}
    (each : ∀ reader state, holds reader state →
      holds (reader.next resolver state).reader (reader.next resolver state).state)
    (limit : Option Nat) {reader : Reader} {state : σ} (start : holds reader state) :
    holds (reader.take resolver limit state).reader (reader.take resolver limit state).state := by
  fun_induction reader.take resolver limit state with
  | case1 => exact start
  | case2 limit reader state more error later after events found ih =>
      have kept := each reader state start
      rw [found] at kept
      exact ih kept
  | case3 limit reader state more later after events found =>
      have kept := each reader state start
      rw [found] at kept
      exact kept
  | case4 limit reader state more token later after events found ih =>
      have kept := each reader state start
      rw [found] at kept
      exact ih kept

theorem play_preserves {holds : Reader → σ → Prop} (turns : List (Turn σ))
    (each : ∀ turn ∈ turns, ∀ reader state, holds reader state →
      holds (reader.next turn.resolver state).reader (reader.next turn.resolver state).state)
    {reader : Reader} {state : σ} (start : holds reader state) :
    holds (reader.play turns state).reader (reader.play turns state).state := by
  induction turns generalizing reader state with
  | nil => exact start
  | cons turn later ih =>
      have kept := take_preserves (each turn List.mem_cons_self) turn.operation.wanted start
      rw [play, perform_eq_take]
      exact ih (fun other member => each other (List.mem_cons_of_mem turn member)) kept

end Reader

end StatementLine
