import StatementLine.Proofs.Stream

/-!
How a reader is finished with its line. `line_fails_once` says that an error or the line's end
finishes it and nothing else does, that it reports one error at most, and that operations on a
finished reader give nothing, ask nothing and leave it as it is.
-/

universe u v

namespace StatementLine

variable {σ : Type u} {α : Type}

def failure? : Except LineError α → Option LineError
  | .error error => some error
  | .ok _ => none

def Taken.errors (taken : Taken) : List LineError :=
  taken.items.filterMap failure?

def Taken.stops (taken : Taken) : Bool :=
  taken.ended || !taken.errors.isEmpty

namespace Delivery

def errors : Delivery → List LineError
  | next result => (failure? result).toList
  | all result => (failure? result).toList
  | take taken => taken.errors

def stops : Delivery → Bool
  | next (.ok (some _)) => false
  | next (.ok none) => true
  | next (.error _) => true
  | all _ => true
  | take taken => taken.stops

end Delivery

def Operation.idle : Operation → Delivery
  | .next => .next (.ok none)
  | .all => .all (.ok [])
  | .take limit => .take ⟨[], limit.all (0 < ·)⟩

/-- How many errors a reader can still come to. -/
def Reader.chances (reader : Reader) : Nat :=
  if reader.finished then 0 else 1

theorem failure?_collect (items : List (Except LineError String)) :
    failure? (collect items) = (items.filterMap failure?).head? := by
  induction items with
  | nil => rfl
  | cons item later ih =>
      cases item with
      | error error => rfl
      | ok token =>
          rw [collect, List.filterMap_cons_none rfl, ← ih]
          cases collect later <;> rfl

theorem Operation.deliver_errors_le (operation : Operation) (taken : Taken) :
    (operation.deliver taken).errors.length ≤ taken.errors.length := by
  obtain ⟨items, ended⟩ := taken
  cases operation with
  | next =>
      cases items with
      | nil => exact Nat.le_refl 0
      | cons item later => cases item <;> simp [deliver, Delivery.errors, Taken.errors, failure?, Except.map]
  | all =>
      change (failure? (collect items)).toList.length ≤ _
      rw [failure?_collect, ← List.take_one]
      exact List.length_take_le' 1 (items.filterMap failure?)
  | take limit => exact Nat.le_refl _

theorem Operation.deliver_errors (operation : Operation) (stream : List (Except LineError String))
    (single : (takenFrom operation.wanted stream).errors.length ≤ 1) :
    (operation.deliver (takenFrom operation.wanted stream)).errors =
      (takenFrom operation.wanted stream).errors := by
  cases operation with
  | next =>
      cases stream with
      | nil => rfl
      | cons item later => cases item <;> rfl
  | all =>
      let errors := (takenFrom none stream).errors
      calc (failure? (collect (takenFrom none stream).items)).toList
          = errors.head?.toList := by rw [failure?_collect]; rfl
        _ = errors.take 1 := List.take_one.symm
        _ = errors := List.take_of_length_le single
  | take limit => rfl

theorem Operation.deliver_stops (operation : Operation) (stream : List (Except LineError String)) :
    (operation.deliver (takenFrom operation.wanted stream)).stops =
      (takenFrom operation.wanted stream).stops := by
  cases operation with
  | next =>
      cases stream with
      | nil => rfl
      | cons item later => cases item <;> rfl
  | all => rfl
  | take limit => rfl

namespace Reader

theorem chances_of_finished {reader : Reader} (finished : reader.finished = true) :
    reader.chances = 0 :=
  if_pos finished

theorem chances_of_unfinished {reader : Reader} (unfinished : reader.finished = false) :
    reader.chances = 1 := by
  simp [chances, unfinished]

theorem chances_le (reader : Reader) : reader.chances ≤ 1 := by
  unfold chances
  split
  · exact Nat.zero_le 1
  · exact Nat.le_refl 1

theorem take_finishes (resolver : Resolver σ) (limit : Option Nat) (reader : Reader) (state : σ) :
    (reader.take resolver limit state).reader.finished =
        (reader.finished || (reader.take resolver limit state).result.stops) ∧
      (reader.take resolver limit state).result.errors.length +
        (reader.take resolver limit state).reader.chances ≤ reader.chances := by
  fun_induction reader.take resolver limit state with
  | case1 reader state => simp [Taken.stops, Taken.errors]
  | case2 limit reader state more error later after events found ih =>
      obtain ⟨unfinished, finished⟩ := next_error_finishes found
      rw [take_finished resolver (limit.map (· - 1)) later after finished]
      simp [Step.after, Taken.cons, Taken.stops, Taken.errors, failure?, finished,
        chances_of_finished finished, chances_of_unfinished unfinished]
  | case3 limit reader state more later after events found =>
      have finished := next_end_finished found
      simp [Taken.stops, Taken.errors, finished, chances_of_finished finished]
  | case4 limit reader state more token later after events found ih =>
      obtain ⟨unfinished, goesOn⟩ := next_token_unfinished found
      rw [goesOn, chances_of_unfinished goesOn] at ih
      rw [unfinished, chances_of_unfinished unfinished]
      exact ih

theorem take_deliver_errors (turn : Turn σ) (reader : Reader) (state : σ) :
    let taken := (reader.take turn.resolver turn.operation.wanted state).result
    (turn.operation.deliver taken).errors = taken.errors := by
  intro taken
  obtain ⟨_, spends⟩ := reader.take_finishes turn.resolver turn.operation.wanted state
  obtain ⟨reads, _⟩ := reader.take_reads turn.resolver turn.operation.wanted state
  have single : taken.errors.length ≤ 1 :=
    Nat.le_trans (Nat.le_trans (Nat.le_add_right _ _) spends) reader.chances_le
  rw [show taken = _ from reads] at single ⊢
  exact turn.operation.deliver_errors _ single

theorem perform_finishes (turn : Turn σ) (reader : Reader) (state : σ) :
    (reader.perform turn state).reader.finished =
        (reader.finished || (reader.perform turn state).result.stops) ∧
      (reader.perform turn state).result.errors.length +
        (reader.perform turn state).reader.chances ≤ reader.chances := by
  obtain ⟨finishes, spends⟩ := reader.take_finishes turn.resolver turn.operation.wanted state
  obtain ⟨reads, _⟩ := reader.take_reads turn.resolver turn.operation.wanted state
  rw [perform_eq_take]
  constructor
  · rw [reads] at finishes
    simpa only [Step.after, reads, turn.operation.deliver_stops] using finishes
  · have fewer := turn.operation.deliver_errors_le
      (reader.take turn.resolver turn.operation.wanted state).result
    exact Nat.le_trans (Nat.add_le_add_right fewer _) spends

theorem play_finishes (turns : List (Turn σ)) (reader : Reader) (state : σ) :
    (reader.play turns state).reader.finished =
        (reader.finished || (reader.play turns state).result.any Delivery.stops) ∧
      ((reader.play turns state).result.flatMap Delivery.errors).length +
        (reader.play turns state).reader.chances ≤ reader.chances := by
  induction turns generalizing reader state with
  | nil => simp [play]
  | cons turn later ih =>
      obtain ⟨finishes, spends⟩ := reader.perform_finishes turn state
      obtain ⟨laterFinishes, laterSpends⟩ := ih (reader.perform turn state).reader
        (reader.perform turn state).state
      constructor
      · rw [finishes, Bool.or_assoc] at laterFinishes
        exact laterFinishes
      · simp only [play, Step.after, List.flatMap_cons, List.length_append]
        omega

theorem perform_finished (turn : Turn σ) (reader : Reader) (state : σ)
    (finished : reader.finished = true) :
    reader.perform turn state = ⟨turn.operation.idle, reader, state, []⟩ := by
  obtain ⟨resolver, operation⟩ := turn
  rw [perform_eq_take, take_finished resolver operation.wanted reader state finished]
  cases operation <;> rfl

theorem play_finished (turns : List (Turn σ)) (reader : Reader) (state : σ)
    (finished : reader.finished = true) :
    reader.play turns state = ⟨turns.map fun turn => turn.operation.idle, reader, state, []⟩ := by
  induction turns with
  | nil => rfl
  | cons turn later ih =>
      rw [play, perform_finished turn reader state finished]
      simp [Step.after, ih]

theorem lookupsPlayed_finished (turns : List (Turn σ)) (reader : Reader) (state : σ)
    (finished : reader.finished = true) : reader.lookupsPlayed turns state = [] := by
  rw [lookupsPlayed, play_finished _ reader _ finished]

end Reader

/-- A line fails once at most. Its reader is finished when the end or an error was reported, and not
before. From then on every operation gives nothing, asks nothing, leaves nothing in the trace and
leaves the reader as it is. -/
theorem line_fails_once (line : String) (turns : List (Turn σ)) (state : σ) :
    let session := (Reader.ofLine line).play turns state
    (session.result.flatMap Delivery.errors).length ≤ 1 ∧
    session.reader.finished = session.result.any Delivery.stops ∧
    (session.result.any Delivery.stops = true →
      ∀ {τ : Type v} (later : List (Turn τ)) (other : τ),
        session.reader.play later other =
          ⟨later.map fun turn => turn.operation.idle, session.reader, other, []⟩ ∧
        session.reader.lookupsPlayed later other = []) := by
  intro session
  obtain ⟨finishes, spends⟩ := (Reader.ofLine line).play_finishes turns state
  have unfinished : (Reader.ofLine line).finished = false := rfl
  rw [unfinished, Bool.false_or] at finishes
  rw [Reader.chances_of_unfinished unfinished] at spends
  refine ⟨Nat.le_trans (Nat.le_add_right _ _) spends, finishes, ?_⟩
  intro stopped τ later other
  have finished : session.reader.finished = true := finishes.trans stopped
  exact ⟨session.reader.play_finished later other finished,
    session.reader.lookupsPlayed_finished later other finished⟩

end StatementLine
