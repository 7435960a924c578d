import StatementLine.Token

/-! Readers of a line. `next` reads one token, `take` a number of them or as many as there are,
`all` the rest of the line. After the line's end or an error a reader is finished: it gives
nothing more, asks no resolver and leaves no trace. -/

universe u v w

namespace StatementLine

structure Reader where
  line : String
  unread : List Char
  finished : Bool
deriving Repr, DecidableEq

/-- What an operation on a reader comes to: its result, the reader and the state of the resolver
that it leaves, and what happened. -/
structure Step (σ : Type u) (α : Type v) where
  result : α
  reader : Reader
  state : σ
  events : List Event

def Step.after {σ : Type u} {α : Type v} {β : Type w} (later : Step σ α) (events : List Event)
    (change : α → β) : Step σ β where
  result := change later.result
  reader := later.reader
  state := later.state
  events := events ++ later.events

structure Taken where
  items : List (Except LineError String)
  ended : Bool

def Taken.cons (item : Except LineError String) (later : Taken) : Taken :=
  ⟨item :: later.items, later.ended⟩

namespace Reader

variable {σ : Type u}

def ofLine (line : String) : Reader := ⟨line, line.toList, false⟩

def position (reader : Reader) : Nat :=
  reader.line.toList.length - reader.unread.length

def remaining (reader : Reader) : Nat :=
  if reader.finished then 0 else reader.unread.length + 1

def next (resolver : Resolver σ) (reader : Reader) (state : σ) :
    Step σ (Except LineError (Option String)) :=
  if reader.finished then ⟨.ok none, reader, state, []⟩
  else
    match reader.unread.dropWhile isBlank with
    | [] => ⟨.ok none, { reader with unread := [], finished := true }, state, []⟩
    | first :: rest =>
        match readToken resolver (first :: rest) state with
        | ⟨.ok token, unread, state, events⟩ =>
            ⟨.ok (some token), { reader with unread }, state, events ++ [.token token]⟩
        | ⟨.error error, unread, state, events⟩ =>
            ⟨.error error, { reader with unread, finished := true }, state,
              events ++ [.abandoned error unread.length]⟩

theorem next_finished (resolver : Resolver σ) (reader : Reader) (state : σ)
    (finished : reader.finished = true) :
    reader.next resolver state = ⟨.ok none, reader, state, []⟩ := by
  simp [next, finished]

theorem next_end (resolver : Resolver σ) (line : String) (input : List Char) (state : σ)
    (start : input.dropWhile isBlank = []) :
    (Reader.mk line input false).next resolver state =
      ⟨.ok none, ⟨line, [], true⟩, state, []⟩ := by
  simp [next, start]

theorem next_token (resolver : Resolver σ) (line : String) (input rest unread : List Char)
    (first : Char) (state later : σ) (token : String) (events : List Event)
    (start : input.dropWhile isBlank = first :: rest)
    (reading : readToken resolver (first :: rest) state = ⟨.ok token, unread, later, events⟩) :
    (Reader.mk line input false).next resolver state =
      ⟨.ok (some token), ⟨line, unread, false⟩, later, events ++ [.token token]⟩ := by
  simp [next, start, reading]

theorem next_error (resolver : Resolver σ) (line : String) (input rest unread : List Char)
    (first : Char) (state later : σ) (error : LineError) (events : List Event)
    (start : input.dropWhile isBlank = first :: rest)
    (reading : readToken resolver (first :: rest) state = ⟨.error error, unread, later, events⟩) :
    (Reader.mk line input false).next resolver state =
      ⟨.error error, ⟨line, unread, true⟩, later,
        events ++ [.abandoned error unread.length]⟩ := by
  simp [next, start, reading]

theorem next_remaining (resolver : Resolver σ) (reader : Reader) (state : σ)
    (step : Step σ (Except LineError (Option String)))
    (found : reader.next resolver state = step) (more : step.result ≠ .ok none) :
    step.reader.remaining < reader.remaining := by
  subst found
  unfold next at more ⊢
  split at more
  · simp at more
  rename_i unfinished
  split at more
  · simp at more
  rename_i first rest start
  have noBlank : isBlank first = false := by
    simpa [start] using List.head?_dropWhile_not isBlank reader.unread
  have skipped := (List.dropWhile_suffix (l := reader.unread) isBlank).length_le
  rw [start] at skipped
  split at more
  · rename_i token unread later events reading
    have shorter := readToken_shortens resolver first rest state token noBlank (by rw [reading])
    rw [reading] at shorter
    simp only at shorter
    simp [unfinished, remaining]
    omega
  · simp [unfinished, remaining]

/-- Reads every remaining token. An error takes the place of the tokens read before it. -/
def all (resolver : Resolver σ) (reader : Reader) (state : σ) :
    Step σ (Except LineError (List String)) :=
  match _found : reader.next resolver state with
  | ⟨.error error, later, state, events⟩ => ⟨.error error, later, state, events⟩
  | ⟨.ok none, later, state, events⟩ => ⟨.ok [], later, state, events⟩
  | ⟨.ok (some token), later, state, events⟩ =>
      (later.all resolver state).after events (·.map (token :: ·))
termination_by reader.remaining
decreasing_by exact next_remaining resolver reader _ _ _found (by simp)

theorem all_end (resolver : Resolver σ) (reader later : Reader) (state after : σ)
    (events : List Event) (found : reader.next resolver state = ⟨.ok none, later, after, events⟩) :
    reader.all resolver state = ⟨.ok [], later, after, events⟩ := by
  rw [all]
  split <;> simp_all

theorem all_error (resolver : Resolver σ) (reader later : Reader) (state after : σ)
    (error : LineError) (events : List Event)
    (found : reader.next resolver state = ⟨.error error, later, after, events⟩) :
    reader.all resolver state = ⟨.error error, later, after, events⟩ := by
  rw [all]
  split <;> simp_all

theorem all_token (resolver : Resolver σ) (reader later : Reader) (state after : σ)
    (token : String) (events : List Event)
    (found : reader.next resolver state = ⟨.ok (some token), later, after, events⟩) :
    reader.all resolver state =
      (later.all resolver after).after events (·.map (token :: ·)) := by
  rw [all]
  split <;> simp_all

/-- Takes items until there are as many as the limit says, or the end is met. An error is the
last item. -/
def take (resolver : Resolver σ) (limit : Option Nat) (reader : Reader) (state : σ) :
    Step σ Taken :=
  if limit = some 0 then ⟨⟨[], false⟩, reader, state, []⟩
  else
    match _found : reader.next resolver state with
    | ⟨.error error, later, state, events⟩ =>
        (later.take resolver (limit.map (· - 1)) state).after events (Taken.cons (.error error))
    | ⟨.ok none, later, state, events⟩ => ⟨⟨[], true⟩, later, state, events⟩
    | ⟨.ok (some token), later, state, events⟩ =>
        (later.take resolver (limit.map (· - 1)) state).after events (Taken.cons (.ok token))
termination_by reader.remaining
decreasing_by all_goals exact next_remaining resolver reader _ _ _found (by simp)

theorem take_zero (resolver : Resolver σ) (reader : Reader) (state : σ) :
    reader.take resolver (some 0) state = ⟨⟨[], false⟩, reader, state, []⟩ := by
  rw [take]
  simp

theorem take_end (resolver : Resolver σ) (limit : Option Nat) (reader later : Reader)
    (state after : σ) (events : List Event) (more : limit ≠ some 0)
    (found : reader.next resolver state = ⟨.ok none, later, after, events⟩) :
    reader.take resolver limit state = ⟨⟨[], true⟩, later, after, events⟩ := by
  rw [take]
  split
  · contradiction
  split <;> simp_all

theorem take_error (resolver : Resolver σ) (limit : Option Nat) (reader later : Reader)
    (state after : σ) (error : LineError) (events : List Event) (more : limit ≠ some 0)
    (found : reader.next resolver state = ⟨.error error, later, after, events⟩) :
    reader.take resolver limit state =
      (later.take resolver (limit.map (· - 1)) after).after events (Taken.cons (.error error)) := by
  rw [take]
  split
  · contradiction
  split <;> simp_all

theorem take_token (resolver : Resolver σ) (limit : Option Nat) (reader later : Reader)
    (state after : σ) (token : String) (events : List Event) (more : limit ≠ some 0)
    (found : reader.next resolver state = ⟨.ok (some token), later, after, events⟩) :
    reader.take resolver limit state =
      (later.take resolver (limit.map (· - 1)) after).after events (Taken.cons (.ok token)) := by
  rw [take]
  split
  · contradiction
  split <;> simp_all

end Reader

def split {σ : Type u} (resolver : Resolver σ) (line : String) (state : σ) :
    Step σ (Except LineError (List String)) :=
  (Reader.ofLine line).all resolver state

end StatementLine
