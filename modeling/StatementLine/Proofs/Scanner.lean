import StatementLine.Proofs.CursorReading
import StatementLine.Proofs.Position

/-!
Scanning a line by positions. A scanner keeps the whole line and a cursor in it, and its operations
are those of a reader. `Scanner.play_step` says that whatever is done to a scanner comes to what it
comes to for the reader that holds only what is in front of the cursor.
-/

universe u v w

namespace StatementLine

variable {σ : Type u}

structure TokenScan (σ : Type u) where
  result : Except LineError String
  cursor : Cursor
  state : σ
  events : List Event

theorem TokenReading.after_after (reading : TokenReading σ) (first second : String)
    (told later : List Event) :
    (reading.after second later).after first told =
      reading.after (first ++ second) (told ++ later) := by
  obtain ⟨error | token, unread, state, events⟩ := reading
  · simp [after, Except.map]
  · simp [after, Except.map, String.append_assoc]

theorem TokenReading.after_nothing (reading : TokenReading σ) : reading.after "" [] = reading := by
  obtain ⟨error | token, unread, state, events⟩ := reading
  · rfl
  · simp [after, Except.map]

namespace Cursor

theorem readSegment_moves {cursor later : Cursor} {segment : Segment}
    (found : cursor.readSegment = (.ok (some segment), later)) :
    ∃ rest, Segment.read cursor.remaining = .segment segment rest ∧ later = cursor.upTo rest ∧
      later.remaining = rest := by
  have within : cursor.Within := by
    refine within_of_remaining fun nothing => ?_
    simp [readSegment, (cursor.remaining_nil_iff).mp nothing] at found
  rw [readSegment_eq within] at found
  cases reading : Segment.read cursor.remaining with
  | boundary => simp [reading, segmentRead] at found
  | failed error unread => simp [reading, segmentRead] at found
  | segment other rest =>
      simp only [reading, segmentRead, Prod.mk.injEq, Except.ok.injEq, Option.some.injEq] at found
      obtain ⟨rfl, rfl⟩ := found
      have suffix := (Segment.rest_suffix reading).trans cursor.remaining_suffix
      exact ⟨rest, rfl, rfl, remaining_upTo suffix⟩

/-- Adds segments to a token until white space, the line's end or an error is met. -/
def addSegments (resolver : Resolver σ) (cursor : Cursor) (state : σ) (token : String)
    (events : List Event) : TokenScan σ :=
  match _found : cursor.readSegment with
  | (.error error, later) => ⟨.error (.quote error), later, state, events⟩
  | (.ok none, later) => ⟨.ok token, later, state, events⟩
  | (.ok (some segment), later) =>
      match segment.contribute resolver state with
      | ⟨.error error, told, after⟩ => ⟨.error (.resolver error), later, after, events ++ told⟩
      | ⟨.ok text, told, after⟩ => later.addSegments resolver after (token ++ text) (events ++ told)
termination_by cursor.remaining.length
decreasing_by
  obtain ⟨rest, reading, _, remaining⟩ := readSegment_moves _found
  rw [remaining]
  exact Segment.read_shortens _ _ _ reading

def tokenRead (cursor : Cursor) (reading : TokenReading σ) : TokenScan σ :=
  ⟨reading.result, cursor.upTo reading.unread, reading.state, reading.events⟩

theorem addSegments_eq (resolver : Resolver σ) {cursor : Cursor} (within : cursor.Within) (state : σ)
    (token : String) (events : List Event) :
    cursor.addSegments resolver state token events =
      cursor.tokenRead ((readToken resolver cursor.remaining state).after token events) := by
  -- What the loop has added so far stands in front of what is read from here on.
  fun_induction cursor.addSegments resolver state token events with
  | case1 cursor state token events error later found =>
      rw [readSegment_eq within] at found
      cases reading : Segment.read cursor.remaining with
      | boundary => simp [reading, segmentRead] at found
      | segment segment rest => simp [reading, segmentRead] at found
      | failed other unread =>
          simp only [reading, segmentRead, Prod.mk.injEq, Except.error.injEq] at found
          obtain ⟨rfl, rfl⟩ := found
          rw [readToken_failed resolver _ unread state other reading]
          simp [tokenRead, TokenReading.after, Except.map]
  | case2 cursor state token events later found =>
      rw [readSegment_eq within] at found
      cases reading : Segment.read cursor.remaining with
      | segment segment rest => simp [reading, segmentRead] at found
      | failed other unread => simp [reading, segmentRead] at found
      | boundary =>
          simp only [reading, segmentRead, Prod.mk.injEq] at found
          rw [readToken_boundary resolver _ state reading, ← found.2]
          simp [tokenRead, TokenReading.after, Except.map, upTo_remaining within]
  | case3 cursor state token events segment later found error told after refused =>
      obtain ⟨rest, reading, rfl, _⟩ := readSegment_moves found
      rw [readToken_refused resolver _ rest state after segment error told reading refused]
      rfl
  | case4 cursor state token events segment later found text told after added ih =>
      obtain ⟨rest, reading, rfl, remaining⟩ := readSegment_moves found
      rw [ih (within_upTo _ _), remaining,
        readToken_segment resolver _ rest state after segment text told reading added,
        TokenReading.after_after]
      rfl

end Cursor

structure Scanner where
  line : String
  cursor : Cursor
  finished : Bool
deriving Repr, DecidableEq

structure Scan (σ : Type u) (α : Type v) where
  result : α
  scanner : Scanner
  state : σ
  events : List Event

def Scan.after {α : Type v} {β : Type w} (later : Scan σ α) (events : List Event)
    (change : α → β) : Scan σ β where
  result := change later.result
  scanner := later.scanner
  state := later.state
  events := events ++ later.events

namespace Scanner

def ofLine (line : String) : Scanner :=
  ⟨line, ⟨line.toList, 0⟩, false⟩

def reader (scanner : Scanner) : Reader :=
  ⟨scanner.line, scanner.cursor.remaining, scanner.finished⟩

def next (resolver : Resolver σ) (scanner : Scanner) (state : σ) :
    Scan σ (Except LineError (Option String)) :=
  if scanner.finished then ⟨.ok none, scanner, state, []⟩
  else
    let cursor := scanner.cursor.skipWhile isBlank
    if cursor.runes.length ≤ cursor.position then
      ⟨.ok none, { scanner with cursor, finished := true }, state, []⟩
    else
      match cursor.addSegments resolver state "" [] with
      | ⟨.ok token, cursor, state, events⟩ =>
          ⟨.ok (some token), { scanner with cursor }, state, events ++ [.token token]⟩
      | ⟨.error error, cursor, state, events⟩ =>
          ⟨.error error, { scanner with cursor, finished := true }, state,
            events ++ [.abandoned error cursor.remaining.length]⟩

end Scanner

def Scan.step {α : Type v} (scan : Scan σ α) : Step σ α :=
  ⟨scan.result, scan.scanner.reader, scan.state, scan.events⟩

namespace Scanner

theorem next_step (resolver : Resolver σ) (scanner : Scanner) (state : σ) :
    (scanner.next resolver state).step = scanner.reader.next resolver state := by
  obtain ⟨line, cursor, finished⟩ := scanner
  cases finished with
  | true => rfl
  | false =>
      have skipped := cursor.remaining_skipWhile isBlank
      cases start : cursor.remaining.dropWhile isBlank with
      | nil =>
          rw [start] at skipped
          have ended : (cursor.skipWhile isBlank).runes.length ≤ (cursor.skipWhile isBlank).position :=
            List.drop_eq_nil_iff.mp skipped
          rw [reader, Reader.next_end resolver line cursor.remaining state start]
          simp only [next, Bool.false_eq_true, if_false, if_pos ended, Scan.step, reader, skipped]
      | cons first rest =>
          rw [start] at skipped
          have more : (cursor.skipWhile isBlank).remaining ≠ [] := by simp [skipped]
          have goesOn : ¬(cursor.skipWhile isBlank).runes.length ≤ (cursor.skipWhile isBlank).position :=
            fun ended => more (List.drop_eq_nil_iff.mpr ended)
          have added := Cursor.addSegments_eq resolver (Cursor.within_of_remaining more) state "" []
          rw [TokenReading.after_nothing, skipped] at added
          have left : ((cursor.skipWhile isBlank).upTo
              (readToken resolver (first :: rest) state).unread).remaining =
                (readToken resolver (first :: rest) state).unread := by
            refine Cursor.remaining_upTo (List.IsSuffix.trans ?_ (Cursor.remaining_suffix _))
            rw [skipped]
            exact readToken_unread_suffix resolver (first :: rest) state
          rcases reading : readToken resolver (first :: rest) state with
            ⟨error | token, unread, after, events⟩
          · rw [reading] at added left
            rw [reader, Reader.next_error resolver line cursor.remaining rest unread first state after
              error events start reading]
            simp only [next, Bool.false_eq_true, if_false, if_neg goesOn, added, Cursor.tokenRead,
              Scan.step, reader, left]
          · rw [reading] at added left
            rw [reader, Reader.next_token resolver line cursor.remaining rest unread first state after
              token events start reading]
            simp only [next, Bool.false_eq_true, if_false, if_neg goesOn, added, Cursor.tokenRead,
              Scan.step, reader, left]

theorem next_remaining {resolver : Resolver σ} {scanner : Scanner} {state : σ}
    {scan : Scan σ (Except LineError (Option String))}
    (found : scanner.next resolver state = scan) (more : scan.result ≠ .ok none) :
    scan.scanner.reader.remaining < scanner.reader.remaining := by
  subst found
  exact Reader.next_remaining resolver scanner.reader state _ (scanner.next_step resolver state).symm
    more

def take (resolver : Resolver σ) (limit : Option Nat) (scanner : Scanner) (state : σ) :
    Scan σ Taken :=
  if limit = some 0 then ⟨⟨[], false⟩, scanner, state, []⟩
  else
    match _found : scanner.next resolver state with
    | ⟨.error error, later, state, events⟩ =>
        (later.take resolver (limit.map (· - 1)) state).after events (Taken.cons (.error error))
    | ⟨.ok none, later, state, events⟩ => ⟨⟨[], true⟩, later, state, events⟩
    | ⟨.ok (some token), later, state, events⟩ =>
        (later.take resolver (limit.map (· - 1)) state).after events (Taken.cons (.ok token))
termination_by scanner.reader.remaining
decreasing_by all_goals exact next_remaining _found (by simp)

def perform (turn : Turn σ) (scanner : Scanner) (state : σ) : Scan σ Delivery :=
  (scanner.take turn.resolver turn.operation.wanted state).after [] turn.operation.deliver

def play : List (Turn σ) → Scanner → σ → Scan σ (List Delivery)
  | [], scanner, state => ⟨[], scanner, state, []⟩
  | turn :: later, scanner, state =>
      let first := scanner.perform turn state
      (play later first.scanner first.state).after first.events (first.result :: ·)

theorem take_step (resolver : Resolver σ) (limit : Option Nat) (scanner : Scanner) (state : σ) :
    (scanner.take resolver limit state).step = scanner.reader.take resolver limit state := by
  fun_induction scanner.take resolver limit state with
  | case1 scanner state => exact (scanner.reader.take_zero resolver state).symm
  | case2 limit scanner state more error later after events found ih =>
      have same := scanner.next_step resolver state
      rw [found] at same
      rw [Reader.take_error resolver _ _ _ _ _ _ _ more same.symm]
      simp only [Scan.step] at ih ⊢
      rw [← ih]
      rfl
  | case3 limit scanner state more later after events found =>
      have same := scanner.next_step resolver state
      rw [found] at same
      exact (Reader.take_end resolver _ _ _ _ _ _ more same.symm).symm
  | case4 limit scanner state more token later after events found ih =>
      have same := scanner.next_step resolver state
      rw [found] at same
      rw [Reader.take_token resolver _ _ _ _ _ _ _ more same.symm]
      simp only [Scan.step] at ih ⊢
      rw [← ih]
      rfl

theorem perform_step (turn : Turn σ) (scanner : Scanner) (state : σ) :
    (scanner.perform turn state).step = scanner.reader.perform turn state := by
  rw [Reader.perform_eq_take]
  exact congrArg (·.after [] turn.operation.deliver) (scanner.take_step turn.resolver _ state)

theorem play_step (turns : List (Turn σ)) (scanner : Scanner) (state : σ) :
    (scanner.play turns state).step = scanner.reader.play turns state := by
  induction turns generalizing scanner state with
  | nil => rfl
  | cons turn later ih =>
      have first := scanner.perform_step turn state
      rw [Reader.play, ← first]
      simp only [Scan.step] at ih ⊢
      rw [← ih]
      rfl

structure Valid (line : String) (scanner : Scanner) : Prop where
  ofLine : scanner.line = line
  runes : scanner.cursor.runes = line.toList
  within : scanner.cursor.Within

theorem ofLine_valid (line : String) : Valid line (Scanner.ofLine line) :=
  ⟨rfl, rfl, Nat.zero_le _⟩

theorem Valid.position {line : String} {scanner : Scanner} (valid : Valid line scanner) :
    scanner.cursor.position + scanner.reader.unread.length = line.toList.length := by
  have length := Cursor.length_runes valid.within (List.nil_append scanner.cursor.remaining).symm
  rw [valid.runes] at length
  exact length.symm

theorem next_valid {line : String} (resolver : Resolver σ) {scanner : Scanner} (state : σ)
    (valid : Valid line scanner) : Valid line (scanner.next resolver state).scanner := by
  obtain ⟨own, cursor, finished⟩ := scanner
  obtain ⟨sameLine, runes, within⟩ := valid
  have skipped := Cursor.within_skipWhile isBlank within
  have sameRunes : (cursor.skipWhile isBlank).runes = line.toList :=
    (cursor.runes_skipWhile isBlank).trans runes
  cases finished with
  | true => exact ⟨sameLine, runes, within⟩
  | false =>
      simp only [next, Bool.false_eq_true, if_false]
      split
      · exact ⟨sameLine, sameRunes, skipped⟩
      · rw [Cursor.addSegments_eq resolver skipped, TokenReading.after_nothing]
        rcases readToken resolver (cursor.skipWhile isBlank).remaining state with
          ⟨error | token, unread, after, events⟩
        · exact ⟨sameLine, sameRunes, Cursor.within_upTo _ _⟩
        · exact ⟨sameLine, sameRunes, Cursor.within_upTo _ _⟩

theorem take_valid {line : String} (resolver : Resolver σ) (limit : Option Nat) {scanner : Scanner}
    (state : σ) (valid : Valid line scanner) :
    Valid line (scanner.take resolver limit state).scanner := by
  fun_induction scanner.take resolver limit state with
  | case1 => exact valid
  | case2 limit scanner state more error later after events found ih =>
      have kept := next_valid resolver state valid
      rw [found] at kept
      exact ih kept
  | case3 limit scanner state more later after events found =>
      have kept := next_valid resolver state valid
      rw [found] at kept
      exact kept
  | case4 limit scanner state more token later after events found ih =>
      have kept := next_valid resolver state valid
      rw [found] at kept
      exact ih kept

theorem play_valid {line : String} (turns : List (Turn σ)) {scanner : Scanner} (state : σ)
    (valid : Valid line scanner) : Valid line (scanner.play turns state).scanner := by
  induction turns generalizing scanner state with
  | nil => exact valid
  | cons turn later ih => exact ih _ (take_valid turn.resolver turn.operation.wanted state valid)

end Scanner

end StatementLine
