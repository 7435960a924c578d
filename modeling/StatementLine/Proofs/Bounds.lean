import StatementLine.Proofs.Finishing
import StatementLine.Proofs.Resumption

/-!
Bounds of the cursor. Slices are cut as far as there are characters, and a cursor that would go
beyond the end stays there, so a wrong bound would lose text without notice. The checked scan gives
nothing where a bound is missed. `scan_in_bounds` says that it is the scan itself wherever operations
in any order have left the cursor, and where that is.
-/

universe u

namespace StatementLine

variable {σ : Type u}

namespace Cursor

/-- The characters between two positions, if these are in order and in the line. -/
def checkedSlice (cursor : Cursor) (start stop : Nat) : Option (List Char) :=
  if start ≤ stop ∧ stop ≤ cursor.runes.length then some (cursor.slice start stop) else none

def checkedForward (cursor : Cursor) (count : Nat) : Option Cursor :=
  if cursor.position + count ≤ cursor.runes.length then some (cursor.forward count) else none

def checkedBefore (cursor : Cursor) : Option Nat :=
  if 0 < cursor.position then some (cursor.position - 1) else none

def checkedSpan (kind : QuoteKind) (start : Nat) (behind : Cursor) (text : List Char) :
    Option (Except QuoteError QuotedSpan × Cursor) := do
  let stop ← behind.checkedBefore
  let raw ← behind.checkedSlice start stop
  let text := if kind = .backtick then raw else text
  return (.ok ⟨kind, String.ofList raw, String.ofList text⟩, behind)

def checkedInside (kind : QuoteKind) (start : Nat) (cursor : Cursor) (text : List Char) :
    Option (Except QuoteError QuotedSpan × Cursor) :=
  match _here : cursor.peek with
  | none => some (.error .unterminated, cursor)
  | some c =>
      let behind := cursor.forward 1
      if c = kind.delimiter then
        if kind ≠ .backtick ∧ behind.peek = some kind.delimiter then
          (behind.forward 1).checkedInside kind start (text ++ [kind.delimiter])
        else behind.checkedSpan kind start text
      else if c = '\\' ∧ kind = .double then some (.error .invalid, behind)
      else if c = '\\' ∧ kind = .single ∧ behind.peek = some '\'' then
        (behind.forward 1).checkedInside kind start (text ++ ['\''])
      else behind.checkedInside kind start (text ++ [c])
termination_by cursor.remaining.length
decreasing_by
  all_goals
    have shorter := congrArg List.length (remaining_of_peek _here)
    simp only [List.length_cons, remaining_forward, List.length_drop] at shorter ⊢
    omega

def checkedQuoted (kind : QuoteKind) (cursor : Cursor) :
    Option (Except QuoteError QuotedSpan × Cursor) := do
  let behind ← cursor.checkedForward 1
  behind.checkedInside kind (cursor.position + 1) []

def checkedReference (cursor : Cursor) : Option (Option (Reference × List Char × Cursor)) :=
  if cursor.peek ≠ some ':' then some none
  else
    match cursor.opened? with
    | none => some none
    | some (form, offset) =>
        let length := cursor.nameLength offset
        if length = 0 then some none
        else
          match cursor.closed? form (offset + length) with
          | none => some none
          | some stop => do
              let start := cursor.position
              let name ← cursor.checkedSlice (start + offset) (start + offset + length)
              let raw ← cursor.checkedSlice start (start + stop)
              let later ← cursor.checkedForward stop
              return some (⟨form, String.ofList name⟩, raw, later)

def checkedLiteral (cursor : Cursor) : Option (List Char × Cursor) := do
  let behind ← cursor.checkedForward 1
  let later := behind.skipWhile Segment.isPlain
  let text ← cursor.checkedSlice cursor.position later.position
  return (text, later)

def checkedSegment (cursor : Cursor) : Option (Except QuoteError (Option Segment) × Cursor) :=
  match cursor.peek with
  | none => some (.ok none, cursor)
  | some c =>
      if isBlank c then some (.ok none, cursor)
      else
        match QuoteKind.ofChar? c with
        | some kind => do
            let (span, later) ← cursor.checkedQuoted kind
            return (span.map (some ∘ .quoted), later)
        | none => do
            match ← cursor.checkedReference with
            | some (reference, _, later) => return (.ok (some (.reference reference)), later)
            | none =>
                let (text, later) ← cursor.checkedLiteral
                return (.ok (some (.literal (String.ofList text))), later)

theorem checkedSlice_eq {cursor : Cursor} {start stop : Nat} (ordered : start ≤ stop)
    (inside : stop ≤ cursor.runes.length) :
    cursor.checkedSlice start stop = some (cursor.slice start stop) :=
  if_pos ⟨ordered, inside⟩

theorem checkedForward_eq {cursor : Cursor} {count : Nat}
    (inside : cursor.position + count ≤ cursor.runes.length) :
    cursor.checkedForward count = some (cursor.forward count) :=
  if_pos inside

theorem checkedForward_of_peek {cursor : Cursor} {c : Char} (here : cursor.peek = some c) :
    cursor.checkedForward 1 = some (cursor.forward 1) :=
  checkedForward_eq (within_forward here)

theorem advanceBy_eq_forward {cursor : Cursor} {count : Nat}
    (inside : cursor.position + count ≤ cursor.runes.length) :
    cursor.advanceBy count = cursor.forward count := by
  rw [advanceBy, Nat.min_eq_left inside, forward]

theorem position_lt_of_peekAt {cursor : Cursor} {offset : Nat} {c : Char}
    (there : cursor.peekAt offset = some c) : cursor.position + offset < cursor.runes.length :=
  (List.getElem?_eq_some_iff.mp there).1

theorem position_skipWhile (property : Char → Bool) (cursor : Cursor) :
    cursor.position ≤ (cursor.skipWhile property).position := by
  fun_induction cursor.skipWhile property with
  | case1 => exact Nat.le_refl _
  | case2 cursor c here holds ih => exact Nat.le_of_succ_le ih
  | case3 => exact Nat.le_refl _

theorem checkedInside_end {kind : QuoteKind} {start : Nat} {cursor : Cursor} {text : List Char}
    (ended : cursor.peek = none) :
    cursor.checkedInside kind start text = some (.error .unterminated, cursor) := by
  rw [checkedInside]
  split <;> simp_all

theorem checkedInside_of_peek {kind : QuoteKind} {start : Nat} {cursor : Cursor} {text : List Char}
    {c : Char} (here : cursor.peek = some c) :
    let behind := cursor.forward 1
    cursor.checkedInside kind start text =
      if c = kind.delimiter then
        if kind ≠ .backtick ∧ behind.peek = some kind.delimiter then
          (behind.forward 1).checkedInside kind start (text ++ [kind.delimiter])
        else behind.checkedSpan kind start text
      else if c = '\\' ∧ kind = .double then some (.error .invalid, behind)
      else if c = '\\' ∧ kind = .single ∧ behind.peek = some '\'' then
        (behind.forward 1).checkedInside kind start (text ++ ['\''])
      else behind.checkedInside kind start (text ++ [c]) := by
  rw [checkedInside]
  split <;> simp_all

theorem checkedInside_eq (kind : QuoteKind) (start : Nat) {cursor : Cursor} (text : List Char)
    (behindStart : start ≤ cursor.position) :
    cursor.checkedInside kind start text = some (cursor.readInside kind start text) := by
  -- A piece is only cut where the span closes. There the cursor has passed the delimiter.
  fun_induction cursor.readInside kind start text with
  | case1 cursor text ended => exact checkedInside_end ended
  | case2 cursor text behind pair here ih =>
      rw [checkedInside_of_peek here, if_pos rfl, if_pos pair]
      exact ih (Nat.le_add_right_of_le (Nat.le_add_right_of_le behindStart))
  | case3 cursor text behind alone raw value here =>
      have stop : behind.checkedBefore = some (behind.position - 1) := if_pos (Nat.succ_pos _)
      have cut : behind.checkedSlice start (behind.position - 1) = some raw :=
        checkedSlice_eq behindStart (Nat.le_trans (Nat.sub_le _ 1) (within_forward here))
      rw [checkedInside_of_peek here, if_pos rfl, if_neg alone, checkedSpan, stop, Option.bind_eq_bind,
        Option.bind_some, cut]
      rfl
  | case4 cursor text c here behind other invalid =>
      rw [checkedInside_of_peek here, if_neg other, if_pos invalid]
  | case5 cursor text c here behind other valid escape ih =>
      rw [checkedInside_of_peek here, if_neg other, if_neg valid, if_pos escape]
      exact ih (Nat.le_add_right_of_le (Nat.le_add_right_of_le behindStart))
  | case6 cursor text c here behind other valid plain ih =>
      rw [checkedInside_of_peek here, if_neg other, if_neg valid, if_neg plain]
      exact ih (Nat.le_add_right_of_le behindStart)

theorem checkedQuoted_eq (kind : QuoteKind) {cursor : Cursor} {c : Char}
    (here : cursor.peek = some c) : cursor.checkedQuoted kind = some (cursor.readQuoted kind) := by
  rw [checkedQuoted, checkedForward_of_peek here]
  exact checkedInside_eq kind (cursor.position + 1) [] (Nat.le_refl _)

theorem nameLength_le {cursor : Cursor} {offset : Nat} (named : cursor.nameLength offset ≠ 0) :
    cursor.position + (offset + cursor.nameLength offset) ≤ cursor.runes.length := by
  have length := cursor.nameLength_eq offset
  have spanned := congrArg List.length (Identifier.span_append (cursor.remaining.drop offset))
  simp only [remaining, List.length_append, List.length_drop] at length spanned
  omega

theorem closed?_le {cursor : Cursor} {form : ReferenceForm} {offset stop : Nat}
    (inside : cursor.position + offset ≤ cursor.runes.length)
    (closed : cursor.closed? form offset = some stop) :
    offset ≤ stop ∧ cursor.position + stop ≤ cursor.runes.length := by
  unfold closed? at closed
  split at closed
  · cases closed
    exact ⟨Nat.le_refl _, inside⟩
  · split at closed
    · rename_i there
      cases closed
      exact ⟨Nat.le_succ _, position_lt_of_peekAt there⟩
    · cases closed

theorem checkedReference_eq (cursor : Cursor) :
    cursor.checkedReference = some cursor.readReference? := by
  rw [checkedReference, readReference?]
  by_cases colon : cursor.peek ≠ some ':'
  · rw [if_pos colon, if_pos colon]
  rw [if_neg colon, if_neg colon]
  cases cursor.opened? with
  | none => rfl
  | some opened =>
      obtain ⟨form, offset⟩ := opened
      by_cases named : cursor.nameLength offset = 0
      · simp only [if_pos named]
      · simp only [if_neg named]
        cases closed : cursor.closed? form (offset + cursor.nameLength offset) with
        | none => rfl
        | some stop =>
            obtain ⟨behindName, inside⟩ := closed?_le (nameLength_le named) closed
            have nameInside :
                cursor.position + offset + cursor.nameLength offset ≤ cursor.runes.length := by omega
            have name := checkedSlice_eq (Nat.le_add_right _ _) nameInside
            have raw := checkedSlice_eq (Nat.le_add_right _ _) inside
            simp only [name, raw, checkedForward_eq inside, advanceBy_eq_forward inside]
            rfl

theorem checkedLiteral_eq {cursor : Cursor} {c : Char} (here : cursor.peek = some c) :
    cursor.checkedLiteral = some cursor.readLiteral := by
  have within := within_skipWhile Segment.isPlain (within_forward here)
  have sameRunes := (cursor.forward 1).runes_skipWhile Segment.isPlain
  have further := (cursor.forward 1).position_skipWhile Segment.isPlain
  have inside : ((cursor.forward 1).skipWhile Segment.isPlain).position ≤ cursor.runes.length :=
    sameRunes ▸ within
  have text := checkedSlice_eq (Nat.le_trans (Nat.le_succ _) further) inside
  simp only [checkedLiteral, checkedForward_of_peek here, Option.bind_eq_bind, Option.bind_some, text]
  rfl

theorem checkedSegment_eq (cursor : Cursor) : cursor.checkedSegment = some cursor.readSegment := by
  rw [checkedSegment, readSegment]
  cases here : cursor.peek with
  | none => rfl
  | some c =>
      cases blank : isBlank c with
      | true => simp only [blank, if_true]
      | false =>
          simp only [blank, Bool.false_eq_true, if_false]
          cases QuoteKind.ofChar? c with
          | some kind =>
              simp only [checkedQuoted_eq kind here]
              rfl
          | none =>
              simp only [checkedReference_eq, checkedLiteral_eq here]
              cases cursor.readReference? with
              | none => rfl
              | some reading => rfl

def checkedToken (resolver : Resolver σ) (cursor : Cursor) (state : σ) (token : String)
    (events : List Event) : Option (TokenScan σ) :=
  match _found : cursor.checkedSegment with
  | none => none
  | some (.error error, later) => some ⟨.error (.quote error), later, state, events⟩
  | some (.ok none, later) => some ⟨.ok token, later, state, events⟩
  | some (.ok (some segment), later) =>
      match segment.contribute resolver state with
      | ⟨.error error, told, after⟩ =>
          some ⟨.error (.resolver error), later, after, events ++ told⟩
      | ⟨.ok text, told, after⟩ =>
          later.checkedToken resolver after (token ++ text) (events ++ told)
termination_by cursor.remaining.length
decreasing_by
  have found := Option.some.inj (cursor.checkedSegment_eq.symm.trans _found)
  obtain ⟨rest, reading, _, remaining⟩ := readSegment_moves found
  rw [remaining]
  exact Segment.read_shortens _ _ _ reading

theorem checkedToken_eq (resolver : Resolver σ) (cursor : Cursor) (state : σ) (token : String)
    (events : List Event) :
    cursor.checkedToken resolver state token events =
      some (cursor.addSegments resolver state token events) := by
  fun_induction cursor.addSegments resolver state token events
  all_goals
    rw [checkedToken]
    split <;> simp_all [checkedSegment_eq]

end Cursor

namespace Scanner

def checkedNext (resolver : Resolver σ) (scanner : Scanner) (state : σ) :
    Option (Scan σ (Except LineError (Option String))) :=
  if scanner.finished then some ⟨.ok none, scanner, state, []⟩
  else
    let cursor := scanner.cursor.skipWhile isBlank
    if cursor.runes.length ≤ cursor.position then
      some ⟨.ok none, { scanner with cursor, finished := true }, state, []⟩
    else
      match cursor.checkedToken resolver state "" [] with
      | none => none
      | some ⟨.ok token, cursor, state, events⟩ =>
          some ⟨.ok (some token), { scanner with cursor }, state, events ++ [.token token]⟩
      | some ⟨.error error, cursor, state, events⟩ =>
          some ⟨.error error, { scanner with cursor, finished := true }, state,
            events ++ [.abandoned error cursor.remaining.length]⟩

theorem checkedNext_eq (resolver : Resolver σ) (scanner : Scanner) (state : σ) :
    scanner.checkedNext resolver state = some (scanner.next resolver state) := by
  rw [checkedNext, next]
  by_cases finished : scanner.finished = true
  · rw [if_pos finished, if_pos finished]
  rw [if_neg finished, if_neg finished]
  by_cases ended : (scanner.cursor.skipWhile isBlank).runes.length ≤
      (scanner.cursor.skipWhile isBlank).position
  · simp only [if_pos ended]
  · simp only [if_neg ended, Cursor.checkedToken_eq]
    rcases (scanner.cursor.skipWhile isBlank).addSegments resolver state "" [] with
      ⟨error | token, cursor, after, events⟩ <;> rfl

end Scanner

namespace Reader

theorem play_unread_suffix (turns : List (Turn σ)) (reader : Reader) (state : σ) :
    (reader.play turns state).reader.unread <:+ reader.unread := by
  -- The reader could as well be one of a line that is no more than what it has not read.
  have own : (String.ofList reader.unread).toList = reader.unread := String.toList_ofList
  have within : Within (String.ofList reader.unread) (reader.ofOther (String.ofList reader.unread)) :=
    ⟨rfl, own.symm.subst List.suffix_rfl, fun _ => ⟨[], congrArg segmentation own⟩⟩
  have kept : Within (String.ofList reader.unread)
      ((reader.ofOther (String.ofList reader.unread)).play turns state).reader :=
    play_preserves turns (fun turn _ => next_within turn.resolver) within
  rw [play_ofOther] at kept
  exact own ▸ kept.suffix

def Rests (line : String) (reader : Reader) : Prop :=
  reader.unread = line.toList ∨ AtBoundary reader.unread

theorem next_end_rests {line : String} {resolver : Resolver σ} {reader later : Reader}
    {state after : σ} {events : List Event} (rests : Rests line reader)
    (found : reader.next resolver state = ⟨.ok none, later, after, events⟩) : Rests line later := by
  obtain ⟨own, input, finished⟩ := reader
  cases finished with
  | true =>
      rw [next_finished resolver _ state rfl] at found
      cases found
      exact rests
  | false =>
      cases start : input.dropWhile isBlank with
      | nil =>
          rw [next_end resolver own input state start] at found
          cases found
          exact .inr (fun c head => by cases head)
      | cons first rest =>
          rcases reading : readToken resolver (first :: rest) state with
            ⟨error | token, unread, left, told⟩
          · simp [next_error resolver own input rest unread first state left error told start
              reading] at found
          · simp [next_token resolver own input rest unread first state left token told start
              reading] at found

theorem take_rests {line : String} (resolver : Resolver σ) (limit : Option Nat) {reader : Reader}
    {state : σ} (rests : Rests line reader)
    (unbroken : (reader.take resolver limit state).result.errors = []) :
    Rests line (reader.take resolver limit state).reader := by
  fun_induction reader.take resolver limit state with
  | case1 => exact rests
  | case2 limit reader state more error later after events found ih =>
      simp [Step.after, Taken.cons, Taken.errors, failure?] at unbroken
  | case3 limit reader state more later after events found => exact next_end_rests rests found
  | case4 limit reader state more token later after events found ih =>
      have ends := next_token_ends (by rw [found])
      rw [found] at ends
      exact ih (.inr ends) unbroken

theorem play_rests {line : String} (turns : List (Turn σ)) {reader : Reader} {state : σ}
    (rests : Rests line reader)
    (unbroken : (reader.play turns state).result.flatMap Delivery.errors = []) :
    Rests line (reader.play turns state).reader := by
  induction turns generalizing reader state with
  | nil => exact rests
  | cons turn later ih =>
      have errors := reader.take_deliver_errors turn state
      rw [play, perform_eq_take] at unbroken ⊢
      obtain ⟨first, others⟩ := List.append_eq_nil_iff.mp unbroken
      exact ih (take_rests turn.resolver turn.operation.wanted rests (errors.symm.trans first)) others

end Reader

/-- Wherever operations in any order have left a scanner of a line, it holds the line and the line's
characters, and its position is among them. No further operation takes it back. Unless an error is
delivered, the position is at the start or the end of the line or in front of white space. Whatever is
read next, no piece is cut out by bounds that are not in order and in the line, nor does the cursor step
beyond the end or look behind the start. -/
theorem scan_in_bounds (line : String) (turns : List (Turn σ)) (state : σ) :
    let scan := (Scanner.ofLine line).play turns state
    let cursor := scan.scanner.cursor
    scan.step = (Reader.ofLine line).play turns state ∧
    scan.scanner.line = line ∧ cursor.runes = line.toList ∧
    cursor.position ≤ line.toList.length ∧
    (∀ (later : List (Turn σ)) (other : σ),
      cursor.position ≤ (scan.scanner.play later other).scanner.cursor.position) ∧
    (scan.result.flatMap Delivery.errors = [] →
      cursor.position = 0 ∨ cursor.position = line.toList.length ∨
        ∃ c, cursor.peek = some c ∧ isBlank c = true) ∧
    ∀ (resolver : Resolver σ) (other : σ),
      scan.scanner.checkedNext resolver other = some (scan.scanner.next resolver other) := by
  intro scan cursor
  have valid : Scanner.Valid line scan.scanner :=
    Scanner.play_valid turns state (Scanner.ofLine_valid line)
  have same : scan.step = (Reader.ofLine line).play turns state :=
    (Scanner.ofLine line).play_step turns state
  have position : cursor.position + cursor.remaining.length = line.toList.length := valid.position
  refine ⟨same, valid.ofLine, valid.runes, ?_, ?_, ?_, ?_⟩
  · exact Nat.le_trans (Nat.le_add_right _ _) (Nat.le_of_eq position)
  · intro later other
    have laterPosition := (Scanner.play_valid later other valid).position
    have fewer := (scan.scanner.reader.play_unread_suffix later other).length_le
    rw [← scan.scanner.play_step later other] at fewer
    have fewerRemain : (scan.scanner.play later other).scanner.reader.unread.length ≤
        cursor.remaining.length := fewer
    omega
  · intro unbroken
    have sameResult : scan.result = ((Reader.ofLine line).play turns state).result :=
      congrArg Step.result same
    have sameReader : scan.scanner.reader = ((Reader.ofLine line).play turns state).reader :=
      congrArg Step.reader same
    rw [sameResult] at unbroken
    have rests := Reader.play_rests turns (.inl rfl) unbroken
    rw [← sameReader] at rests
    rcases rests with whole | boundary
    · have untouched : cursor.remaining = line.toList := whole
      rw [untouched] at position
      exact .inl (by omega)
    · cases here : cursor.peek with
      | none =>
          have nothing := (cursor.remaining_nil_iff).mpr here
          rw [nothing] at position
          exact .inr (.inl position)
      | some c => exact .inr (.inr ⟨c, rfl, boundary c (cursor.head?_remaining.trans here)⟩)
  · intro resolver other
    exact scan.scanner.checkedNext_eq resolver other

end StatementLine
