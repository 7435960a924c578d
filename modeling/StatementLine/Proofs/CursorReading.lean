import StatementLine.Proofs.Cursor
import StatementLine.Proofs.SegmentGrammar

/-!
Reading segments by positions. All pieces are cut out of the line by where they start and stop.
`Cursor.readSegment_eq` says that these are the segments that `Segment.read` takes off what is in
front of the cursor, and that the cursor moves to what follows, wherever in a line it stands.
-/

namespace StatementLine

namespace Cursor

/-- Reads on inside a span that started at `start` and stands for `text` so far. -/
def readInside (kind : QuoteKind) (start : Nat) (cursor : Cursor) (text : List Char) :
    Except QuoteError QuotedSpan × Cursor :=
  match _here : cursor.peek with
  | none => (.error .unterminated, cursor)
  | some c =>
      let behind := cursor.forward 1
      if c = kind.delimiter then
        if kind ≠ .backtick ∧ behind.peek = some kind.delimiter then
          (behind.forward 1).readInside kind start (text ++ [kind.delimiter])
        else
          let raw := behind.slice start (behind.position - 1)
          let text := if kind = .backtick then raw else text
          (.ok ⟨kind, String.ofList raw, String.ofList text⟩, behind)
      else if c = '\\' ∧ kind = .double then (.error .invalid, behind)
      else if c = '\\' ∧ kind = .single ∧ behind.peek = some '\'' then
        (behind.forward 1).readInside kind start (text ++ ['\''])
      else behind.readInside kind start (text ++ [c])
termination_by cursor.remaining.length
decreasing_by
  all_goals
    have shorter := congrArg List.length (remaining_of_peek _here)
    simp only [List.length_cons, remaining_forward, List.length_drop] at shorter ⊢
    omega

def readQuoted (kind : QuoteKind) (cursor : Cursor) : Except QuoteError QuotedSpan × Cursor :=
  (cursor.forward 1).readInside kind (cursor.position + 1) []

def insideRead (kind : QuoteKind) (start : Nat) (cursor : Cursor) (text : List Char) :
    SpanReading → Except QuoteError QuotedSpan × Cursor
  | .closed raw later rest =>
      let raw := cursor.slice start (cursor.position + raw.length)
      let text := if kind = .backtick then raw else text ++ later
      (.ok ⟨kind, String.ofList raw, String.ofList text⟩, cursor.upTo rest)
  | .failed error unread => (.error error, cursor.upTo unread)

theorem insideRead_cons {kind : QuoteKind} {start : Nat} {cursor : Cursor} {text piece : List Char}
    {value : Char} {count : Nat} (length : piece.length = count) (reading : SpanReading) :
    (cursor.forward count).insideRead kind start (text ++ [value]) reading =
      cursor.insideRead kind start text (reading.cons piece value) := by
  cases reading with
  | failed error unread => rfl
  | closed raw later rest =>
      simp only [insideRead, SpanReading.cons, forward, slice, upTo, List.length_append, length,
        Nat.add_assoc, List.append_assoc, List.singleton_append]

theorem readInside_eq (kind : QuoteKind) (start : Nat) {cursor : Cursor} (text : List Char)
    (within : cursor.Within) :
    cursor.readInside kind start text =
      cursor.insideRead kind start text (kind.readSpan cursor.remaining) := by
  -- Every branch is one rule of the reader of spans, for what is in front of the cursor.
  fun_induction cursor.readInside kind start text with
  | case1 cursor text ended =>
      have nothing := (cursor.remaining_nil_iff).mpr ended
      have reading : kind.readSpan [] = .failed .unterminated [] := by cases kind <;> rfl
      rw [nothing, reading, insideRead, ← nothing, upTo_remaining within]
  | case2 cursor text behind pair here ih =>
      have ahead := remaining_of_peek here
      rw [remaining_of_peek pair.2] at ahead
      rw [ih (within_forward pair.2), ahead, QuoteKind.readSpan_doubled pair.1,
        ← insideRead_cons rfl]
      rfl
  | case3 cursor text behind alone raw value here =>
      have closes : kind.Closes behind.remaining := by
        intro pairs head
        rw [head?_remaining] at head
        exact alone ⟨pairs, head⟩
      have moved : cursor.upTo behind.remaining = behind := upTo_remaining (within_forward here)
      rw [remaining_of_peek here, QuoteKind.readSpan_closes closes, insideRead, moved]
      simp [raw, value, slice, behind, forward]
  | case4 cursor text c here behind other invalid =>
      obtain ⟨rfl, rfl⟩ := invalid
      have moved : cursor.upTo behind.remaining = behind := upTo_remaining (within_forward here)
      rw [remaining_of_peek here]
      simp only [QuoteKind.readSpan, readDoubleQuoted, insideRead]
      rw [moved]
  | case5 cursor text c here behind other valid escape ih =>
      obtain ⟨rfl, rfl, quote⟩ := escape
      have ahead := remaining_of_peek here
      rw [remaining_of_peek quote] at ahead
      rw [ih (within_forward quote), ahead]
      have escaped (rest : List Char) : QuoteKind.single.readSpan ('\\' :: '\'' :: rest) =
        (QuoteKind.single.readSpan rest).cons ['\\', '\''] '\'' := rfl
      rw [escaped, ← insideRead_cons rfl]
      rfl
  | case6 cursor text c here behind other valid plain ih =>
      have alone : kind.StandsForItself c behind.remaining := by
        cases kind with
        | single =>
            refine ⟨other, ?_⟩
            intro backslash head
            rw [head?_remaining] at head
            exact plain ⟨backslash, rfl, head⟩
        | double => exact ⟨other, fun backslash => valid ⟨backslash, rfl⟩⟩
        | backtick => exact other
      rw [ih (within_forward here), remaining_of_peek here, QuoteKind.readSpan_itself alone,
        ← insideRead_cons rfl]
      rfl

theorem readBacktickQuoted_text {input raw text rest : List Char}
    (closed : readBacktickQuoted input = .closed raw text rest) : text = raw := by
  fun_induction readBacktickQuoted input generalizing raw text with
  | case1 => cases closed; rfl
  | case2 _ _ _ ih =>
      obtain ⟨laterRaw, laterText, later, rfl, rfl⟩ := SpanReading.cons_eq_closed closed
      rw [ih later]
      rfl
  | case3 => cases closed

def quotedRead (kind : QuoteKind) (cursor : Cursor) :
    SpanReading → Except QuoteError QuotedSpan × Cursor
  | .closed raw text rest => (.ok ⟨kind, String.ofList raw, String.ofList text⟩, cursor.upTo rest)
  | .failed error unread => (.error error, cursor.upTo unread)

theorem readQuoted_eq (kind : QuoteKind) {cursor : Cursor} {c : Char} (here : cursor.peek = some c) :
    cursor.readQuoted kind =
      cursor.quotedRead kind (kind.readSpan (cursor.forward 1).remaining) := by
  rw [readQuoted, readInside_eq kind _ _ (within_forward here)]
  cases reading : kind.readSpan (cursor.forward 1).remaining with
  | failed error unread => rfl
  | closed raw text rest =>
      have ahead := kind.readSpan_closed _ raw text rest reading
      have cut : (cursor.forward 1).slice (cursor.position + 1)
          ((cursor.forward 1).position + raw.length) = raw := slice_start_eq ahead
      have meant : (if kind = .backtick then raw else text) = text := by
        split
        · rename_i isBacktick
          subst isBacktick
          exact (readBacktickQuoted_text reading).symm
        · rfl
      simp only [insideRead, quotedRead, cut, List.nil_append, meant]
      rfl

def opened? (cursor : Cursor) : Option (ReferenceForm × Nat) :=
  match cursor.peekAt 1 with
  | none => none
  | some '{' =>
      if cursor.peekAt 2 = some existenceMarker then some (.existence, 3) else some (.value .bare, 1)
  | some '\'' => some (.value .singleQuoted, 2)
  | some '"' => some (.value .doubleQuoted, 2)
  | some _ => some (.value .bare, 1)

def nameLength (cursor : Cursor) (offset : Nat) : Nat :=
  match cursor.peekAt offset with
  | none => 0
  | some c =>
      if Identifier.isStart c then cursor.countWhile Identifier.isContinue (offset + 1) + 1 else 0

def closed? (cursor : Cursor) (form : ReferenceForm) (offset : Nat) : Option Nat :=
  match form.closing? with
  | none => some offset
  | some delimiter => if cursor.peekAt offset = some delimiter then some (offset + 1) else none

def readReference? (cursor : Cursor) : Option (Reference × List Char × Cursor) :=
  if cursor.peek ≠ some ':' then none
  else
    match cursor.opened? with
    | none => none
    | some (form, offset) =>
        let length := cursor.nameLength offset
        if length = 0 then none
        else
          match cursor.closed? form (offset + length) with
          | none => none
          | some stop =>
              let start := cursor.position
              let name := cursor.slice (start + offset) (start + offset + length)
              some (⟨form, String.ofList name⟩, cursor.slice start (start + stop),
                cursor.advanceBy stop)

def readLiteral (cursor : Cursor) : List Char × Cursor :=
  let later := (cursor.forward 1).skipWhile Segment.isPlain
  (cursor.slice cursor.position later.position, later)

def readSegment (cursor : Cursor) : Except QuoteError (Option Segment) × Cursor :=
  match cursor.peek with
  | none => (.ok none, cursor)
  | some c =>
      if isBlank c then (.ok none, cursor)
      else
        match QuoteKind.ofChar? c with
        | some kind =>
            let (span, later) := cursor.readQuoted kind
            (span.map (some ∘ .quoted), later)
        | none =>
            match cursor.readReference? with
            | some (reference, _, later) => (.ok (some (.reference reference)), later)
            | none =>
                let (text, later) := cursor.readLiteral
                (.ok (some (.literal (String.ofList text))), later)

theorem nameLength_eq (cursor : Cursor) (offset : Nat) :
    cursor.nameLength offset = (Identifier.span (cursor.remaining.drop offset)).1.length := by
  rw [nameLength, peekAt_eq]
  cases there : cursor.remaining[offset]? with
  | none =>
      rw [List.getElem?_eq_none_iff] at there
      rw [List.drop_of_length_le there]
      rfl
  | some c =>
      obtain ⟨inside, found⟩ := List.getElem?_eq_some_iff.mp there
      rw [List.drop_eq_getElem_cons inside, found, countWhile_eq]
      by_cases starts : Identifier.isStart c = true
      · simp [Identifier.span, starts]
      · simp [Identifier.span, starts]

theorem opened?_eq {cursor : Cursor} {c : Char} {rest : List Char}
    (ahead : cursor.remaining = ':' :: c :: rest) :
    ∃ form, cursor.opened? = some (form, form.opening.length) ∧
      ReferenceForm.opened? cursor.remaining =
        some (form, cursor.remaining.drop form.opening.length) := by
  have first : cursor.peekAt 1 = some c := by rw [peekAt_eq, ahead]; rfl
  have second : cursor.peekAt 2 = rest.head? := by
    rw [peekAt_eq, ahead, List.head?_eq_getElem?]
    rfl
  rw [ahead]
  by_cases braced : c = '{' ∧ rest.head? = some existenceMarker
  · obtain ⟨rfl, marked⟩ := braced
    obtain ⟨later, rfl⟩ := List.head?_eq_some_iff.mp marked
    exact ⟨.existence, by simp [opened?, first, second]; rfl, rfl⟩
  by_cases single : c = '\''
  · subst single
    exact ⟨.value .singleQuoted, by simp [opened?, first]; rfl, rfl⟩
  by_cases double : c = '"'
  · subst double
    exact ⟨.value .doubleQuoted, by simp [opened?, first]; rfl, rfl⟩
  · refine ⟨.value .bare, ?_, ?_⟩
    · rw [opened?, first, second]
      split
      · contradiction
      · rename_i brace
        rw [if_neg (fun marked => braced ⟨Option.some.inj brace, marked⟩)]
        rfl
      · rename_i quote
        exact absurd (Option.some.inj quote) single
      · rename_i quote
        exact absurd (Option.some.inj quote) double
      · rfl
    · unfold ReferenceForm.opened?
      split
      · rename_i same
        cases same
        exact absurd ⟨rfl, rfl⟩ braced
      · rename_i same
        cases same
        contradiction
      · rename_i same
        cases same
        contradiction
      · rename_i same
        cases same
        rfl
      · rename_i other
        exact absurd rfl (other _)

theorem closed?_eq {cursor : Cursor} {form : ReferenceForm} {offset : Nat} {rest : List Char}
    (behind : cursor.remaining.drop offset = rest) :
    cursor.closed? form offset =
      (form.closed? rest).map fun _ => offset + form.closing?.toList.length := by
  have next : cursor.peekAt offset = rest.head? := by
    rw [peekAt_eq, ← behind, List.head?_drop]
  cases closing : form.closing? with
  | none => simp [closed?, ReferenceForm.closed?, closing]
  | some delimiter =>
      cases rest with
      | nil => simp [closed?, ReferenceForm.closed?, closing, next]
      | cons c later =>
          by_cases closes : c = delimiter
          · simp [closed?, ReferenceForm.closed?, closing, next, closes]
          · simp [closed?, ReferenceForm.closed?, closing, next, closes]

theorem cut_reference {cursor : Cursor} (within : cursor.Within) {form : ReferenceForm}
    {name rest : List Char}
    (ahead : cursor.remaining = form.opening ++ (name ++ (form.closing?.toList ++ rest))) :
    let start := cursor.position
    let stop := form.opening.length + name.length + form.closing?.toList.length
    let reference : Reference := ⟨form, String.ofList name⟩
    cursor.slice (start + form.opening.length) (start + form.opening.length + name.length) = name ∧
      cursor.slice start (start + stop) = reference.source.toList ∧
      cursor.advanceBy stop = cursor.upTo rest := by
  intro start stop reference
  have source : reference.source.toList = form.opening ++ name ++ form.closing?.toList := by
    simp [reference, Reference.source]
  have length : reference.source.toList.length = stop := by
    rw [source, List.length_append, List.length_append]
  have whole : cursor.remaining = reference.source.toList ++ rest := by
    rw [ahead, source, List.append_assoc, List.append_assoc]
  refine ⟨slice_eq ahead, ?_, ?_⟩
  · rw [← length]
    exact slice_start_eq whole
  · rw [← length]
    exact advanceBy_eq_upTo within whole

theorem readReference?_eq {cursor : Cursor} (within : cursor.Within) :
    cursor.readReference? = (Reference.read? cursor.remaining).map fun (reference, rest) =>
      (reference, reference.source.toList, cursor.upTo rest) := by
  by_cases colon : cursor.peek = some ':'
  · rw [readReference?, if_neg (not_not_intro colon)]
    have ahead := remaining_of_peek colon
    cases behind : (cursor.forward 1).remaining with
    | nil =>
        rw [behind] at ahead
        have nothing : cursor.peekAt 1 = none := by rw [peekAt_eq, ahead]; rfl
        rw [opened?, nothing, ahead]
        rfl
    | cons c rest =>
        rw [behind] at ahead
        obtain ⟨form, here, there⟩ := opened?_eq ahead
        have whole : cursor.remaining =
            form.opening ++ cursor.remaining.drop form.opening.length :=
          ReferenceForm.opened?_eq_some _ _ _ there
        rcases spanned : Identifier.span (cursor.remaining.drop form.opening.length) with
          ⟨name, afterName⟩
        have split := Identifier.span_append (cursor.remaining.drop form.opening.length)
        have length := cursor.nameLength_eq form.opening.length
        rw [spanned] at split length
        rw [← split] at whole
        have behindName : cursor.remaining.drop (form.opening.length + name.length) = afterName := by
          rw [← List.drop_drop, ← split, List.drop_left]
        simp only [here, Reference.read?, there, spanned, length, closed?_eq behindName]
        cases name with
        | nil => rfl
        | cons first later =>
            have something : (first :: later).length ≠ 0 := Nat.succ_ne_zero _
            cases closed : form.closed? afterName with
            | none => simp only [something, if_false, closed, Option.map_none]
            | some rest =>
                rw [ReferenceForm.closed?_eq_some form afterName rest closed] at whole
                obtain ⟨name, raw, moved⟩ := cut_reference within whole
                simp only [something, if_false, closed, Option.map_some, name, raw, moved]
  · rw [readReference?, if_pos colon]
    cases found : Reference.read? cursor.remaining with
    | none => rfl
    | some reading =>
        obtain ⟨later, starts⟩ := reading.1.source_colon
        have cut := Reference.read?_eq_some _ _ _ found
        rw [starts] at cut
        rw [← head?_remaining, cut] at colon
        exact absurd rfl colon

theorem readLiteral_eq {cursor : Cursor} {c : Char} (within : cursor.Within)
    (here : cursor.peek = some c) :
    let behind := (cursor.forward 1).remaining
    cursor.readLiteral =
      (c :: behind.takeWhile Segment.isPlain, cursor.upTo (behind.dropWhile Segment.isPlain)) := by
  intro behind
  have ahead : cursor.remaining =
      (c :: behind.takeWhile Segment.isPlain) ++ behind.dropWhile Segment.isPlain := by
    rw [List.cons_append, List.takeWhile_append_dropWhile]
    exact remaining_of_peek here
  have later : (cursor.forward 1).skipWhile Segment.isPlain =
      cursor.forward (c :: behind.takeWhile Segment.isPlain).length := by
    rw [skipWhile_eq _ (within_forward here), forward_eq_upTo within ahead]
    rfl
  rw [readLiteral, later]
  exact Prod.ext (slice_start_eq ahead) (forward_eq_upTo within ahead)

def segmentRead (cursor : Cursor) : SegmentReading → Except QuoteError (Option Segment) × Cursor
  | .boundary => (.ok none, cursor)
  | .segment segment rest => (.ok (some segment), cursor.upTo rest)
  | .failed error unread => (.error error, cursor.upTo unread)

/-- A cursor reads the segment in front of it, whatever it has behind it. -/
theorem readSegment_eq {cursor : Cursor} (within : cursor.Within) :
    cursor.readSegment = cursor.segmentRead (Segment.read cursor.remaining) := by
  rw [readSegment]
  cases here : cursor.peek with
  | none =>
      rw [(cursor.remaining_nil_iff).mpr here]
      rfl
  | some c =>
      have ahead := remaining_of_peek here
      rw [ahead]
      simp only [Segment.read]
      cases blank : isBlank c with
      | true => rfl
      | false =>
          cases delimiter : QuoteKind.ofChar? c with
          | some kind =>
              simp only [readQuoted_eq kind here]
              cases kind.readSpan (cursor.forward 1).remaining <;> rfl
          | none =>
              rw [← ahead]
              simp only [readReference?_eq within, readLiteral_eq within here]
              cases Reference.read? cursor.remaining with
              | none => rfl
              | some reading => rfl

end Cursor

end StatementLine
