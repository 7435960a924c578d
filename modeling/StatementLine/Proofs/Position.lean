import StatementLine.Proofs.Inquiry
import StatementLine.Proofs.LineGrammar
import StatementLine.Proofs.Schedule

/-!
Where a reader is in its line. What it has not read is an end of the line, whatever has happened, and
as long as it is not finished this end is laid out as the line is behind some of its tokens. `Within`
says so, and operations of all kinds keep it.
-/

universe u

namespace StatementLine

variable {σ : Type u}

theorem SpanEnd.unread_suffix {kind : QuoteKind} {body unread : List Char} {error : QuoteError}
    (ending : SpanEnd kind body (.failed error unread)) : unread <:+ body := by
  cases ending with
  | @invalid raw => exact ⟨raw ++ ['\\'], by simp⟩
  | unterminated => exact List.nil_suffix

theorem Segment.unread_suffix {input unread : List Char} {error : QuoteError}
    (failed : Segment.read input = .failed error unread) : unread <:+ input := by
  obtain ⟨kind, body, rfl, ending⟩ := (Segment.read_eq_failed_iff _ _ _).mp failed
  exact ending.unread_suffix.trans (List.suffix_cons _ _)

theorem Segment.rest_suffix {input rest : List Char} {segment : Segment}
    (found : Segment.read input = .segment segment rest) : rest <:+ input :=
  ⟨_, (Segment.read_segment input rest segment found).symm⟩

theorem readToken_unread_suffix (resolver : Resolver σ) (input : List Char) (state : σ) :
    (readToken resolver input state).unread <:+ input := by
  fun_induction readToken resolver input state with
  | case1 => exact List.suffix_rfl
  | case2 input state error unread failed => exact Segment.unread_suffix failed
  | case3 input state segment rest found => exact Segment.rest_suffix found
  | case4 input state segment rest found text events after added ih =>
      exact ih.trans (Segment.rest_suffix found)

theorem Segmentation.precededBy_precededBy (layout : Segmentation)
    (groups earlier : List (List Segment)) :
    (layout.precededBy groups).precededBy earlier = layout.precededBy (earlier ++ groups) := by
  simp [precededBy]

theorem segmentation_of_token {resolver : Resolver σ} {input rest unread : List Char} {first : Char}
    {state after : σ} {token : String} {events : List Event}
    (start : input.dropWhile isBlank = first :: rest)
    (reading : readToken resolver (first :: rest) state = ⟨.ok token, unread, after, events⟩) :
    ∃ group, segmentation input = (segmentation unread).precededBy [group] := by
  have result := (readToken_eq_evaluateGroup resolver (first :: rest) state).1
  have ended := readToken_unread resolver (first :: rest) state token (by rw [reading])
  rw [reading] at result ended
  rcases run : readSegments (first :: rest) with ⟨group, _ | error, left⟩
  · rw [run] at ended
    cases ended
    exact ⟨group, by rw [segmentation_start start, run]; rfl⟩
  · rw [run] at result
    cases evaluated : (evaluateGroup resolver group state).1 <;> simp [evaluated, groupResult] at result

namespace Reader

/-- A reader of a line: an end of the line is before it, and behind it, unless it is finished, stand
the first tokens of the line and no part of the next one. -/
structure Within (line : String) (reader : Reader) : Prop where
  ofLine : reader.line = line
  suffix : reader.unread <:+ line.toList
  layout : reader.finished = false → ∃ groups,
    segmentation line.toList = (segmentation reader.unread).precededBy groups

theorem Within.of_finished {line : String} {unread : List Char} (suffix : unread <:+ line.toList) :
    Within line ⟨line, unread, true⟩ :=
  ⟨rfl, suffix, fun unfinished => by cases unfinished⟩

theorem ofLine_within (line : String) : Within line (Reader.ofLine line) :=
  ⟨rfl, List.suffix_rfl, fun _ => ⟨[], rfl⟩⟩

theorem next_within {line : String} (resolver : Resolver σ) (reader : Reader) (state : σ)
    (within : Within line reader) : Within line (reader.next resolver state).reader := by
  obtain ⟨ownLine, input, finished⟩ := reader
  obtain ⟨rfl, suffix, layout⟩ := within
  cases finished with
  | true =>
      rw [next_finished resolver _ state rfl]
      exact .of_finished suffix
  | false =>
      cases start : input.dropWhile isBlank with
      | nil =>
          rw [next_end resolver ownLine input state start]
          exact .of_finished List.nil_suffix
      | cons first rest =>
          have skipped : first :: rest <:+ input := start ▸ List.dropWhile_suffix isBlank
          have further := (readToken_unread_suffix resolver (first :: rest) state).trans
            (skipped.trans suffix)
          rcases reading : readToken resolver (first :: rest) state with
            ⟨error | token, unread, after, events⟩
          · rw [reading] at further
            rw [next_error resolver ownLine input rest unread first state after error events start
              reading]
            exact .of_finished further
          · rw [reading] at further
            rw [next_token resolver ownLine input rest unread first state after token events start
              reading]
            obtain ⟨groups, whole⟩ := layout rfl
            obtain ⟨group, ahead⟩ := segmentation_of_token start reading
            refine ⟨rfl, further, fun _ => ⟨groups ++ [group], ?_⟩⟩
            rw [← Segmentation.precededBy_precededBy, ← ahead]
            exact whole

theorem take_within {line : String} (resolver : Resolver σ) (limit : Option Nat) (reader : Reader)
    (state : σ) (within : Within line reader) :
    Within line (reader.take resolver limit state).reader :=
  take_preserves (next_within resolver) limit within

theorem perform_within {line : String} (turn : Turn σ) (reader : Reader) (state : σ)
    (within : Within line reader) : Within line (reader.perform turn state).reader := by
  rw [perform_eq_take]
  exact take_within turn.resolver turn.operation.wanted reader state within

theorem play_within (line : String) (turns : List (Turn σ)) (state : σ) :
    Within line ((Reader.ofLine line).play turns state).reader :=
  play_preserves turns (fun turn _ => next_within turn.resolver) (ofLine_within line)

end Reader

end StatementLine
