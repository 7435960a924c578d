import StatementLine.Reader

/-! What a line consists of, whatever its references stand for: groups of segments, one for each
token, and a last group without end if a quoted span is broken. A resolver only gives meaning
to these groups: splitting a line is evaluating its segmentation. -/

universe u

namespace StatementLine

structure BrokenGroup where
  segments : List Segment
  error : QuoteError
  unread : List Char
deriving Repr, DecidableEq

structure Segmentation where
  groups : List (List Segment)
  broken? : Option BrokenGroup
deriving Repr, DecidableEq

structure SegmentRun where
  segments : List Segment
  error? : Option QuoteError
  unread : List Char
deriving Repr, DecidableEq

def readSegments (input : List Char) : SegmentRun :=
  match _found : Segment.read input with
  | .boundary => ⟨[], none, input⟩
  | .failed error unread => ⟨[], some error, unread⟩
  | .segment segment rest =>
      let later := readSegments rest
      { later with segments := segment :: later.segments }
termination_by input.length
decreasing_by exact Segment.read_shortens _ _ _ _found

theorem readSegments_boundary (input : List Char) (found : Segment.read input = .boundary) :
    readSegments input = ⟨[], none, input⟩ := by
  rw [readSegments]
  split <;> simp_all

theorem readSegments_failed (input unread : List Char) (error : QuoteError)
    (found : Segment.read input = .failed error unread) :
    readSegments input = ⟨[], some error, unread⟩ := by
  rw [readSegments]
  split <;> simp_all

theorem readSegments_segment (input rest : List Char) (segment : Segment)
    (found : Segment.read input = .segment segment rest) :
    readSegments input =
      { readSegments rest with segments := segment :: (readSegments rest).segments } := by
  rw [readSegments]
  split <;> simp_all

theorem readSegments_unread_le (input : List Char) (complete : (readSegments input).error? = none) :
    (readSegments input).unread.length ≤ input.length ∧
      (Segment.read input ≠ .boundary → (readSegments input).unread.length < input.length) := by
  fun_induction readSegments input with
  | case1 _ boundary => exact ⟨Nat.le_refl _, fun more => absurd boundary more⟩
  | case2 => cases complete
  | case3 _ _ rest found _ ih =>
      have shorter := Nat.lt_of_le_of_lt (ih complete).1 (Segment.read_shortens _ _ _ found)
      exact ⟨Nat.le_of_lt shorter, fun _ => shorter⟩

def segmentation (input : List Char) : Segmentation :=
  match _start : input.dropWhile isBlank with
  | [] => ⟨[], none⟩
  | first :: rest =>
      let run := readSegments (first :: rest)
      match _complete : run.error? with
      | some error => ⟨[], some ⟨run.segments, error, run.unread⟩⟩
      | none =>
          let later := segmentation run.unread
          { later with groups := run.segments :: later.groups }
termination_by input.length
decreasing_by
  have skipped := (List.dropWhile_suffix (l := input) isBlank).length_le
  have noBlank : isBlank first = false := by
    simpa [_start] using List.head?_dropWhile_not isBlank input
  have shorter := (readSegments_unread_le (first :: rest) _complete).2
    (Segment.read_ne_boundary first rest noBlank)
  rw [_start] at skipped
  exact Nat.lt_of_lt_of_le shorter skipped

variable {σ : Type u}

def evaluateGroup (resolver : Resolver σ) : List Segment → σ → Except ResolveError String × σ
  | [], state => (.ok "", state)
  | segment :: rest, state =>
      match segment.contribute resolver state with
      | ⟨.error error, _, state⟩ => (.error error, state)
      | ⟨.ok text, _, state⟩ =>
          let later := evaluateGroup resolver rest state
          (later.1.map (text ++ ·), later.2)

def groupResult (error? : Option QuoteError) :
    Except ResolveError String → Except LineError String
  | .error error => .error (.resolver error)
  | .ok text =>
      match error? with
      | some error => .error (.quote error)
      | none => .ok text

theorem groupResult_map (error? : Option QuoteError) (later : Except ResolveError String)
    (text : String) :
    groupResult error? (later.map (text ++ ·)) = (groupResult error? later).map (text ++ ·) := by
  cases later with
  | error => rfl
  | ok => cases error? <;> rfl

/-- The tokens of groups, or the first error in the order of the line. -/
def evaluateGroups (resolver : Resolver σ) (broken? : Option BrokenGroup) :
    List (List Segment) → σ → Except LineError (List String) × σ
  | [], state =>
      match broken? with
      | none => (.ok [], state)
      | some broken =>
          let evaluated := evaluateGroup resolver broken.segments state
          ((groupResult (some broken.error) evaluated.1).map fun _ => [], evaluated.2)
  | group :: rest, state =>
      match evaluateGroup resolver group state with
      | (.error error, state) => (.error (.resolver error), state)
      | (.ok token, state) =>
          let later := evaluateGroups resolver broken? rest state
          (later.1.map (token :: ·), later.2)

def Segmentation.evaluate (resolver : Resolver σ) (segmentation : Segmentation) (state : σ) :
    Except LineError (List String) × σ :=
  evaluateGroups resolver segmentation.broken? segmentation.groups state

theorem readToken_eq_evaluateGroup (resolver : Resolver σ) (input : List Char) (state : σ) :
    (readToken resolver input state).result =
        groupResult (readSegments input).error?
          (evaluateGroup resolver (readSegments input).segments state).1 ∧
      (readToken resolver input state).state =
        (evaluateGroup resolver (readSegments input).segments state).2 := by
  fun_induction readToken resolver input state with
  | case1 _ _ found => simp [readSegments_boundary _ found, evaluateGroup, groupResult]
  | case2 _ _ _ _ found => simp [readSegments_failed _ _ _ found, evaluateGroup, groupResult]
  | case3 _ _ _ _ found _ _ _ failed =>
      simp [readSegments_segment _ _ _ found, evaluateGroup, failed, groupResult]
  | case4 _ _ _ _ found _ _ _ added ih =>
      simp [readSegments_segment _ _ _ found, evaluateGroup, added, groupResult_map,
        TokenReading.after, ih]

theorem readToken_unread (resolver : Resolver σ) (input : List Char) (state : σ) (token : String)
    (complete : (readToken resolver input state).result = .ok token) :
    (readToken resolver input state).unread = (readSegments input).unread := by
  fun_induction readToken resolver input state generalizing token with
  | case1 _ _ found => simp [readSegments_boundary _ found]
  | case2 => cases complete
  | case3 => cases complete
  | case4 _ _ _ _ found _ _ _ _ ih =>
      obtain ⟨later, complete, _⟩ := TokenReading.after_result_ok complete
      simpa [readSegments_segment _ _ _ found, TokenReading.after] using ih later complete

/-- Reading the rest of a line is evaluating its segmentation. -/
theorem all_eq_evaluate (resolver : Resolver σ) (line : String) (input : List Char) (state : σ) :
    ((Reader.mk line input false).all resolver state).result =
        ((segmentation input).evaluate resolver state).1 ∧
      ((Reader.mk line input false).all resolver state).state =
        ((segmentation input).evaluate resolver state).2 := by
  fun_induction segmentation input generalizing state with
  | case1 input start =>
      rw [Reader.all_end _ _ _ _ _ _ (Reader.next_end resolver line input state start)]
      simp [Segmentation.evaluate, evaluateGroups]
  | case2 input first rest start run error broken =>
      obtain ⟨result, left⟩ := readToken_eq_evaluateGroup resolver (first :: rest) state
      cases reading : readToken resolver (first :: rest) state with
      | mk answer unread later events =>
      cases evaluated : evaluateGroup resolver run.segments state with
      | mk text after =>
      cases answer with
      | ok token => cases text <;> simp_all [groupResult, run]
      | error failure =>
          rw [Reader.all_error _ _ _ _ _ _ _
            (Reader.next_error resolver line input rest unread first state later failure events
              start reading)]
          cases text <;> simp_all [Segmentation.evaluate, evaluateGroups, groupResult, run, Except.map]
  | case3 input first rest start run complete later ih =>
      obtain ⟨result, left⟩ := readToken_eq_evaluateGroup resolver (first :: rest) state
      cases reading : readToken resolver (first :: rest) state with
      | mk answer unread after events =>
      cases evaluated : evaluateGroup resolver run.segments state with
      | mk text evaluatedAfter =>
      simp only [Segmentation.evaluate, evaluateGroups, evaluated]
      cases answer with
      | ok token =>
          have same := readToken_unread resolver (first :: rest) state token (by rw [reading])
          rw [Reader.all_token _ _ _ _ _ _ _
            (Reader.next_token resolver line input rest unread first state after token events
              start reading)]
          cases text <;> simp_all [Segmentation.evaluate, groupResult, run, Step.after, later]
      | error failure =>
          rw [Reader.all_error _ _ _ _ _ _ _
            (Reader.next_error resolver line input rest unread first state after failure events
              start reading)]
          cases text <;> simp_all [groupResult, run]

end StatementLine
