import StatementLine.Proofs.SegmentGrammar
import StatementLine.Segmentation

/-!
The grammar of a line: rows of segments with white space between them. `segmentation_eq_iff`
says that every line has exactly one layout by this grammar and that scanning finds it;
the layout holds every character of the line.
-/

namespace StatementLine

def sources (segments : List Segment) : List Char :=
  segments.flatMap fun segment => segment.source.toList

@[simp] theorem sources_nil : sources [] = [] := rfl

@[simp] theorem sources_cons (segment : Segment) (later : List Segment) :
    sources (segment :: later) = segment.source.toList ++ sources later := rfl

@[simp] theorem sources_append (first second : List Segment) :
    sources (first ++ second) = sources first ++ sources second :=
  List.flatMap_append

/-- Segments that stand one behind the other, the last of them before `rest`. -/
inductive Row (rest : List Char) : List Segment → Prop
  | nil : Row rest []
  | cons {segment later} : segment.StandsBefore (sources later ++ rest) → Row rest later →
      Row rest (segment :: later)

inductive RunGrammar : List Char → SegmentRun → Prop
  | complete {segments rest} : Row rest segments → AtBoundary rest →
      RunGrammar (sources segments ++ rest) ⟨segments, none, rest⟩
  | broken {segments error unread} {kind : QuoteKind} {body} : Row (kind.delimiter :: body) segments →
      SpanEnd kind body (.failed error unread) →
      RunGrammar (sources segments ++ kind.delimiter :: body) ⟨segments, some error, unread⟩

inductive LineGrammar : List Char → Segmentation → Prop
  | blank {gap} : gap.all isBlank = true → LineGrammar gap ⟨[], none⟩
  | token {gap input group rest later} : gap.all isBlank = true → group ≠ [] →
      RunGrammar input ⟨group, none, rest⟩ → LineGrammar rest later →
      LineGrammar (gap ++ input) { later with groups := group :: later.groups }
  | broken {gap input segments error unread} : gap.all isBlank = true →
      RunGrammar input ⟨segments, some error, unread⟩ →
      LineGrammar (gap ++ input) ⟨[], some ⟨segments, error, unread⟩⟩

theorem LineGrammar.single {gap : List Char} {group : List Segment} (white : gap.all isBlank = true)
    (something : group ≠ []) (row : Row [] group) :
    LineGrammar (gap ++ sources group) ⟨[group], none⟩ := by
  have run : RunGrammar (sources group ++ []) ⟨group, none, []⟩ := .complete row .nil
  rw [List.append_nil] at run
  exact .token white something run (.blank rfl)

theorem RunGrammar.cons {input : List Char} {run : SegmentRun} {segment : Segment}
    (stands : segment.StandsBefore input) (grammar : RunGrammar input run) :
    RunGrammar (segment.source.toList ++ input) { run with segments := segment :: run.segments } := by
  cases grammar with
  | complete row boundary =>
      rw [← List.append_assoc]
      exact .complete (.cons stands row) boundary
  | broken row ending =>
      rw [← List.append_assoc]
      exact .broken (.cons stands row) ending

theorem readSegments_row {rest : List Char} {segments : List Segment} (row : Row rest segments) :
    readSegments (sources segments ++ rest) =
      { readSegments rest with segments := segments ++ (readSegments rest).segments } := by
  induction row with
  | nil => rfl
  | cons stands _ ih =>
      rw [sources_cons, List.append_assoc,
        readSegments_segment _ _ _ (Segment.read_source stands), ih]
      rfl

theorem readSegments_grammar (input : List Char) : RunGrammar input (readSegments input) := by
  fun_induction readSegments input with
  | case1 input boundary =>
      have stop : RunGrammar (sources [] ++ input) ⟨[], none, input⟩ :=
        .complete .nil ((Segment.read_eq_boundary_iff input).mp boundary)
      exact stop
  | case2 input error unread failed =>
      obtain ⟨kind, body, rfl, ending⟩ := (Segment.read_eq_failed_iff _ _ _).mp failed
      have stop : RunGrammar (sources [] ++ kind.delimiter :: body) ⟨[], some error, unread⟩ :=
        .broken .nil ending
      exact stop
  | case3 input segment rest found later ih =>
      obtain ⟨rfl, stands⟩ := (Segment.read_eq_segment_iff _ _ _).mp found
      exact ih.cons stands

theorem readSegments_eq_iff (input : List Char) (run : SegmentRun) :
    readSegments input = run ↔ RunGrammar input run := by
  constructor
  · rintro rfl
    exact readSegments_grammar input
  · intro grammar
    cases grammar with
    | complete row boundary =>
        have ended := readSegments_boundary _ ((Segment.read_eq_boundary_iff _).mpr boundary)
        simp [readSegments_row row, ended]
    | broken row ending =>
        have failed := readSegments_failed _ _ _
          ((Segment.read_eq_failed_iff _ _ _).mpr ⟨_, _, rfl, ending⟩)
        simp [readSegments_row row, failed]

theorem RunGrammar.boundary_iff {input : List Char} {run : SegmentRun}
    (grammar : RunGrammar input run) :
    Segment.read input = .boundary ↔ run.segments = [] ∧ run.error? = none := by
  cases grammar with
  | complete row boundary =>
      cases row with
      | nil => simpa using (Segment.read_eq_boundary_iff _).mpr boundary
      | cons stands _ => simp [Segment.read_source stands]
  | broken row ending =>
      cases row with
      | nil => simp [(Segment.read_eq_failed_iff _ _ _).mpr ⟨_, _, rfl, ending⟩]
      | cons stands _ => simp [Segment.read_source stands]

theorem dropWhile_gap {gap input : List Char} (white : gap.all isBlank = true)
    (text : Segment.read input ≠ .boundary) :
    ∃ first rest, input = first :: rest ∧ (gap ++ input).dropWhile isBlank = first :: rest := by
  rw [Ne, Segment.read_eq_boundary_iff] at text
  cases input with
  | nil => exact absurd AtBoundary.nil text
  | cons first rest =>
      have notBlank : isBlank first = false := by simpa [AtBoundary.cons_iff] using text
      exact ⟨first, rest, rfl, (RunEnds.cons_iff.mpr notBlank).dropWhile_append gap white⟩

theorem segmentation_gap {gap : List Char} (white : gap.all isBlank = true) :
    segmentation gap = ⟨[], none⟩ := by
  have skipped : gap.dropWhile isBlank = [] := by
    simpa using (RunEnds.nil isBlank).dropWhile_append gap white
  rw [segmentation]
  split
  · rfl
  · simp_all

theorem segmentation_text {gap input : List Char} (white : gap.all isBlank = true)
    (text : Segment.read input ≠ .boundary) :
    segmentation (gap ++ input) =
      match readSegments input with
      | ⟨segments, some error, unread⟩ => ⟨[], some ⟨segments, error, unread⟩⟩
      | ⟨group, none, unread⟩ =>
          { segmentation unread with groups := group :: (segmentation unread).groups } := by
  obtain ⟨first, rest, rfl, skipped⟩ := dropWhile_gap white text
  rw [segmentation]
  split
  · simp_all
  · rename_i other later start
    rw [skipped] at start
    cases start
    cases run : readSegments (first :: rest) with
    | mk segments error? unread =>
        cases error? with
        | none => split <;> simp_all
        | some error => split <;> simp_all

theorem segmentation_start {input rest : List Char} {first : Char}
    (start : input.dropWhile isBlank = first :: rest) :
    segmentation input =
      match readSegments (first :: rest) with
      | ⟨segments, some error, unread⟩ => ⟨[], some ⟨segments, error, unread⟩⟩
      | ⟨group, none, unread⟩ =>
          { segmentation unread with groups := group :: (segmentation unread).groups } := by
  have white : (input.takeWhile isBlank).all isBlank = true := List.all_takeWhile
  have notBlank : isBlank first = false := by
    simpa [start] using List.head?_dropWhile_not isBlank input
  have layout := segmentation_text white (Segment.read_ne_boundary first rest notBlank)
  rwa [← start, List.takeWhile_append_dropWhile, start] at layout

theorem segmentation_grammar (input : List Char) : LineGrammar input (segmentation input) := by
  fun_induction segmentation input with
  | case1 input start =>
      have skipped := List.takeWhile_append_dropWhile (p := isBlank) (l := input)
      rw [start, List.append_nil] at skipped
      rw [← skipped]
      exact .blank List.all_takeWhile
  | case2 input first rest start run error broken =>
      have grammar := readSegments_grammar (first :: rest)
      rw [← List.takeWhile_append_dropWhile (p := isBlank) (l := input), start]
      refine .broken List.all_takeWhile ?_
      rwa [← broken]
  | case3 input first rest start run complete later ih =>
      have grammar := readSegments_grammar (first :: rest)
      have notBlank : isBlank first = false := by
        simpa [start] using List.head?_dropWhile_not isBlank input
      rw [← List.takeWhile_append_dropWhile (p := isBlank) (l := input), start]
      refine .token List.all_takeWhile ?_ ?_ ih
      · intro nothing
        exact Segment.read_ne_boundary first rest notBlank (grammar.boundary_iff.mpr ⟨nothing, complete⟩)
      · rwa [← complete]

/-- Scanning finds the layout that a line has by the grammar, and there is no other. -/
theorem segmentation_eq_iff (input : List Char) (layout : Segmentation) :
    segmentation input = layout ↔ LineGrammar input layout := by
  constructor
  · rintro rfl
    exact segmentation_grammar input
  · intro grammar
    induction grammar with
    | blank white => exact segmentation_gap white
    | token white something run _ ih =>
        have text : Segment.read _ ≠ .boundary := fun boundary =>
          something (run.boundary_iff.mp boundary).1
        rw [segmentation_text white text, (readSegments_eq_iff _ _).mpr run]
        simp [ih]
    | broken white run =>
        have text : Segment.read _ ≠ .boundary := fun boundary => by
          cases (run.boundary_iff.mp boundary).2
        rw [segmentation_text white text, (readSegments_eq_iff _ _).mpr run]

end StatementLine
