import StatementLine.Proofs.Concatenation
import StatementLine.Proofs.Doubling

/-!
Lines of values that were written between quotes. `split_quotations` says which lists of values
are given back when such a line is split, and that nothing is asked for them.
-/

universe u

namespace StatementLine

variable {σ : Type u}

theorem Quotation.joinTexts_span (quotation : Quotation) (raw text : String) (later : List Segment)
    (resolutions : List Resolution) :
    joinTexts (.quoted ⟨quotation.kind, raw, text⟩ :: later) resolutions =
      text ++ joinTexts later resolutions := by
  cases quotation with
  | literal => rfl
  | identifier => rfl

structure QuotedValue where
  gap : String
  quotation : Quotation
  value : String
deriving Repr, DecidableEq

namespace QuotedValue

def written (quoted : QuotedValue) : String :=
  quoted.quotation.write quoted.value

def Keeps (quoted : QuotedValue) : Prop :=
  quoted.quotation.Keeps quoted.value

instance (quoted : QuotedValue) : Decidable quoted.Keeps :=
  inferInstanceAs (Decidable (quoted.quotation.Keeps quoted.value))

def segment (quoted : QuotedValue) : Segment :=
  .quoted ⟨quoted.quotation.kind, String.ofList (quoted.quotation.inside quoted.value), quoted.value⟩

theorem toList_source (quoted : QuotedValue) :
    quoted.segment.source.toList = quoted.written.toList := by
  rw [written, Quotation.toList_write]
  simp [segment, Segment.source, QuotedSpan.source]

theorem segment_lookup? (quoted : QuotedValue) : quoted.segment.lookup? = none := by
  rcases quoted with ⟨gap, literal | identifier, value⟩
  · rfl
  · rfl

theorem joinTexts_segment (quoted : QuotedValue) (resolutions : List Resolution) :
    joinTexts [quoted.segment] resolutions = quoted.value := by
  rw [segment, Quotation.joinTexts_span, joinTexts, String.append_empty]

theorem Keeps.stands {quoted : QuotedValue} (keeps : quoted.Keeps) {rest : List Char}
    (boundary : AtBoundary rest) : quoted.segment.StandsBefore rest := by
  refine .quoted ?_ (boundary.closes _)
  simpa using Quotation.Keeps.content keeps rest

end QuotedValue

def quotedLine : List QuotedValue → String → String
  | [], trail => trail
  | quoted :: later, trail => quoted.gap ++ quoted.written ++ quotedLine later trail

theorem toList_quotedLine_cons (quoted : QuotedValue) (later : List QuotedValue) (trail : String) :
    (quotedLine (quoted :: later) trail).toList = quoted.gap.toList ++
      quoted.quotation.kind.delimiter :: (quoted.quotation.inside quoted.value ++
        quoted.quotation.kind.delimiter :: (quotedLine later trail).toList) := by
  simp [quotedLine, QuotedValue.written, Quotation.toList_write]

theorem quotedLine_append (first second : List QuotedValue) (trail : String) :
    quotedLine (first ++ second) trail = quotedLine first (quotedLine second trail) := by
  induction first with
  | nil => rfl
  | cons quoted later ih => rw [List.cons_append, quotedLine, quotedLine, ih]

def quotedGroups (values : List QuotedValue) : List (List Segment) :=
  values.map fun quoted => [quoted.segment]

theorem lookupsOf_quotedGroups (values : List QuotedValue) :
    lookupsOf (quotedGroups values).flatten = [] := by
  simp [lookupsOf, quotedGroups, QuotedValue.segment_lookup?]

theorem tokenTexts_quotedGroups (values : List QuotedValue) (resolutions : List Resolution) :
    tokenTexts (quotedGroups values) resolutions = values.map QuotedValue.value := by
  induction values generalizing resolutions with
  | nil => rfl
  | cons quoted later ih =>
      rw [quotedGroups, List.map_cons, tokenTexts, quoted.joinTexts_segment]
      exact congrArg _ (ih _)

structure Spaced (values : List QuotedValue) : Prop where
  white : ∀ quoted ∈ values, ∀ c ∈ quoted.gap.toList, isBlank c = true
  apart : ∀ quoted ∈ values.tail, quoted.gap ≠ ""

instance (values : List QuotedValue) : Decidable (Spaced values) :=
  have check : (values.all (fun quoted => quoted.gap.toList.all isBlank) = true ∧
      ∀ quoted ∈ values.tail, quoted.gap ≠ "") ↔ Spaced values :=
    ⟨fun ⟨white, apart⟩ => ⟨by simpa using white, apart⟩,
      fun spaced => ⟨by simpa using spaced.white, spaced.apart⟩⟩
  decidable_of_decidable_of_iff check

namespace Spaced

theorem later {quoted : QuotedValue} {values : List QuotedValue}
    (spaced : Spaced (quoted :: values)) : Spaced values :=
  ⟨fun other member => spaced.white other (List.mem_cons_of_mem quoted member),
    fun other member => spaced.apart other (List.mem_of_mem_tail member)⟩

theorem left {first second : List QuotedValue} (spaced : Spaced (first ++ second)) :
    Spaced first := by
  refine ⟨fun quoted member => spaced.white quoted (List.mem_append_left second member), ?_⟩
  cases first with
  | nil => exact fun _ never => nomatch never
  | cons quoted first =>
      exact fun other member => spaced.apart other (List.mem_append_left second member)

theorem right {first second : List QuotedValue} (spaced : Spaced (first ++ second)) :
    Spaced second := by
  induction first with
  | nil => exact spaced
  | cons quoted first ih => exact ih spaced.later

theorem gap_white {quoted : QuotedValue} {values : List QuotedValue}
    (spaced : Spaced (quoted :: values)) : quoted.gap.toList.all isBlank = true :=
  List.all_eq_true.mpr (spaced.white quoted List.mem_cons_self)

theorem boundary {first second : List QuotedValue} {trail : String}
    (spaced : Spaced (first ++ second)) (something : first ≠ [])
    (ends : second = [] → AtBoundary trail.toList) :
    AtBoundary (quotedLine second trail).toList := by
  cases second with
  | nil => exact ends rfl
  | cons next second =>
      have apart : next.gap ≠ "" := by
        cases first with
        | nil => contradiction
        | cons quoted first => exact spaced.apart next (List.mem_append_right first List.mem_cons_self)
      have present : next.gap.toList ≠ [] := fun nothing => apart (String.toList_eq_nil_iff.mp nothing)
      simp only [quotedLine, String.toList_append, List.append_assoc]
      exact .of_gap present spaced.right.gap_white _

end Spaced

theorem segmentation_quotedLine {values : List QuotedValue} {trail : String} (spaced : Spaced values)
    (kept : ∀ quoted ∈ values, quoted.Keeps) (ends : values ≠ [] → AtBoundary trail.toList) :
    segmentation (quotedLine values trail).toList =
      (segmentation trail.toList).precededBy (quotedGroups values) := by
  induction values with
  | nil => rfl
  | cons quoted later ih =>
      have something : quoted :: later ≠ [] := List.cons_ne_nil quoted later
      have apart : Spaced ([quoted] ++ later) := spaced
      have boundary := apart.boundary (List.cons_ne_nil quoted []) fun _ => ends something
      have keeps := kept quoted List.mem_cons_self
      have run : RunGrammar (sources [quoted.segment] ++ (quotedLine later trail).toList)
          ⟨[quoted.segment], none, (quotedLine later trail).toList⟩ :=
        .complete (.cons (keeps.stands boundary) .nil) boundary
      have token := (segmentation_eq_iff _ _).mpr (.token spaced.gap_white (List.cons_ne_nil _ _) run
        (segmentation_grammar _))
      rw [ih spaced.later (fun other member => kept other (List.mem_cons_of_mem quoted member))
        fun _ => ends something] at token
      have characters : (quotedLine (quoted :: later) trail).toList = quoted.gap.toList ++
          (sources [quoted.segment] ++ (quotedLine later trail).toList) := by
        simp [quotedLine, quoted.toList_source]
      rw [characters]
      exact token

section Split

variable (resolver : Resolver σ) (state : σ)

theorem split_quotedLine (trail : String) {values : List QuotedValue} (spaced : Spaced values)
    (kept : ∀ quoted ∈ values, quoted.Keeps) (ends : values ≠ [] → AtBoundary trail.toList) :
    (split resolver (quotedLine values trail) state).result =
        (split resolver trail state).result.map (values.map QuotedValue.value ++ ·) ∧
      (split resolver (quotedLine values trail) state).state = (split resolver trail state).state ∧
      lookupsMade resolver (quotedLine values trail) state = lookupsMade resolver trail state := by
  have layout := segmentation_quotedLine spaced kept ends
  have lookups : (segmentation (quotedLine values trail).toList).lookups =
      (segmentation trail.toList).lookups := by
    rw [layout, Segmentation.lookups_precededBy, lookupsOf_quotedGroups, List.nil_append]
  obtain ⟨wholeResult, wholeState⟩ := split_eq_outcome resolver (quotedLine values trail) state
  obtain ⟨trailResult, trailState⟩ := split_eq_outcome resolver trail state
  rw [lookups] at wholeResult wholeState
  refine ⟨?_, ?_, ?_⟩
  · have outcome := (segmentation trail.toList).outcome_precededBy (quotedGroups values)
      (inquire resolver [] state) (inquire resolver (segmentation trail.toList).lookups) rfl
      (by rw [lookupsOf_quotedGroups]; rfl)
    rw [← inquire_append, List.nil_append, tokenTexts_quotedGroups] at outcome
    rw [wholeResult, layout, outcome, trailResult]
    rfl
  · rw [wholeState, trailState]
  · rw [lookupsMade_eq_take, lookupsMade_eq_take, lookups]

theorem split_quotedLine_append (trail : String) {first second : List QuotedValue}
    (spaced : Spaced (first ++ second)) (kept : ∀ quoted ∈ first, quoted.Keeps)
    (something : second ≠ []) :
    (split resolver (quotedLine (first ++ second) trail) state).result =
      (split resolver (quotedLine second trail) state).result.map
        (first.map QuotedValue.value ++ ·) := by
  rw [quotedLine_append]
  exact (split_quotedLine resolver state (quotedLine second trail) spaced.left kept fun present =>
    spaced.boundary present fun nothing => absurd nothing something).1

theorem split_white {trail : String} (white : trail.toList.all isBlank = true) :
    (split resolver trail state).result = .ok [] ∧ (split resolver trail state).state = state ∧
      lookupsMade resolver trail state = [] := by
  obtain ⟨result, left⟩ := split_eq_outcome resolver trail state
  rw [segmentation_gap white] at result left
  refine ⟨result, left, ?_⟩
  rw [lookupsMade_eq_take, segmentation_gap white]
  rfl

theorem split_lost {quoted : QuotedValue} (lost : ¬ quoted.Keeps)
    (white : quoted.gap.toList.all isBlank = true) (later : List QuotedValue) (trail : String)
    (others : List String) :
    (split resolver (quotedLine (quoted :: later) trail) state).result ≠
      .ok (quoted.value :: others) := by
  intro success
  rw [(split_eq_outcome resolver _ state).1] at success
  obtain ⟨unbroken, tokens⟩ := Segmentation.outcome_eq_ok success
  rw [toList_quotedLine_cons, segmentation_text white (QuoteKind.read_delimiter_ne_boundary _ _)]
    at unbroken tokens
  have found := Segment.read_delimiter quoted.quotation.kind
    (quoted.quotation.inside quoted.value ++
      quoted.quotation.kind.delimiter :: (quotedLine later trail).toList)
  cases reading : quoted.quotation.kind.readSpan (quoted.quotation.inside quoted.value ++
      quoted.quotation.kind.delimiter :: (quotedLine later trail).toList) with
  | failed error unread =>
      rw [reading] at found
      rw [readSegments_failed _ _ _ found] at unbroken
      cases unbroken
  | closed raw text rest =>
      rw [reading] at found
      rw [readSegments_segment _ _ _ found] at unbroken tokens
      rcases run : readSegments rest with ⟨segments, _ | error, unread⟩ <;>
        simp only [run] at unbroken tokens
      -- The token begins with the text of the span, whatever the segments behind it come to.
      · have token := (List.cons.inj tokens).1
        rw [Quotation.joinTexts_span] at token
        apply Quotation.readSpan_lost_text lost reading
        rw [token, String.toList_append, String.toList_ofList]
        exact List.prefix_append text _
      · cases unbroken

theorem split_refused {quoted : QuotedValue} (lost : ¬ quoted.Keeps)
    (identifier : quoted.quotation = .identifier)
    (white : quoted.gap.toList.all isBlank = true) (later : List QuotedValue) (trail : String) :
    (split resolver (quotedLine (quoted :: later) trail) state).result =
      .error (.quote .invalid) := by
  obtain ⟨gap, quotation, value⟩ := quoted
  subst identifier
  obtain ⟨unread, refused⟩ := Quotation.readSpan_refused lost (quotedLine later trail).toList
  have found := Segment.read_delimiter .double
    (Quotation.identifier.inside value ++ '"' :: (quotedLine later trail).toList)
  rw [refused] at found
  rw [(split_eq_outcome resolver _ state).1, toList_quotedLine_cons,
    segmentation_text white (QuoteKind.read_delimiter_ne_boundary _ _)]
  have broken := readSegments_failed _ _ _ found
  simp only [Quotation.kind, QuoteKind.delimiter] at broken ⊢
  rw [broken]
  rfl

end Split

theorem kept_or_first_lost (values : List QuotedValue) :
    (∀ quoted ∈ values, quoted.Keeps) ∨
      ∃ before lost later, values = before ++ lost :: later ∧
        (∀ quoted ∈ before, quoted.Keeps) ∧ ¬ lost.Keeps := by
  cases found : values.find? fun quoted => !decide quoted.Keeps with
  | none => exact .inl fun quoted member => by simpa using List.find?_eq_none.mp found quoted member
  | some lost =>
      obtain ⟨notKept, before, later, cut, kept⟩ := List.find?_eq_some_iff_append.mp found
      exact .inr ⟨before, lost, later, cut, fun quoted member => by simpa using kept quoted member,
        by simpa using notKept⟩

/-- Values that are written between quotes, with white space between them, come back exactly if no
literal among them has a backslash in front of a quote or at its end and no identifier has a
backslash. Nothing is asked for them. If an identifier is the first that does not come back, the line
is refused. -/
theorem split_quotations (resolver : Resolver σ) (values : List QuotedValue) (trail : String)
    (state : σ) (spaced : Spaced values) (white : ∀ c ∈ trail.toList, isBlank c = true) :
    let line := quotedLine values trail
    let outcome := split resolver line state
    (outcome.result = .ok (values.map QuotedValue.value) ↔ ∀ quoted ∈ values, quoted.Keeps) ∧
    ((∀ quoted ∈ values, quoted.Keeps) →
      lookupsMade resolver line state = [] ∧ outcome.state = state) ∧
    ∀ before lost later, values = before ++ lost :: later →
      (∀ quoted ∈ before, quoted.Keeps) → ¬ lost.Keeps → lost.quotation = .identifier →
      outcome.result = .error (.quote .invalid) := by
  intro line outcome
  have allWhite : trail.toList.all isBlank = true := List.all_eq_true.mpr white
  have kept : (∀ quoted ∈ values, quoted.Keeps) →
      outcome.result = .ok (values.map QuotedValue.value) ∧ outcome.state = state ∧
        lookupsMade resolver line state = [] := by
    intro keeps
    obtain ⟨result, left, lookups⟩ := split_quotedLine resolver state trail spaced keeps
      fun _ => AtBoundary.of_white allWhite
    obtain ⟨nothing, unchanged, unasked⟩ := split_white resolver state allWhite
    refine ⟨?_, left.trans unchanged, lookups.trans unasked⟩
    simp [outcome, line, result, nothing, Except.map]
  refine ⟨⟨?_, fun keeps => (kept keeps).1⟩, fun keeps => ⟨(kept keeps).2.2, (kept keeps).2.1⟩, ?_⟩
  · intro same
    refine (kept_or_first_lost values).resolve_right ?_
    rintro ⟨before, lost, later, rfl, keeps, notKept⟩
    have result := split_quotedLine_append resolver state trail spaced keeps
      (List.cons_ne_nil lost later)
    have whole : (split resolver line state).result = _ := same
    rw [result, List.map_append] at whole
    cases tokens : (split resolver (quotedLine (lost :: later) trail) state).result with
    | error error =>
        rw [tokens] at whole
        cases whole
    | ok others =>
        rw [tokens] at whole
        have rest := List.append_cancel_left (Except.ok.inj whole)
        rw [rest] at tokens
        exact split_lost resolver state notKept spaced.right.gap_white later trail _ tokens
  · rintro before lost later rfl keeps notKept identifier
    have result := split_quotedLine_append resolver state trail spaced keeps
      (List.cons_ne_nil lost later)
    rw [split_refused resolver state notKept identifier spaced.right.gap_white] at result
    exact result

theorem split_quotations_backslash :
    let resolver : Resolver (List Answer) := Resolver.scripted
    let kept : List QuotedValue :=
      [⟨"", .literal, "'it''s \\n"⟩, ⟨"\t ", .identifier, "\"\" :x"⟩, ⟨"\n", .literal, ""⟩]
    let refused : List QuotedValue := [⟨" ", .identifier, "c:\\"⟩, ⟨" ", .literal, "\\'"⟩]
    Spaced kept ∧ Spaced (kept ++ refused) ∧ (∀ c ∈ " ".toList, isBlank c = true) ∧
    quotedLine kept " " = "'''it''''s \\n'\t \"\"\"\"\" :x\"\n'' " ∧
    (split resolver (quotedLine kept " ") []).result = .ok ["'it''s \\n", "\"\" :x", ""] ∧
    lookupsMade resolver (quotedLine kept " ") [] = [] ∧
    (split resolver (quotedLine (kept ++ refused) " ") []).result = .error (.quote .invalid) := by
  intro resolver kept refused
  have spaced : Spaced kept := by decide +kernel
  have allSpaced : Spaced (kept ++ refused) := by decide +kernel
  have white : ∀ c ∈ " ".toList, isBlank c = true :=
    List.all_eq_true.mp (by decide : " ".toList.all isBlank = true)
  have keeps : ∀ quoted ∈ kept, quoted.Keeps := by decide +kernel
  obtain ⟨result, quiet, _⟩ := split_quotations resolver kept " " [] spaced white
  obtain ⟨_, _, fails⟩ := split_quotations resolver (kept ++ refused) " " [] allSpaced white
  exact ⟨spaced, allSpaced, white, by decide +kernel, result.mpr keeps, (quiet keeps).1,
    fails kept _ _ rfl keeps (by decide +kernel) rfl⟩

end StatementLine
