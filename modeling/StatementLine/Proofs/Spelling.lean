import StatementLine.Proofs.Inquiry
import StatementLine.Proofs.Seam

/-!
How lookups are spelled. `lookup_spelling` says that the text which stands in the line for a lookup
can be told from the lookup, so that leaving it as it stands is replacing it by that text, and that
the lookup can be told from its own text and from whether it is one of a variable.
-/

universe u v

namespace StatementLine

variable {σ : Type u}

namespace Lookup

def written : Lookup → String
  | value name style => ":" ++ (value name style).text
  | defined name => ":\x7b" ++ (defined name).text ++ "\x7d"
  | command text => "`" ++ text ++ "`"

def ofText (text : String) (ofVariable : Bool) : Lookup :=
  if ofVariable then
    match text.toList with
    | '\'' :: rest => value (String.ofList rest.dropLast) .singleQuoted
    | '"' :: rest => value (String.ofList rest.dropLast) .doubleQuoted
    | '?' :: name => defined (String.ofList name)
    | name => value (String.ofList name) .bare
  else command text

def Named (lookup : Lookup) : Prop :=
  ∀ name, lookup.name? = some name → isIdentifier name = true

theorem ofText_bare {name : String} (identifier : isIdentifier name = true) :
    ofText name true = value name .bare := by
  cases characters : name.toList with
  | nil => simp [isIdentifier, characters, Identifier.accepts] at identifier
  | cons first later =>
      have start : Identifier.isStart first = true := by
        simp only [isIdentifier, characters, Identifier.accepts, Bool.and_eq_true] at identifier
        exact identifier.1
      simp only [ofText, if_true, characters]
      -- No mark can be the first character of a name.
      split
      · rename_i same
        cases same
        contradiction
      · rename_i same
        cases same
        contradiction
      · rename_i same
        cases same
        contradiction
      · rw [← characters, String.ofList_toList]

theorem ofText_text {lookup : Lookup} (named : lookup.Named) :
    ofText lookup.text lookup.isVariable = lookup := by
  cases lookup with
  | value name style =>
      cases style with
      | bare => exact ofText_bare (named name rfl)
      | singleQuoted => simp [ofText, text, isVariable, NameStyle.quote?]
      | doubleQuoted => simp [ofText, text, isVariable, NameStyle.quote?]
  | defined name => simp [ofText, text, isVariable, existenceMarker]
  | command text => rfl

theorem eq_of_text {first second : Lookup} (named : first.Named) (otherNamed : second.Named)
    (sameText : first.text = second.text) (sameKind : first.isVariable = second.isVariable) :
    first = second := by
  rw [← ofText_text named, ← ofText_text otherNamed, sameText, sameKind]

end Lookup

theorem Reference.source_eq_written (reference : Reference) :
    reference.source = reference.lookup.written := by
  obtain ⟨form, name⟩ := reference
  apply String.toList_injective
  cases form with
  | value style =>
      cases style <;>
        simp [source, lookup, Lookup.written, Lookup.text, ReferenceForm.opening,
          ReferenceForm.closing?, NameStyle.quote?]
  | existence =>
      simp [source, lookup, Lookup.written, Lookup.text, ReferenceForm.opening,
        ReferenceForm.closing?, existenceMarker]

theorem Segment.source_of_lookup {segment : Segment} {lookup : Lookup}
    (found : segment.lookup? = some lookup) :
    segment.source = lookup.written ∧ segment.literalText = lookup.written := by
  cases segment with
  | literal => cases found
  | quoted span =>
      obtain ⟨kind, raw, text⟩ := span
      cases kind with
      | single => cases found
      | double => cases found
      | backtick => cases found; exact ⟨rfl, rfl⟩
  | reference reference =>
      cases found
      exact ⟨reference.source_eq_written, reference.source_eq_written⟩

namespace Segmentation

theorem segments_token (layout : Segmentation) (group : List Segment) :
    { layout with groups := group :: layout.groups }.segments = group ++ layout.segments := by
  simp only [segments]
  split <;> simp

end Segmentation

theorem Row.segment_stands {rest : List Char} {segments : List Segment} (row : Row rest segments) :
    ∀ segment ∈ segments, ∃ later, segment.StandsBefore later := by
  induction row with
  | nil => simp
  | cons stands _ ih =>
      intro segment member
      rcases List.mem_cons.mp member with rfl | inLater
      · exact ⟨_, stands⟩
      · exact ih segment inLater

theorem LineGrammar.segment_stands {line : List Char} {layout : Segmentation}
    (grammar : LineGrammar line layout) :
    ∀ segment ∈ layout.segments, ∃ later, segment.StandsBefore later := by
  induction grammar with
  | blank => simp [Segmentation.segments]
  | token _ _ run _ ih =>
      intro segment member
      rw [Segmentation.segments_token] at member
      rcases List.mem_append.mp member with inGroup | inLater
      · cases run with
        | complete row _ => exact row.segment_stands segment inGroup
      · exact ih segment inLater
  | broken _ run =>
      intro segment member
      cases run with
      | broken row _ => exact row.segment_stands segment (by simpa [Segmentation.segments] using member)

theorem Segment.StandsBefore.lookup_named {segment : Segment} {rest : List Char} {lookup : Lookup}
    (stands : segment.StandsBefore rest) (asked : segment.lookup? = some lookup) : lookup.Named := by
  intro name named
  cases stands with
  | literal => cases asked
  | @quoted span _ _ =>
      obtain ⟨kind, raw, text⟩ := span
      cases kind <;> cases asked
      cases named
  | @reference written standsWritten =>
      obtain ⟨form, ownName⟩ := written
      cases asked
      cases form <;> cases named <;> exact standsWritten.1

theorem segmentation_lookups_named (line : List Char) :
    ∀ lookup ∈ (segmentation line).lookups, lookup.Named := by
  intro lookup member
  obtain ⟨segment, inLine, found⟩ := List.mem_filterMap.mp member
  obtain ⟨later, stands⟩ := (segmentation_grammar line).segment_stands segment inLine
  exact stands.lookup_named found

theorem lookupsMade_start (resolver : Resolver σ) (line : String) (state : σ) :
    lookupsMade resolver line state <+: (segmentation line.toList).lookups := by
  rw [lookupsMade_eq_take]
  exact List.take_prefix _ _

/-- A segment and the white space in front of it. -/
structure Place where
  gap : List Char
  segment : Segment

namespace Place

def text (place : Place) : List Char :=
  place.gap ++ place.segment.source.toList

def row (gap : List Char) : List Segment → List Place
  | [] => []
  | segment :: later => ⟨gap, segment⟩ :: later.map (Place.mk [])

theorem segments_row (gap : List Char) (segments : List Segment) :
    (row gap segments).map Place.segment = segments := by
  cases segments with
  | nil => rfl
  | cons segment later => simp [row, Function.comp_def]

theorem text_row (gap : List Char) {segments : List Segment} (something : segments ≠ []) :
    (row gap segments).flatMap text = gap ++ sources segments := by
  cases segments with
  | nil => contradiction
  | cons segment later => simp [row, text, sources, List.flatMap_map]

theorem gap_row {gap : List Char} (white : gap.all isBlank = true) (segments : List Segment) :
    ∀ place ∈ row gap segments, place.gap.all isBlank = true := by
  cases segments with
  | nil => simp [row]
  | cons segment later => simpa [row] using white

end Place

theorem LineGrammar.exists_places {line : List Char} {layout : Segmentation}
    (grammar : LineGrammar line layout) : ∃ (places : List Place) (tail : List Char),
      line = places.flatMap Place.text ++ tail ∧ places.map Place.segment = layout.segments ∧
        ∀ place ∈ places, place.gap.all isBlank = true := by
  induction grammar with
  | @blank gap _ => exact ⟨[], gap, rfl, rfl, by simp⟩
  | @token gap input group rest layout white something run _ ih =>
      obtain ⟨places, tail, whole, segments, gaps⟩ := ih
      cases run with
      | complete row boundary =>
          refine ⟨Place.row gap group ++ places, tail, ?_, ?_, ?_⟩
          · rw [List.flatMap_append, Place.text_row gap something, whole]
            simp
          · rw [List.map_append, Place.segments_row, segments, layout.segments_token]
          · intro place member
            rcases List.mem_append.mp member with inRow | inLater
            · exact Place.gap_row white group place inRow
            · exact gaps place inLater
  | @broken gap input segments error unread white run =>
      cases run with
      | @broken _ _ _ kind body row ending =>
          by_cases nothing : segments = []
          · subst nothing
            exact ⟨[], _, rfl, rfl, by simp⟩
          · refine ⟨Place.row gap segments, kind.delimiter :: body, ?_, ?_, Place.gap_row white segments⟩
            · rw [Place.text_row gap nothing, List.append_assoc]
            · rw [Place.segments_row]
              simp [Segmentation.segments]

def Event.isUnresolved : Event → Bool
  | .unresolved _ => true
  | .token _ => false
  | .abandoned _ _ => false
  | .running _ => false

def withoutUnresolved (events : List Event) : List Event :=
  events.filter fun event => !event.isUnresolved

theorem withoutUnresolved_append (first second : List Event) :
    withoutUnresolved (first ++ second) = withoutUnresolved first ++ withoutUnresolved second :=
  List.filter_append first second

theorem withoutUnresolved_running (invocations : List Invocation) :
    withoutUnresolved (invocations.map Event.running) = invocations.map Event.running := by
  simp [withoutUnresolved, Event.isUnresolved]

/-- Answers with the text that stands in the line where another resolver leaves it there. -/
def Resolver.writingOut (resolver : Resolver σ) : Resolver σ := fun lookup state =>
  match resolver lookup state with
  | ⟨.ok .unhandled, invocations, after⟩ => ⟨.ok (.replaced lookup.written), invocations, after⟩
  | ⟨.ok (.replaced text), invocations, after⟩ => ⟨.ok (.replaced text), invocations, after⟩
  | ⟨.error error, invocations, after⟩ => ⟨.error error, invocations, after⟩

theorem Resolver.writingOut_recorded (resolver : Resolver σ) :
    resolver.writingOut.recorded = resolver.recorded.writingOut := by
  funext lookup ⟨state, noted⟩
  rcases reply : resolver lookup state with ⟨error | (text | _), invocations, after⟩ <;>
    simp only [recorded, writingOut, reply]

def TokenReading.withoutUnresolved (reading : TokenReading σ) : TokenReading σ :=
  { reading with events := StatementLine.withoutUnresolved reading.events }

def Step.withoutUnresolved {α : Type} (step : Step σ α) : Step σ α :=
  { step with events := StatementLine.withoutUnresolved step.events }

section

variable (resolver : Resolver σ)

theorem Segment.contribute_writingOut (segment : Segment) (state : σ) :
    segment.contribute resolver.writingOut state =
      { segment.contribute resolver state with
        events := withoutUnresolved (segment.contribute resolver state).events } := by
  cases found : segment.lookup? with
  | none =>
      simp only [contribute, found]
      rfl
  | some lookup =>
      have kept := (source_of_lookup found).2
      rcases reply : resolver lookup state with ⟨error | (text | _), invocations, after⟩
      · simp only [contribute, found, Resolver.writingOut, reply, withoutUnresolved_running]
      · simp only [contribute, found, Resolver.writingOut, reply, withoutUnresolved_running]
      · simp only [contribute, found, Resolver.writingOut, reply, kept, withoutUnresolved_append,
          withoutUnresolved_running]
        simp [withoutUnresolved, Event.isUnresolved]

theorem readToken_writingOut (input : List Char) (state : σ) :
    readToken resolver.writingOut input state =
      (readToken resolver input state).withoutUnresolved := by
  fun_induction readToken resolver input state with
  | case1 input state boundary => exact readToken_boundary resolver.writingOut input state boundary
  | case2 input state error unread failed =>
      exact readToken_failed resolver.writingOut input unread state error failed
  | case3 input state segment rest found error events after refused =>
      have contributed := segment.contribute_writingOut resolver state
      rw [refused] at contributed
      exact readToken_refused resolver.writingOut input rest state after segment error _ found contributed
  | case4 input state segment rest found text events after added ih =>
      have contributed := segment.contribute_writingOut resolver state
      rw [added] at contributed
      rw [readToken_segment resolver.writingOut input rest state after segment text _ found contributed,
        ih]
      simp only [TokenReading.after, TokenReading.withoutUnresolved, withoutUnresolved_append]

namespace Reader

theorem next_writingOut (reader : Reader) (state : σ) :
    reader.next resolver.writingOut state = (reader.next resolver state).withoutUnresolved := by
  unfold next
  split
  · rfl
  split
  · rfl
  · rename_i first rest _
    rw [readToken_writingOut]
    rcases readToken resolver (first :: rest) state with ⟨error | token, unread, after, events⟩
    · simp [TokenReading.withoutUnresolved, Step.withoutUnresolved, withoutUnresolved,
        Event.isUnresolved]
    · simp [TokenReading.withoutUnresolved, Step.withoutUnresolved, withoutUnresolved,
        Event.isUnresolved]

theorem all_writingOut (reader : Reader) (state : σ) :
    reader.all resolver.writingOut state = (reader.all resolver state).withoutUnresolved := by
  fun_induction reader.all resolver state with
  | case1 reader state error later after events found =>
      have same := reader.next_writingOut resolver state
      rw [found] at same
      exact all_error resolver.writingOut reader later state after error _ same
  | case2 reader state later after events found =>
      have same := reader.next_writingOut resolver state
      rw [found] at same
      exact all_end resolver.writingOut reader later state after _ same
  | case3 reader state token later after events found ih =>
      have same := reader.next_writingOut resolver state
      rw [found] at same
      rw [all_token resolver.writingOut reader later state after token _ same, ih]
      simp only [Step.after, Step.withoutUnresolved, withoutUnresolved_append]

end Reader

end

/-- Each lookup of a line stands in it as it is written, apart from the others and in their order, and
this is the text that is kept if nothing replaces it. So to be left as it stands and to be replaced by
this text is the same, but for the note in the trace. A lookup is known by its text and by whether it
is one of a variable. -/
theorem lookup_spelling (resolver : Resolver σ) (line : String) (state : σ) :
    (∃ (places : List Place) (tail : List Char),
      line.toList = places.flatMap Place.text ++ tail ∧
      places.map Place.segment = (segmentation line.toList).segments ∧
      (∀ place ∈ places, place.gap.all isBlank = true) ∧
      lookupsMade resolver line state <+: places.filterMap (fun place => place.segment.lookup?) ∧
      ∀ place ∈ places, ∀ lookup, place.segment.lookup? = some lookup →
        place.segment.source = lookup.written ∧ place.segment.literalText = lookup.written) ∧
    split resolver.writingOut line state = (split resolver line state).withoutUnresolved ∧
    lookupsMade resolver.writingOut line state = lookupsMade resolver line state ∧
    ∀ lookup ∈ lookupsMade resolver line state,
      Lookup.ofText lookup.text lookup.isVariable = lookup ∧
      ∀ {τ : Type v} (other : Resolver τ) (otherLine : String) (start : τ),
        ∀ another ∈ lookupsMade other otherLine start, lookup.text = another.text →
          lookup.isVariable = another.isVariable → lookup = another := by
  refine ⟨?_, Reader.all_writingOut resolver _ state, ?_, ?_⟩
  · obtain ⟨places, tail, whole, segments, gaps⟩ := (segmentation_grammar line.toList).exists_places
    refine ⟨places, tail, whole, segments, gaps, ?_, fun place _ _ => Segment.source_of_lookup⟩
    have lookups : places.filterMap (fun place => place.segment.lookup?) =
        (segmentation line.toList).lookups := by
      rw [Segmentation.lookups, lookupsOf, ← segments, List.filterMap_map]
      rfl
    rw [lookups]
    exact lookupsMade_start resolver line state
  · rw [lookupsMade, resolver.writingOut_recorded]
    exact congrArg (fun step => step.state.2) (Reader.all_writingOut resolver.recorded _ (state, []))
  · intro lookup member
    have named := segmentation_lookups_named _ lookup
      ((lookupsMade_start resolver line state).subset member)
    refine ⟨Lookup.ofText_text named, ?_⟩
    intro τ other otherLine start another otherMember sameText sameKind
    have otherNamed := segmentation_lookups_named _ another
      ((lookupsMade_start other otherLine start).subset otherMember)
    exact Lookup.eq_of_text named otherNamed sameText sameKind

end StatementLine
