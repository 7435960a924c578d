import StatementLine.Proofs.Concatenation

/-!
Lines put together with nothing between them. A segment in delimiters ends where its closing
delimiter stands, so what comes behind it goes on with the same token: `split_adjacent`. The one
exception is a quote rune behind a span of its own kind, which is the first half of a pair.
-/

universe u

namespace StatementLine

variable {σ : Type u} {line tail : List Char} {segment : Segment}

namespace Segment

def isDelimited : Segment → Bool
  | literal _ => false
  | quoted _ => true
  | reference written => written.form.closing?.isSome

def ClosesBefore (rest : List Char) : Segment → Prop
  | literal _ => True
  | quoted span => span.kind.Closes rest
  | reference _ => True

end Segment

/-- A line that scans without error, with nothing behind its last segment. -/
structure EndsIn (line : List Char) (segment : Segment) : Prop where
  unbroken : (segmentation line).broken? = none
  last : (segmentation line).segments.getLast? = some segment
  atEnd : segment.source.toList <:+ line

def Segmentation.startingWith (layout : Segmentation) (segments : List Segment) : Segmentation :=
  match layout.groups, layout.broken? with
  | group :: groups, broken? => ⟨(segments ++ group) :: groups, broken?⟩
  | [], some broken => ⟨[], some { broken with segments := segments ++ broken.segments }⟩
  | [], none => ⟨[segments], none⟩

def closingDelimiters : List Char := ['\'', '"', '`', '}']

theorem closingDelimiters_apart : ∀ delimiter ∈ closingDelimiters,
    Identifier.isContinue delimiter = false ∧ delimiter ≠ existenceMarker ∧
      isBlank delimiter = false := by
  intro delimiter closing
  simp only [closingDelimiters, List.mem_cons, List.not_mem_nil, or_false] at closing
  rcases closing with rfl | rfl | rfl | rfl <;> decide

def Enclosed (text : List Char) : Prop :=
  ∃ body, ∃ delimiter ∈ closingDelimiters, text = body ++ [delimiter] ∧ body ≠ []

theorem Enclosed.append {text : List Char} (enclosed : Enclosed text) (front : List Char) :
    Enclosed (front ++ text) := by
  obtain ⟨body, delimiter, closing, rfl, something⟩ := enclosed
  exact ⟨front ++ body, delimiter, closing, by simp, by simp [something]⟩

theorem Enclosed.ne_nil {text : List Char} (enclosed : Enclosed text) : text ≠ [] := by
  obtain ⟨body, delimiter, _, rfl, _⟩ := enclosed
  simp

theorem Enclosed.getLast {text : List Char} (enclosed : Enclosed text) :
    ∃ delimiter, text.getLast? = some delimiter ∧ isBlank delimiter = false := by
  obtain ⟨body, delimiter, closing, rfl, _⟩ := enclosed
  exact ⟨delimiter, by simp, (closingDelimiters_apart delimiter closing).2.2⟩

namespace Reference

variable {reference : Reference}

theorem mem_inside {c : Char} (member : c ∈ (reference.source.toList.drop 2).dropLast) :
    c ∈ reference.name.toList ∨ c = existenceMarker := by
  obtain ⟨form, name⟩ := reference
  cases form with
  | value style =>
      left
      cases style with
      | bare =>
          have inName := (List.dropLast_sublist _).subset member
          simp only [source, ReferenceForm.opening, ReferenceForm.closing?, NameStyle.quote?,
            Option.toList_none, String.toList_append, String.toList_ofList, List.append_nil,
            List.singleton_append, List.drop_succ_cons] at inName
          exact List.mem_of_mem_drop inName
      | singleQuoted =>
          simpa [source, ReferenceForm.opening, ReferenceForm.closing?, NameStyle.quote?] using member
      | doubleQuoted =>
          simpa [source, ReferenceForm.opening, ReferenceForm.closing?, NameStyle.quote?] using member
  | existence =>
      have behind : (Reference.mk .existence name).source.toList.drop 2 =
          (existenceMarker :: name.toList) ++ ['}'] := by
        simp [source, ReferenceForm.opening, ReferenceForm.closing?]
      rw [behind, List.dropLast_concat, List.mem_cons] at member
      exact member.symm

theorem not_beyond_enclosed {first c : Char} {plain text excess : List Char}
    (enclosed : Enclosed text) (accepted : Identifier.accepts reference.name.toList = true) :
    reference.source.toList ≠ first :: plain ++ text ++ c :: excess := by
  obtain ⟨body, delimiter, closing, rfl, something⟩ := enclosed
  obtain ⟨notContinue, notMarker, _⟩ := closingDelimiters_apart delimiter closing
  intro reaches
  have cut : reference.source.toList = (first :: plain ++ body) ++ delimiter :: c :: excess := by
    simpa using reaches
  have two : 2 ≤ (first :: plain ++ body).length := by
    have present := List.length_pos_iff.mpr something
    simp only [List.cons_append, List.length_cons, List.length_append]
    omega
  have inside : delimiter ∈ (reference.source.toList.drop 2).dropLast := by
    rw [cut, List.drop_append_of_le_length two, List.dropLast_append_of_ne_nil (by simp)]
    simp
  rcases mem_inside inside with inName | marker
  · rw [accepts_isContinue accepted delimiter inName] at notContinue
    cases notContinue
  · exact notMarker marker

end Reference

namespace Segment

theorem source_enclosed (delimited : segment.isDelimited = true) :
    Enclosed segment.source.toList := by
  cases segment with
  | literal => cases delimited
  | quoted span =>
      obtain ⟨kind, raw, text⟩ := span
      refine ⟨kind.delimiter :: raw.toList, kind.delimiter, ?_, ?_, by simp⟩
      · cases kind <;> decide
      · simp [source, QuotedSpan.source]
  | reference written =>
      obtain ⟨form, name⟩ := written
      obtain ⟨delimiter, closing⟩ := Option.isSome_iff_exists.mp delimited
      refine ⟨form.opening ++ name.toList, delimiter, ?_, ?_, ?_⟩
      · cases form with
        | value style => cases style <;> cases closing <;> decide
        | existence => cases closing; decide
      · simp only at closing
        simp [source, Reference.source, closing]
      · cases form <;> simp [ReferenceForm.opening]

theorem StandsBefore.close {rest : List Char} (stands : segment.StandsBefore rest)
    (delimited : segment.isDelimited = true) (closes : segment.ClosesBefore tail) :
    segment.StandsBefore tail := by
  cases stands with
  | literal => cases delimited
  | quoted content _ => exact .quoted (content.following_head rfl) closes
  | reference written =>
      refine .reference ⟨written.1, fun bare => ?_⟩
      simp [isDelimited, bare, ReferenceForm.closing?, NameStyle.quote?] at delimited

theorem StandsBefore.enclosed {text : List Char} (stands : segment.StandsBefore text)
    (enclosed : Enclosed text) : segment.StandsBefore (text ++ tail) := by
  refine stands.extend_within enclosed.ne_nil ?_
  intro reference accepted first plain c excess
  exact reference.not_beyond_enclosed enclosed accepted

end Segment

namespace Row

variable {segments second : List Segment} {rest : List Char}

theorem close (row : Row [] (segments ++ [segment])) (delimited : segment.isDelimited = true)
    (closes : segment.ClosesBefore tail) : Row tail (segments ++ [segment]) := by
  induction segments with
  | nil =>
      cases row with
      | cons stands _ => exact .cons (stands.close delimited closes) .nil
  | cons other segments ih =>
      cases row with
      | cons stands later =>
          refine .cons (Segment.StandsBefore.enclosed (by simpa using stands) ?_) (ih later)
          simpa using (Segment.source_enclosed delimited).append (sources segments)

theorem append (row : Row (sources second ++ rest) segments) (later : Row rest second) :
    Row rest (segments ++ second) := by
  induction row with
  | nil => exact later
  | cons stands _ ih =>
      refine .cons ?_ ih
      simpa using stands

end Row

theorem gap_eq_nil {gap input : List Char} (white : gap.all isBlank = true)
    (text : ¬AtBoundary (gap ++ input)) : gap = [] := by
  cases gap with
  | nil => rfl
  | cons c rest =>
      simp only [List.all_cons, Bool.and_eq_true] at white
      exact absurd (AtBoundary.cons_iff.mpr white.1) text

theorem LineGrammar.startingWith {gap : List Char} {group : List Segment} {later : Segmentation}
    (white : gap.all isBlank = true) (row : Row tail group) (something : group ≠ [])
    (text : ¬AtBoundary tail) (grammar : LineGrammar tail later) :
    LineGrammar (gap ++ (sources group ++ tail)) (later.startingWith group) := by
  cases grammar with
  | blank whiteTail =>
      exact absurd (AtBoundary.of_white whiteTail) text
  | token whiteLine _ run others =>
      obtain rfl := gap_eq_nil whiteLine text
      cases run with
      | complete ownRow boundary =>
          rw [List.nil_append, ← List.append_assoc (sources group), ← sources_append]
          exact .token white (by simp [something]) (.complete (row.append ownRow) boundary) others
  | broken whiteLine run =>
      obtain rfl := gap_eq_nil whiteLine text
      cases run with
      | broken ownRow ending =>
          rw [List.nil_append, ← List.append_assoc (sources group), ← sources_append]
          exact .broken white (.broken (row.append ownRow) ending)

theorem LineGrammar.ne_nil {layout : Segmentation} (grammar : LineGrammar line layout)
    (present : layout.groups ≠ []) : line ≠ [] := by
  rintro rfl
  rw [← (segmentation_eq_iff _ _).mpr grammar, segmentation_gap rfl] at present
  contradiction

theorem LineGrammar.blank_of_groups {layout : Segmentation} (grammar : LineGrammar line layout)
    (unbroken : layout.broken? = none) (none : layout.groups = []) : line.all isBlank = true := by
  cases grammar with
  | blank white => exact white
  | token => cases none
  | broken => cases unbroken

theorem LineGrammar.groups_ne_nil {layout : Segmentation} (grammar : LineGrammar line layout) :
    ∀ group ∈ layout.groups, group ≠ [] := by
  induction grammar with
  | blank => simp
  | token _ something _ _ ih =>
      intro group member
      rcases List.mem_cons.mp member with rfl | later
      · exact something
      · exact ih group later
  | broken => simp

theorem getLast?_append {α : Type} {front rest : List α} (present : rest ≠ []) :
    (front ++ rest).getLast? = rest.getLast? := by
  rw [List.getLast?_append, List.getLast?_eq_some_getLast present, Option.some_or]

theorem LineGrammar.adjoin {layout later : Segmentation} {final : Char}
    (grammar : LineGrammar line layout) (unbroken : layout.broken? = none)
    (last : layout.groups.flatten.getLast? = some segment) (ending : line.getLast? = some final)
    (notBlank : isBlank final = false) (delimited : segment.isDelimited = true)
    (closes : segment.ClosesBefore tail) (text : ¬AtBoundary tail)
    (second : LineGrammar tail later) :
    ∃ earlier group, layout.groups = earlier ++ [group] ∧
      LineGrammar (line ++ tail) ((later.startingWith group).precededBy earlier) := by
  induction grammar with
  | blank => cases last
  | token white something run more ih =>
      rename_i gap input group rest layout
      cases run with
      | complete row boundary =>
          rw [← List.append_assoc] at ending
          by_cases single : layout.groups = []
          · have whiteRest : rest.all isBlank = true := more.blank_of_groups unbroken single
            have nothing : rest = [] := by
              -- White space behind the last segment would be the end of the line.
              apply Decidable.byContradiction
              intro present
              rw [getLast?_append present] at ending
              have blank := List.all_eq_true.mp whiteRest final (List.mem_of_getLast? ending)
              rw [blank] at notBlank
              cases notBlank
            subst nothing
            have lastOfGroup : group.getLast? = some segment := by simpa [single] using last
            obtain ⟨segments, rfl⟩ := List.getLast?_eq_some_iff.mp lastOfGroup
            refine ⟨[], segments ++ [segment], by simp [single], ?_⟩
            rw [List.append_nil, List.append_assoc]
            exact .startingWith white (row.close delimited closes) something text second
          · have behind : rest.getLast? = some final := by
              rw [← ending, getLast?_append (more.ne_nil single)]
            have present : layout.groups.flatten ≠ [] := by
              obtain ⟨other, groups, cut⟩ := List.exists_cons_of_ne_nil single
              have something := more.groups_ne_nil other (by simp [cut])
              simp [cut, something]
            rw [List.flatten_cons, getLast?_append present] at last
            obtain ⟨earlier, final, cut, grammar⟩ := ih unbroken last behind
            refine ⟨group :: earlier, final, by simp [cut], ?_⟩
            obtain ⟨first, others, rfl⟩ := List.exists_cons_of_ne_nil (more.ne_nil single)
            have further : AtBoundary (first :: others ++ tail) :=
              AtBoundary.cons_iff.mpr (AtBoundary.cons_iff.mp boundary)
            rw [List.append_assoc, List.append_assoc]
            exact .token white something (.complete (row.change boundary further) further) grammar
  | broken => cases unbroken

namespace Segmentation

theorem segments_of_unbroken {layout : Segmentation} (unbroken : layout.broken? = none) :
    layout.segments = layout.groups.flatten := by
  simp only [segments, unbroken]

theorem lookups_startingWith (layout : Segmentation) (group : List Segment) :
    (layout.startingWith group).lookups = lookupsOf group ++ layout.lookups := by
  obtain ⟨groups, broken?⟩ := layout
  simp only [lookups, ← lookupsOf_append]
  cases groups with
  | cons first groups => cases broken? <;> simp [segments, startingWith]
  | nil => cases broken? <;> simp [segments, startingWith]

theorem startingWith_broken (layout : Segmentation) (group : List Segment) :
    (layout.startingWith group).broken?.map BrokenGroup.error =
      layout.broken?.map BrokenGroup.error := by
  obtain ⟨groups, broken?⟩ := layout
  cases groups <;> cases broken? <;> rfl

end Segmentation

def glueTo (text : String) : List String → List String
  | [] => [text]
  | token :: others => (text ++ token) :: others

theorem tokenTexts_startingWith {layout : Segmentation} (unbroken : layout.broken? = none)
    (group : List Segment) (resolutions others : List Resolution)
    (enough : resolutions.length = (lookupsOf group).length) :
    tokenTexts (layout.startingWith group).groups (resolutions ++ others) =
      glueTo (joinTexts group resolutions) (tokenTexts layout.groups others) := by
  obtain ⟨groups, broken?⟩ := layout
  subst unbroken
  cases groups with
  | nil =>
      simp only [Segmentation.startingWith, tokenTexts, glueTo]
      rw [joinTexts_append group resolutions others (by omega)]
  | cons first groups =>
      simp only [Segmentation.startingWith, tokenTexts, glueTo]
      rw [joinTexts_row group first resolutions others enough, lookupsOf_append,
        List.length_append, ← enough, List.drop_length_add_append]

/-- What two adjacent lines come to when the first asks without failing: the tokens of the first,
the last of them glued to what the second comes to. -/
theorem Segmentation.outcome_adjoined (layout : Segmentation) (earlier : List (List Segment))
    (group : List Segment) (first : Inquiry σ) (later : σ → Inquiry σ)
    (complete : first.failure? = none)
    (enough : first.resolutions.length = (lookupsOf (earlier ++ [group]).flatten).length) :
    ∃ tokens last, tokenTexts (earlier ++ [group]) first.resolutions = tokens ++ [last] ∧
      ((layout.startingWith group).precededBy earlier).outcome (first.andThen later) =
        (layout.outcome (later first.state)).map fun others => tokens ++ glueTo last others := by
  let asked := (lookupsOf earlier.flatten).length
  let before := first.resolutions.take asked
  let own := first.resolutions.drop asked
  have cut : first.resolutions = before ++ own := (List.take_append_drop asked _).symm
  rw [List.flatten_append, lookupsOf_append, List.length_append, List.flatten_singleton] at enough
  have beforeEnough : before.length = (lookupsOf earlier.flatten).length := by
    simp only [before, List.length_take, asked]
    omega
  have ownEnough : own.length = (lookupsOf group).length := by
    simp only [own, List.length_drop, asked]
    omega
  refine ⟨tokenTexts earlier before, joinTexts group own, ?_, ?_⟩
  · rw [cut, tokenTexts_append earlier [group] before own beforeEnough]
    rfl
  · refine outcome_andThen _ complete (layout.startingWith_broken group) ?_
    intro unbroken others
    rw [cut, List.append_assoc, precededBy, tokenTexts_append earlier _ before _ beforeEnough,
      tokenTexts_startingWith unbroken group own others ownEnough]

theorem LineGrammar.groups_of_text {layout : Segmentation} (grammar : LineGrammar line layout)
    (unbroken : layout.broken? = none) (text : ¬AtBoundary line) : layout.groups ≠ [] := by
  intro none
  exact text (AtBoundary.of_white (grammar.blank_of_groups unbroken none))

theorem EndsIn.adjoin (ends : EndsIn line segment) (delimited : segment.isDelimited = true)
    (closes : segment.ClosesBefore tail) (text : ¬AtBoundary tail) :
    ∃ earlier group, (segmentation line).groups = earlier ++ [group] ∧
      segmentation (line ++ tail) =
        ((segmentation tail).startingWith group).precededBy earlier := by
  obtain ⟨unbroken, last, front, cut⟩ := ends
  obtain ⟨delimiter, ending, notBlank⟩ := (Segment.source_enclosed delimited).getLast
  rw [Segmentation.segments_of_unbroken unbroken] at last
  have lineEnding : line.getLast? = some delimiter := by
    have present := (Segment.source_enclosed delimited).ne_nil
    rw [← cut, getLast?_append present, ending]
  obtain ⟨earlier, group, groups, grammar⟩ := (segmentation_grammar line).adjoin unbroken last
    lineEnding notBlank delimited closes text (segmentation_grammar tail)
  exact ⟨earlier, group, groups, (segmentation_eq_iff _ _).mpr grammar⟩

/-- A line that ends in delimiters and a line that begins with text are split in turn, and the last
token of the first and the first token of the second are one. -/
theorem split_adjacent (resolver : Resolver σ) (first second : String) (segment : Segment) (state : σ)
    (ends : EndsIn first.toList segment) (delimited : segment.isDelimited = true)
    (something : second ≠ "") (text : ∀ c, second.toList.head? = some c → isBlank c = false)
    (closes : segment.ClosesBefore second.toList) :
    let head := split resolver first state
    let whole := split resolver (first ++ second) state
    match head.result with
    | .error error =>
        whole.result = .error error ∧ whole.state = head.state ∧
          lookupsMade resolver (first ++ second) state = lookupsMade resolver first state
    | .ok tokens =>
        let later := split resolver second head.state
        whole.state = later.state ∧
          lookupsMade resolver (first ++ second) state =
            lookupsMade resolver first state ++ lookupsMade resolver second head.state ∧
          match later.result with
          | .error error => whole.result = .error error
          | .ok others => ∃ earlier last next rest, tokens = earlier ++ [last] ∧
              others = next :: rest ∧ whole.result = .ok (earlier ++ (last ++ next) :: rest) := by
  intro head whole
  have boundary : ¬AtBoundary second.toList := by
    intro blank
    cases characters : second.toList with
    | nil => exact something (String.toList_eq_nil_iff.mp characters)
    | cons c rest =>
        have notBlank := text c (by simp [characters])
        rw [blank c (by simp [characters])] at notBlank
        cases notBlank
  obtain ⟨earlier, group, groups, layout⟩ := ends.adjoin delimited closes boundary
  rw [← String.toList_append] at layout
  have unbroken := ends.unbroken
  have firstLookups : (segmentation first.toList).lookups =
      lookupsOf (earlier ++ [group]).flatten := by
    rw [Segmentation.lookups, Segmentation.segments_of_unbroken unbroken, groups]
  have lookups : (segmentation (first ++ second).toList).lookups =
      (segmentation first.toList).lookups ++ (segmentation second.toList).lookups := by
    rw [layout, Segmentation.lookups_precededBy, Segmentation.lookups_startingWith, firstLookups,
      List.flatten_append, lookupsOf_append, List.flatten_singleton, List.append_assoc]
  obtain ⟨headResult, headState⟩ := split_eq_outcome resolver first state
  cases failure : (inquire resolver (segmentation first.toList).lookups state).failure? with
  | some error =>
      have start : (segmentation first.toList).lookups <+:
          (segmentation (first ++ second).toList).lookups := ⟨_, lookups.symm⟩
      obtain ⟨same, sameState, sameLookups⟩ := split_eq_of_inquiry_eq resolver start
        (inquire_of_start start failure)
        (by rw [Segmentation.outcome_failed failure, Segmentation.outcome_failed failure])
      rw [Segmentation.outcome_failed failure] at headResult
      simp only [head, headResult]
      exact ⟨same.trans headResult, sameState, sameLookups⟩
  | none =>
      obtain ⟨result, left, made⟩ := split_eq_of_lookups_append resolver second failure lookups
      have enough := inquire_resolutions_length resolver _ state failure
      rw [firstLookups] at enough
      obtain ⟨tokens, last, texts, outcome⟩ := (segmentation second.toList).outcome_adjoined earlier
        group _ (inquire resolver (segmentation second.toList).lookups) failure
        (by rw [firstLookups]; exact enough)
      rw [Segmentation.outcome_complete failure unbroken, groups, texts] at headResult
      have laterResult := (split_eq_outcome resolver second head.state).1
      rw [layout, outcome, ← headState, ← laterResult] at result
      simp only [head, headResult]
      refine ⟨left, made, ?_⟩
      cases later : (split resolver second head.state).result with
      | error error =>
          rw [later] at result
          exact result
      | ok others =>
          rw [later] at result laterResult
          obtain ⟨laterUnbroken, rfl⟩ := Segmentation.outcome_eq_ok laterResult.symm
          obtain ⟨next, rest, cut⟩ := List.exists_cons_of_ne_nil
            ((segmentation_grammar second.toList).groups_of_text laterUnbroken boundary)
          rw [cut] at result ⊢
          exact ⟨tokens, last, _, _, rfl, rfl, result⟩

theorem split_adjacent_quotes :
    let resolver : Resolver (List Answer) := Resolver.scripted
    let state : List Answer := [.ok (.replaced "1 2"), .ok .unhandled, .ok (.replaced "TRUE")]
    let first := "k `c`:\"n\""
    let second := "\"b\" :\x7b?m\x7d"
    let segment : Segment := .reference ⟨.value .doubleQuoted, "n"⟩
    EndsIn first.toList segment ∧ segment.isDelimited = true ∧ second ≠ "" ∧
    (∀ c, second.toList.head? = some c → isBlank c = false) ∧ segment.ClosesBefore second.toList ∧
    (split resolver (first ++ second) state).result = .ok ["k", "1 2:\"n\"b", "TRUE"] ∧
    lookupsMade resolver (first ++ second) state =
      [.command "c", .value "n" .doubleQuoted, .defined "m"] := by
  intro resolver state first second segment
  have ends : EndsIn first.toList segment :=
    ⟨by decide +kernel, by decide +kernel, by decide +kernel⟩
  have something : second ≠ "" := by decide
  have text : ∀ c, second.toList.head? = some c → isBlank c = false := by
    intro c head
    obtain rfl : '"' = c := by simpa [second] using head
    decide
  have parts := split_adjacent resolver first second segment state ends rfl something text trivial
  have head : (split resolver first state).result = .ok ["k", "1 2:\"n\""] :=
    ok_of_toOption (by decide +kernel)
  have later : (split resolver second (split resolver first state).state).result =
      .ok ["b", "TRUE"] := ok_of_toOption (by decide +kernel)
  have headLookups : lookupsMade resolver first state =
      [.command "c", .value "n" .doubleQuoted] := by decide +kernel
  have laterLookups : lookupsMade resolver second (split resolver first state).state =
      [.defined "m"] := by decide +kernel
  simp only [head, later] at parts
  obtain ⟨_, lookups, earlier, last, next, rest, tokens, others, result⟩ := parts
  have cut : earlier ++ [last] = ["k"] ++ ["1 2:\"n\""] := tokens.symm
  obtain ⟨rfl, sameLast⟩ := List.append_inj' cut rfl
  cases sameLast
  cases others
  refine ⟨ends, rfl, something, text, trivial, ?_, ?_⟩
  · rw [result]
    rfl
  · rw [lookups, headLookups, laterLookups]
    rfl

end StatementLine
