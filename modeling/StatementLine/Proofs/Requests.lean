import StatementLine.Proofs.Inquiry
import StatementLine.Proofs.LineGrammar

/-!
What segments ask for and what stands in a token for each of them, by rules for every kind of segment
that mention neither `Segment.lookup?` nor `Segment.literalText`. `split_eq_inquiry` says that
splitting keeps to these rules and to the grammar of lines, for every resolver.
-/

universe u

namespace StatementLine

variable {σ : Type u}

/-- What references and backtick spans ask for, and how they are written. -/
inductive Segment.Asks : Segment → Lookup → String → Prop
  | bare {name} : Asks (.reference ⟨.value .bare, name⟩) (.value name .bare) (":" ++ name)
  | singleQuoted {name} :
      Asks (.reference ⟨.value .singleQuoted, name⟩) (.value name .singleQuoted) (":'" ++ name ++ "'")
  | doubleQuoted {name} :
      Asks (.reference ⟨.value .doubleQuoted, name⟩) (.value name .doubleQuoted)
        (":\"" ++ name ++ "\"")
  | existence {name} :
      Asks (.reference ⟨.existence, name⟩) (.defined name) (":\x7b?" ++ name ++ "\x7d")
  | backtick {raw text} : Asks (.quoted ⟨.backtick, raw, text⟩) (.command raw) ("`" ++ raw ++ "`")

inductive Segment.Silent : Segment → String → Prop
  | literal {text} : Silent (.literal text) text
  | singleQuoted {raw text} : Silent (.quoted ⟨.single, raw, text⟩) text
  | doubleQuoted {raw text} : Silent (.quoted ⟨.double, raw, text⟩) text

inductive Asked : List Segment → List Lookup → Prop
  | nil : Asked [] []
  | silent {segment text later lookups} : Segment.Silent segment text → Asked later lookups →
      Asked (segment :: later) lookups
  | asks {segment lookup written later lookups} : Segment.Asks segment lookup written →
      Asked later lookups → Asked (segment :: later) (lookup :: lookups)

/-- The text of segments: what replaces a segment, or what is written where nothing replaces it. -/
inductive Joined : List Segment → List Resolution → String → Prop
  | nil : Joined [] [] ""
  | silent {segment text later resolutions rest} : Segment.Silent segment text →
      Joined later resolutions rest → Joined (segment :: later) resolutions (text ++ rest)
  | replaced {segment lookup written text later resolutions rest} :
      Segment.Asks segment lookup written → Joined later resolutions rest →
      Joined (segment :: later) (.replaced text :: resolutions) (text ++ rest)
  | unhandled {segment lookup written later resolutions rest} :
      Segment.Asks segment lookup written → Joined later resolutions rest →
      Joined (segment :: later) (.unhandled :: resolutions) (written ++ rest)

inductive JoinedTokens : List (List Segment) → List Resolution → List String → Prop
  | nil : JoinedTokens [] [] []
  | cons {group resolutions token groups others tokens} : Joined group resolutions token →
      JoinedTokens groups others tokens →
      JoinedTokens (group :: groups) (resolutions ++ others) (token :: tokens)

variable {segment : Segment} {segments : List Segment} {lookup : Lookup} {lookups : List Lookup}
  {resolutions : List Resolution} {text written : String}

namespace Segment

theorem literalText_bare (name : String) :
    (reference ⟨.value .bare, name⟩).literalText = ":" ++ name := by
  apply String.toList_inj.mp
  simp [literalText, Reference.source, ReferenceForm.opening, ReferenceForm.closing?, NameStyle.quote?]

theorem asks_iff : segment.Asks lookup written ↔
    segment.lookup? = some lookup ∧ segment.literalText = written := by
  constructor
  · intro asks
    cases asks with
    | bare => exact ⟨rfl, literalText_bare _⟩
    | singleQuoted => exact ⟨rfl, rfl⟩
    | doubleQuoted => exact ⟨rfl, rfl⟩
    | existence => exact ⟨rfl, rfl⟩
    | backtick => exact ⟨rfl, rfl⟩
  · rintro ⟨found, rfl⟩
    cases segment with
    | literal => cases found
    | quoted span =>
        obtain ⟨kind, raw, text⟩ := span
        cases kind <;> cases found
        exact .backtick
    | reference written =>
        obtain ⟨form, name⟩ := written
        cases form with
        | existence =>
            cases found
            exact .existence
        | value style =>
            cases style <;> cases found
            · rw [literalText_bare]
              exact .bare
            · exact .singleQuoted
            · exact .doubleQuoted

theorem silent_iff : segment.Silent text ↔ segment.lookup? = none ∧ segment.literalText = text := by
  constructor
  · intro quiet
    cases quiet <;> exact ⟨rfl, rfl⟩
  · rintro ⟨nothing, rfl⟩
    cases segment with
    | literal => exact .literal
    | quoted span =>
        obtain ⟨kind, raw, text⟩ := span
        cases kind <;> cases nothing
        · exact .singleQuoted
        · exact .doubleQuoted
    | reference => cases nothing

end Segment

theorem asked_iff : Asked segments lookups ↔ lookups = lookupsOf segments := by
  constructor
  · intro asked
    induction asked with
    | nil => rfl
    | silent quiet _ ih =>
        rw [ih, lookupsOf, lookupsOf, List.filterMap_cons_none (Segment.silent_iff.mp quiet).1]
    | asks asks _ ih =>
        rw [ih, lookupsOf, lookupsOf, List.filterMap_cons_some (Segment.asks_iff.mp asks).1]
  · rintro rfl
    induction segments with
    | nil => exact .nil
    | cons segment later ih =>
        cases found : segment.lookup? with
        | none =>
            rw [lookupsOf, List.filterMap_cons_none found]
            exact .silent (Segment.silent_iff.mpr ⟨found, rfl⟩) ih
        | some lookup =>
            rw [lookupsOf, List.filterMap_cons_some found]
            exact .asks (Segment.asks_iff.mpr ⟨found, rfl⟩) ih

theorem joined_iff : Joined segments resolutions text ↔
    resolutions.length = (lookupsOf segments).length ∧ text = joinTexts segments resolutions := by
  constructor
  · intro joined
    induction joined with
    | nil => exact ⟨rfl, rfl⟩
    | silent quiet _ ih =>
        obtain ⟨nothing, stands⟩ := Segment.silent_iff.mp quiet
        rw [lookupsOf, List.filterMap_cons_none nothing]
        exact ⟨ih.1, by simp only [joinTexts, nothing, stands, ← ih.2]⟩
    | replaced asks _ ih =>
        have found := (Segment.asks_iff.mp asks).1
        rw [lookupsOf, List.filterMap_cons_some found]
        exact ⟨congrArg (· + 1) ih.1, by simp only [joinTexts, found, Segment.textFor, ← ih.2]⟩
    | unhandled asks _ ih =>
        obtain ⟨found, stands⟩ := Segment.asks_iff.mp asks
        rw [lookupsOf, List.filterMap_cons_some found]
        exact ⟨congrArg (· + 1) ih.1, by simp only [joinTexts, found, Segment.textFor, stands, ← ih.2]⟩
  · rintro ⟨enough, rfl⟩
    induction segments generalizing resolutions with
    | nil =>
        rw [List.eq_nil_of_length_eq_zero enough]
        exact .nil
    | cons segment later ih =>
        cases found : segment.lookup? with
        | none =>
            rw [lookupsOf, List.filterMap_cons_none found] at enough
            simp only [joinTexts, found]
            exact .silent (Segment.silent_iff.mpr ⟨found, rfl⟩) (ih enough)
        | some lookup =>
            rw [lookupsOf, List.filterMap_cons_some found] at enough
            have asks := Segment.asks_iff.mpr ⟨found, rfl⟩
            cases resolutions with
            | nil => cases enough
            | cons resolution others =>
                have rest := ih (Nat.succ.inj enough)
                simp only [joinTexts, found]
                cases resolution with
                | replaced text => exact .replaced asks rest
                | unhandled => exact .unhandled asks rest

theorem joinedTokens_iff {groups : List (List Segment)} {tokens : List String} :
    JoinedTokens groups resolutions tokens ↔
      resolutions.length = (lookupsOf groups.flatten).length ∧
        tokens = tokenTexts groups resolutions := by
  constructor
  · intro joined
    induction joined with
    | nil => exact ⟨rfl, rfl⟩
    | @cons group first token groups others tokens joined _ ih =>
        obtain ⟨enough, rfl⟩ := joined_iff.mp joined
        obtain ⟨left, rfl⟩ := ih
        refine ⟨?_, ?_⟩
        · rw [List.flatten_cons, lookupsOf_append, List.length_append, List.length_append, enough, left]
        · rw [tokenTexts, joinTexts_append group first others (Nat.le_of_eq enough.symm), ← enough,
            List.drop_left]
  · rintro ⟨enough, rfl⟩
    induction groups generalizing resolutions with
    | nil =>
        rw [List.eq_nil_of_length_eq_zero enough]
        exact .nil
    | cons group later ih =>
        rw [List.flatten_cons, lookupsOf_append, List.length_append] at enough
        let count := (lookupsOf group).length
        have first : (resolutions.take count).length = count := by
          rw [List.length_take]
          omega
        have others : (resolutions.drop count).length = (lookupsOf later.flatten).length := by
          rw [List.length_drop]
          omega
        have whole := JoinedTokens.cons (joined_iff.mpr ⟨first, rfl⟩) (ih others)
        rw [← joinTexts_append group (resolutions.take count) (resolutions.drop count)
          (Nat.le_of_eq first.symm), List.take_append_drop] at whole
        exact whole

namespace Segmentation

theorem outcome_eq_ok_iff (layout : Segmentation) {inquiry : Inquiry σ} {tokens : List String}
    (answered : inquiry.failure? = none → inquiry.resolutions.length = layout.lookups.length) :
    layout.outcome inquiry = .ok tokens ↔ inquiry.failure? = none ∧ layout.broken? = none ∧
      JoinedTokens layout.groups inquiry.resolutions tokens := by
  rw [joinedTokens_iff]
  cases failure : inquiry.failure? with
  | some error => simp [outcome_failed failure]
  | none =>
      cases unbroken : layout.broken? with
      | some broken => simp [outcome_broken failure unbroken]
      | none =>
          have enough := answered failure
          rw [lookups, segments, unbroken] at enough
          simp [outcome_complete failure unbroken, enough, eq_comm]

theorem outcome_eq_error_iff (layout : Segmentation) {inquiry : Inquiry σ} {error : LineError} :
    layout.outcome inquiry = .error error ↔
      (∃ refused, inquiry.failure? = some refused ∧ error = .resolver refused) ∨
      inquiry.failure? = none ∧ ∃ broken, layout.broken? = some broken ∧ error = .quote broken.error := by
  cases failure : inquiry.failure? with
  | some refused => simp [outcome_failed failure, eq_comm]
  | none =>
      cases unbroken : layout.broken? with
      | some broken => simp [outcome_broken failure unbroken, eq_comm]
      | none => simp [outcome_complete failure unbroken]

end Segmentation

/-- Splitting puts the lookups of the line's segmentation to the resolver, in their order and no
others, up to the first that fails: those that its references and backtick spans ask for, one for each.
The segmentation is the one that the grammar gives the line. The tokens are joined from the answers, and
the first failure in the order of the line is the result. -/
theorem split_eq_inquiry (resolver : Resolver σ) (line : String) (state : σ) :
    let layout := segmentation line.toList
    let inquiry := inquire resolver layout.lookups state
    (split resolver line state).result = layout.outcome inquiry ∧
    (split resolver line state).state = inquiry.state ∧
    (∀ earlier,
      (split resolver.recorded line (state, earlier)).result = layout.outcome inquiry ∧
      (split resolver.recorded line (state, earlier)).state =
        (inquiry.state, earlier ++ layout.lookups.take inquiry.asked)) ∧
    (∀ other, LineGrammar line.toList other ↔ other = layout) ∧
    (∀ lookups, Asked layout.segments lookups ↔ lookups = layout.lookups) ∧
    (∀ tokens, (split resolver line state).result = .ok tokens ↔
      inquiry.failure? = none ∧ layout.broken? = none ∧
        JoinedTokens layout.groups inquiry.resolutions tokens) ∧
    ∀ error, (split resolver line state).result = .error error ↔
      (∃ refused, inquiry.failure? = some refused ∧ error = .resolver refused) ∨
      inquiry.failure? = none ∧ ∃ broken, layout.broken? = some broken ∧ error = .quote broken.error := by
  intro layout inquiry
  obtain ⟨result, left⟩ := split_eq_outcome resolver line state
  refine ⟨result, left, ?_, ?_, fun lookups => asked_iff, ?_, ?_⟩
  · intro earlier
    obtain ⟨recordedResult, recordedLeft⟩ := split_eq_outcome resolver.recorded line (state, earlier)
    rw [inquire_recorded] at recordedResult recordedLeft
    exact ⟨recordedResult, recordedLeft⟩
  · intro other
    rw [← segmentation_eq_iff, eq_comm]
  · intro tokens
    rw [result]
    exact layout.outcome_eq_ok_iff (inquire_resolutions_length resolver layout.lookups state)
  · intro error
    rw [result]
    exact layout.outcome_eq_error_iff

end StatementLine
