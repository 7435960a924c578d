import Mathlib.Data.List.DropRight
import StatementLine.Proofs.Accounts
import StatementLine.Proofs.Commands
import StatementLine.Proofs.Concatenation

/-!
What takes the place of a command. `Substitution` has a rule for each way in which running a command
can end, and `command_substitution` says that commands are answered by these rules. A line then holds
the answer as it is, or it fails with the error and asks nothing more.
-/

universe u

namespace StatementLine

variable {σ : Type u}

/-- What a command comes to. Whether it could be started counts first, then its status, then whether
its output is a text, of which the line breaks at the end are left out. -/
inductive Substitution (command : String) : Except StartFailure Ended → Answer → Prop
  | cannotStart {failure} :
      Substitution command (.error failure) (.error (.cannotStart command failure))
  | failed {ended} : ended.status ≠ .exited 0 →
      Substitution command (.ok ended) (.error (.failed command ended.status))
  | noText {ended} : ended.status = .exited 0 → (∀ text : String, text.toUTF8 ≠ ended.output) →
      Substitution command (.ok ended) (.error (.outputNotUtf8 ended.output.toList))
  | replaced {ended kept breaks} : ended.status = .exited 0 → (kept ++ breaks).toUTF8 = ended.output →
      (∀ c ∈ breaks.toList, c = '\n' ∨ c = '\r') →
      (∀ c, kept.toList.getLast? = some c → c ≠ '\n' ∧ c ≠ '\r') →
      Substitution command (.ok ended) (.ok (.replaced kept))

theorem fromUTF8?_eq_some_iff (bytes : ByteArray) (text : String) :
    String.fromUTF8? bytes = some text ↔ text.toUTF8 = bytes := by
  unfold String.fromUTF8?
  constructor
  · intro found
    split at found
    · cases found
      rfl
    · cases found
  · rintro rfl
    rw [String.toUTF8_eq_toByteArray, dif_pos text.isValidUTF8]
    rfl

theorem fromUTF8?_eq_none_iff (bytes : ByteArray) :
    String.fromUTF8? bytes = none ↔ ∀ text : String, text.toUTF8 ≠ bytes := by
  rw [Option.eq_none_iff_forall_ne_some]
  simp only [ne_eq, fromUTF8?_eq_some_iff]

theorem isLineBreak_iff (c : Char) : isLineBreak c = true ↔ c = '\n' ∨ c = '\r' := by
  simp [isLineBreak]

theorem isLineBreak_eq_false_iff (c : Char) : isLineBreak c = false ↔ c ≠ '\n' ∧ c ≠ '\r' := by
  simp [isLineBreak]

theorem exists_trailingLineBreaks (text : String) :
    ∃ breaks : String, text = dropTrailingLineBreaks text ++ breaks ∧
      (∀ c ∈ breaks.toList, c = '\n' ∨ c = '\r') ∧
      ∀ c, (dropTrailingLineBreaks text).toList.getLast? = some c → c ≠ '\n' ∧ c ≠ '\r' := by
  have kept : (dropTrailingLineBreaks text).toList = text.toList.rdropWhile isLineBreak := by
    rw [dropTrailingLineBreaks, String.toList_ofList, List.rdropWhile]
  refine ⟨String.ofList (text.toList.rtakeWhile isLineBreak), ?_, ?_, ?_⟩
  · apply String.toList_inj.mp
    rw [String.toList_append, kept, String.toList_ofList, List.rdropWhile_append_rtakeWhile]
  · intro c member
    rw [String.toList_ofList] at member
    exact (isLineBreak_iff c).mp (List.mem_rtakeWhile_imp member)
  · intro c last
    rw [kept] at last
    have something : text.toList.rdropWhile isLineBreak ≠ [] := by
      intro nothing
      rw [nothing] at last
      cases last
    have noBreak := List.rdropWhile_last_not isLineBreak text.toList something
    rw [List.getLast?_eq_some_getLast something] at last
    cases last
    exact (isLineBreak_eq_false_iff _).mp (by simpa using noBreak)

theorem dropTrailingLineBreaks_append {kept breaks : String}
    (allBreaks : ∀ c ∈ breaks.toList, c = '\n' ∨ c = '\r')
    (ends : ∀ c, kept.toList.getLast? = some c → c ≠ '\n' ∧ c ≠ '\r') :
    dropTrailingLineBreaks (kept ++ breaks) = kept := by
  have inside : breaks.toList.reverse.all isLineBreak = true := by
    rw [List.all_eq_true]
    intro c member
    exact (isLineBreak_iff c).mpr (allBreaks c (List.mem_reverse.mp member))
  have stop : RunEnds isLineBreak kept.toList.reverse := by
    intro c head
    rw [List.head?_reverse] at head
    exact (isLineBreak_eq_false_iff c).mpr (ends c head)
  rw [dropTrailingLineBreaks, String.toList_append, List.reverse_append,
    stop.dropWhile_append _ inside, List.reverse_reverse, String.ofList_toList]

example : dropTrailingLineBreaks "\r\n a\r\nb \n\r\r\n" = "\r\n a\r\nb " := by
  decide

theorem answerOfRun_substitution (command : String) (outcome : Except StartFailure Ended) :
    Substitution command outcome (answerOfRun command outcome) := by
  cases outcome with
  | error failure => exact .cannotStart
  | ok ended =>
      by_cases success : ended.status = .exited 0
      · cases decoded : String.fromUTF8? ended.output with
        | none =>
            have answer : answerOfRun command (.ok ended) =
                .error (.outputNotUtf8 ended.output.toList) := by
              simp [answerOfRun, success, decoded]
            rw [answer]
            exact .noText success ((fromUTF8?_eq_none_iff _).mp decoded)
        | some text =>
            have answer : answerOfRun command (.ok ended) =
                .ok (.replaced (dropTrailingLineBreaks text)) := by
              simp [answerOfRun, success, decoded]
            obtain ⟨breaks, whole, allBreaks, ends⟩ := exists_trailingLineBreaks text
            rw [answer]
            refine .replaced success ?_ allBreaks ends
            rw [← whole]
            exact (fromUTF8?_eq_some_iff _ _).mp decoded
      · have answer : answerOfRun command (.ok ended) = .error (.failed command ended.status) := by
          simp [answerOfRun, success]
        rw [answer]
        exact .failed success

theorem answerOfRun_eq_iff (command : String) (outcome : Except StartFailure Ended)
    (answer : Answer) :
    answerOfRun command outcome = answer ↔ Substitution command outcome answer := by
  constructor
  · rintro rfl
    exact answerOfRun_substitution command outcome
  · intro rule
    cases rule with
    | cannotStart => rfl
    | failed failure => simp [answerOfRun, failure]
    | noText success noText =>
        have undecoded := (fromUTF8?_eq_none_iff _).mpr noText
        simp [answerOfRun, success, undecoded]
    | replaced success decodes allBreaks ends =>
        have decoded := (fromUTF8?_eq_some_iff _ _).mpr decodes
        simp [answerOfRun, success, decoded, dropTrailingLineBreaks_append allBreaks ends]

section Line

variable {resolver : Resolver σ} {state : σ}

theorem inquire_append_answered {first second : List Lookup}
    (answered : (inquire resolver (first ++ second) state).failure? = none) :
    let reached := inquire resolver first state
    let later := inquire resolver second reached.state
    reached.failure? = none ∧ later.failure? = none ∧
      (inquire resolver (first ++ second) state).resolutions =
        reached.resolutions ++ later.resolutions := by
  intro reached later
  rw [inquire_append, Inquiry.andThen] at answered ⊢
  cases failure : reached.failure? with
  | some error =>
      simp only [reached] at failure
      simp [failure] at answered
  | none =>
      simp only [reached] at failure
      simp only [failure] at answered ⊢
      exact ⟨trivial, answered, rfl⟩

theorem inquire_cons_answered {lookup : Lookup} {later : List Lookup}
    (answered : (inquire resolver (lookup :: later) state).failure? = none) :
    let reply := resolver lookup state
    ∃ resolution, reply.answer = .ok resolution ∧
      (inquire resolver later reply.state).failure? = none ∧
      (inquire resolver (lookup :: later) state).resolutions =
        resolution :: (inquire resolver later reply.state).resolutions := by
  intro reply
  rcases replied : resolver lookup state with ⟨error | resolution, invocations, after⟩
  · rw [inquire_failed replied] at answered
    cases answered
  · rw [inquire_resolved replied] at answered ⊢
    simp only [reply, replied]
    exact ⟨resolution, rfl, answered, rfl⟩

theorem evaluateGroup_answered {segments : List Segment}
    (answered : (inquire resolver (lookupsOf segments) state).failure? = none) :
    (evaluateGroup resolver segments state).1 =
      .ok (joinTexts segments (inquire resolver (lookupsOf segments) state).resolutions) := by
  rw [evaluateGroup_eq_inquire]
  rcases reached : inquire resolver (lookupsOf segments) state with ⟨resolutions, failure?, after⟩
  rw [reached] at answered
  cases answered
  rfl

theorem tokenTexts_at {earlier others : List (List Segment)} {before behind : List Segment}
    {segment : Segment} {lookup : Lookup} {resolution : Resolution}
    {first second third last : List Resolution} (found : segment.lookup? = some lookup)
    (firstLength : first.length = (lookupsOf earlier.flatten).length)
    (secondLength : second.length = (lookupsOf before).length)
    (thirdLength : third.length = (lookupsOf behind).length) :
    (tokenTexts (earlier ++ (before ++ segment :: behind) :: others)
        (first ++ (second ++ resolution :: (third ++ last))))[earlier.length]? =
      some (joinTexts before second ++ segment.textFor resolution ++ joinTexts behind third) := by
  have token : joinTexts (before ++ segment :: behind) (second ++ resolution :: (third ++ last)) =
      joinTexts before second ++ segment.textFor resolution ++ joinTexts behind third := by
    rw [joinTexts_row _ _ _ _ secondLength]
    simp only [joinTexts, found, joinTexts_append behind third last (Nat.le_of_eq thirdLength.symm),
      String.append_assoc]
  rw [tokenTexts_append _ _ _ _ firstLength, List.getElem?_append_right (by rw [length_tokenTexts]),
    length_tokenTexts, Nat.sub_self, tokenTexts, List.getElem?_cons_zero, token]

theorem split_at_failure {line : String} {first later : List Segment} {segment : Segment}
    {lookup : Lookup} {error : ResolveError} {invocations : List Invocation} {after : σ}
    (layout : (segmentation line.toList).segments = first ++ segment :: later)
    (found : segment.lookup? = some lookup)
    (answered : (inquire resolver (lookupsOf first) state).failure? = none)
    (reply : resolver lookup (inquire resolver (lookupsOf first) state).state =
      ⟨.error error, invocations, after⟩) :
    (split resolver line state).result = .error (.resolver error) ∧
      (split resolver line state).state = after ∧
      lookupsMade resolver line state = lookupsOf first ++ [lookup] := by
  let upTo := lookupsOf first ++ [lookup]
  have start : upTo <+: (segmentation line.toList).lookups := by
    refine ⟨lookupsOf later, ?_⟩
    rw [Segmentation.lookups, layout, lookupsOf_append]
    simp [upTo, lookupsOf, found]
  have length := inquire_resolutions_length resolver (lookupsOf first) state answered
  have ended : inquire resolver upTo state =
      ⟨(inquire resolver (lookupsOf first) state).resolutions, some error, after⟩ := by
    simp only [upTo]
    rw [inquire_append, Inquiry.andThen, answered, inquire_failed reply, List.append_nil]
  have failed : (inquire resolver upTo state).failure? = some error := by rw [ended]
  have whole := inquire_of_start start failed
  obtain ⟨result, left⟩ := split_eq_outcome resolver line state
  rw [whole, ended] at result left
  refine ⟨?_, left, ?_⟩
  · rw [result]
    exact Segmentation.outcome_failed rfl
  · have asked : (inquire resolver upTo state).asked = upTo.length := by
      rw [ended, Inquiry.asked, length, List.length_append]
      rfl
    rw [lookupsMade_eq_take, whole, asked_of_start start, asked, List.take_length]

theorem split_at_success {line : String} {tokens : List String} {earlier others : List (List Segment)}
    {before behind : List Segment} {segment : Segment} {lookup : Lookup}
    (layout : (segmentation line.toList).groups =
      earlier ++ (before ++ segment :: behind) :: others)
    (found : segment.lookup? = some lookup)
    (success : (split resolver line state).result = .ok tokens) :
    let start := (inquire resolver (lookupsOf earlier.flatten) state).state
    let reached := (inquire resolver (lookupsOf (earlier.flatten ++ before)) state).state
    let reply := resolver lookup reached
    ∃ resolution left right, reply.answer = .ok resolution ∧
      (evaluateGroup resolver before start).1 = .ok left ∧
      (evaluateGroup resolver behind reply.state).1 = .ok right ∧
      tokens[earlier.length]? = some (left ++ segment.textFor resolution ++ right) := by
  intro start reached reply
  rw [(split_eq_outcome resolver line state).1] at success
  have answered : (inquire resolver (segmentation line.toList).lookups state).failure? = none := by
    cases failure : (inquire resolver (segmentation line.toList).lookups state).failure? with
    | none => rfl
    | some error =>
        rw [Segmentation.outcome_failed failure] at success
        cases success
  obtain ⟨unbroken, texts⟩ := Segmentation.outcome_eq_ok success
  have lookups : (segmentation line.toList).lookups = lookupsOf earlier.flatten ++
      (lookupsOf before ++ (lookup :: (lookupsOf behind ++ lookupsOf others.flatten))) := by
    rw [Segmentation.lookups, Segmentation.segments, unbroken, layout]
    simp [lookupsOf, found]
  rw [lookups] at answered texts
  -- The resolutions are cut where the lookups are: earlier tokens, the segments in front, the
  -- lookup itself, those behind, later tokens.
  obtain ⟨earlierAnswered, groupAnswered, earlierThenGroup⟩ := inquire_append_answered answered
  obtain ⟨beforeAnswered, lookupAnswered, beforeThenLookup⟩ := inquire_append_answered groupAnswered
  obtain ⟨resolution, answer, laterAnswered, resolved⟩ := inquire_cons_answered lookupAnswered
  obtain ⟨behindAnswered, _, behindThenOthers⟩ := inquire_append_answered laterAnswered
  have sameReached : (inquire resolver (lookupsOf before) start).state = reached := by
    simp only [reached, lookupsOf_append]
    exact (inquire_append_complete _ earlierAnswered).1.symm
  rw [sameReached] at answer behindAnswered
  refine ⟨resolution, _, _, answer, evaluateGroup_answered beforeAnswered,
    evaluateGroup_answered behindAnswered, ?_⟩
  rw [texts, layout, earlierThenGroup, beforeThenLookup, resolved, behindThenOthers, sameReached]
  exact tokenTexts_at found (inquire_resolutions_length _ _ _ earlierAnswered)
    (inquire_resolutions_length _ _ _ beforeAnswered)
    (inquire_resolutions_length _ _ _ behindAnswered)

end Line

theorem Substitution.replaces {command : String} {outcome : Except StartFailure Ended}
    {resolution : Resolution} (rule : Substitution command outcome (.ok resolution)) :
    ∃ kept, resolution = .replaced kept := by
  cases rule with
  | replaced => exact ⟨_, rfl⟩

theorem VariableResolver.resolve_command (settings : VariableResolver) (run : ProgramRunner σ)
    (enabled : settings.executes = true) (command : String) (state : σ) :
    let invocation : Invocation := ⟨settings.shell, settings.shellFlag, command⟩
    settings.resolve run (.command command) state =
      ⟨answerOfRun command (run invocation state).1, [invocation], (run invocation state).2⟩ := by
  intro invocation
  simp only [resolve, enabled, if_true, invocation]

theorem lookup?_backtick {span : QuotedSpan} (backtick : span.kind = .backtick) :
    (Segment.quoted span).lookup? = some (.command span.raw) := by
  simp only [Segment.lookup?, backtick]

/-- With execution on, commands are answered by the rules, whatever they do and whatever the store
holds, and they are run once. If a command of a line fails, the line fails with the same error and
asks nothing more. In a line that is split, all commands were replaced, and what replaces a command
stands unchanged in its token, between the texts of the segments in front of it and behind it. -/
theorem command_substitution (store : Store) (shell shellFlag : String) (run : ProgramRunner σ) :
    let resolver := VariableResolver.resolve ⟨store, true, shell, shellFlag⟩ run
    let ran (command : String) (state : σ) := run ⟨shell, shellFlag, command⟩ state
    (∀ command state,
      let reply := resolver (.command command) state
      (∀ answer, reply.answer = answer ↔ Substitution command (ran command state).1 answer) ∧
      reply.answer ≠ .ok .unhandled ∧
      reply.invocations = [⟨shell, shellFlag, command⟩] ∧
      reply.state = (ran command state).2) ∧
    ∀ line state,
      let layout := segmentation line.toList
      let divided := split resolver line state
      (∀ first span later error, layout.segments = first ++ .quoted span :: later →
        span.kind = .backtick →
        let inquiry := inquire resolver (lookupsOf first) state
        inquiry.failure? = none →
        Substitution span.raw (ran span.raw inquiry.state).1 (.error error) →
        divided.result = .error (.resolver error) ∧
        divided.state = (ran span.raw inquiry.state).2 ∧
        lookupsMade resolver line state = lookupsOf first ++ [.command span.raw]) ∧
      ∀ earlier before span behind others tokens,
        layout.groups = earlier ++ (before ++ .quoted span :: behind) :: others →
        span.kind = .backtick → divided.result = .ok tokens →
        let start := (inquire resolver (lookupsOf earlier.flatten) state).state
        let reached := (inquire resolver (lookupsOf (earlier.flatten ++ before)) state).state
        ∃ kept left right,
          Substitution span.raw (ran span.raw reached).1 (.ok (.replaced kept)) ∧
          (evaluateGroup resolver before start).1 = .ok left ∧
          (evaluateGroup resolver behind (ran span.raw reached).2).1 = .ok right ∧
          tokens[earlier.length]? = some (left ++ kept ++ right) := by
  intro resolver ran
  have replies : ∀ command state, resolver (.command command) state =
      ⟨answerOfRun command (ran command state).1, [⟨shell, shellFlag, command⟩],
        (ran command state).2⟩ :=
    VariableResolver.resolve_command ⟨store, true, shell, shellFlag⟩ run rfl
  refine ⟨?_, ?_⟩
  · intro command state reply
    have answered : ∀ answer, reply.answer = answer ↔
        Substitution command (ran command state).1 answer := by
      intro answer
      simp only [reply, replies]
      exact answerOfRun_eq_iff command _ answer
    refine ⟨answered, ?_, ?_, ?_⟩
    · intro unhandled
      obtain ⟨kept, other⟩ := ((answered _).mp unhandled).replaces
      cases other
    · simp only [reply, replies]
    · simp only [reply, replies]
  intro line state layout divided
  refine ⟨?_, ?_⟩
  · intro first span later error found backtick inquiry answered rule
    have reply := replies span.raw inquiry.state
    rw [(answerOfRun_eq_iff _ _ _).mpr rule] at reply
    exact split_at_failure found (lookup?_backtick backtick) answered reply
  · intro earlier before span behind others tokens found backtick success start reached
    obtain ⟨resolution, left, right, answer, leftText, rightText, token⟩ :=
      split_at_success found (lookup?_backtick backtick) success
    rw [replies] at answer rightText
    have rule := (answerOfRun_eq_iff _ _ _).mp answer
    obtain ⟨kept, rfl⟩ := rule.replaces
    exact ⟨kept, left, right, rule, leftText, rightText, token⟩

end StatementLine
