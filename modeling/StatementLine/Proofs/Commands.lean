import StatementLine.Proofs.Answering

/-!
Which commands a line runs. `commands_run` says that these are the backtick spans of the line and
no others: what variables hold and what commands write is never read as part of a line.
-/

universe u

namespace StatementLine

variable {σ : Type u}

def ProgramRunner.recorded (run : ProgramRunner σ) : ProgramRunner (σ × List Invocation) :=
  fun invocation (state, invocations) =>
    let (outcome, after) := run invocation state
    (outcome, (after, invocations ++ [invocation]))

def Segment.command? : Segment → Option String
  | .literal _ => none
  | .quoted span =>
      match span.kind with
      | .single => none
      | .double => none
      | .backtick => some span.raw
  | .reference _ => none

def Segmentation.commands (layout : Segmentation) : List String :=
  layout.segments.filterMap Segment.command?

/-- A command succeeds if it starts, ends with status zero and writes UTF-8. -/
def Succeeds : Except StartFailure Ended → Prop
  | .error _ => False
  | .ok ended => ended.status = .exited 0 ∧ (String.fromUTF8? ended.output).isSome = true

instance : DecidablePred Succeeds
  | .error _ => .isFalse id
  | .ok ended => inferInstanceAs
      (Decidable (ended.status = .exited 0 ∧ (String.fromUTF8? ended.output).isSome = true))

/-- Runs commands in turn, up to and including the first that fails. Gives those that were run
and the state that they leave. -/
def runInTurn (run : ProgramRunner σ) (shell shellFlag : String) :
    List String → σ → List String × σ
  | [], state => ([], state)
  | command :: later, state =>
      match run ⟨shell, shellFlag, command⟩ state with
      | (outcome, after) =>
          if Succeeds outcome then
            let rest := runInTurn run shell shellFlag later after
            (command :: rest.1, rest.2)
          else ([command], after)

theorem answerOfRun_succeeds (command : String) {outcome : Except StartFailure Ended}
    (success : Succeeds outcome) : ∃ text, answerOfRun command outcome = .ok (.replaced text) := by
  cases outcome with
  | error failure => exact success.elim
  | ok ended =>
      obtain ⟨zero, decoded⟩ := success
      obtain ⟨text, found⟩ := Option.isSome_iff_exists.mp decoded
      exact ⟨dropTrailingLineBreaks text, by simp [answerOfRun, zero, found]⟩

theorem answerOfRun_fails (command : String) {outcome : Except StartFailure Ended}
    (failure : ¬Succeeds outcome) : ∃ error, answerOfRun command outcome = .error error := by
  cases outcome with
  | error failure => exact ⟨_, rfl⟩
  | ok ended =>
      simp only [answerOfRun]
      split
      · rename_i success
        split
        · exact ⟨_, rfl⟩
        · rename_i text found
          exact absurd ⟨ended.status.isSuccess_iff.mp success, by simp [found]⟩ failure
      · exact ⟨_, rfl⟩

theorem runInTurn_start (run : ProgramRunner σ) (shell shellFlag : String)
    (commands : List String) (state : σ) :
    (runInTurn run shell shellFlag commands state).1 <+: commands := by
  induction commands generalizing state with
  | nil => exact List.prefix_rfl
  | cons command later ih =>
      simp only [runInTurn]
      split
      · exact (List.prefix_cons_inj command).mpr (ih _)
      · exact ⟨later, rfl⟩

def Lookup.command? : Lookup → Option String
  | .value _ _ => none
  | .defined _ => none
  | .command text => some text

theorem Lookup.command?_eq_some {lookup : Lookup} {text : String}
    (found : lookup.command? = some text) : lookup = .command text := by
  cases lookup with
  | value => cases found
  | defined => cases found
  | command => exact congrArg Lookup.command (Option.some.inj found)

theorem commands_eq_lookups (layout : Segmentation) :
    layout.commands = layout.lookups.filterMap Lookup.command? := by
  simp only [Segmentation.commands, Segmentation.lookups, lookupsOf, List.filterMap_filterMap]
  congr 1
  funext segment
  cases segment with
  | literal text => rfl
  | quoted span =>
      obtain ⟨kind, raw, text⟩ := span
      cases kind <;> rfl
  | reference written =>
      obtain ⟨form, name⟩ := written
      cases form <;> rfl

namespace VariableResolver

variable (settings : VariableResolver) (run : ProgramRunner σ)

theorem resolve_variable (lookup : Lookup) (noCommand : lookup.command? = none) (state : σ) :
    ∃ resolution, settings.resolve run lookup state = ⟨.ok resolution, [], state⟩ := by
  cases lookup with
  | value name style =>
      simp only [resolve]
      split
      · exact ⟨_, rfl⟩
      · exact ⟨_, rfl⟩
  | defined name => exact ⟨_, rfl⟩
  | command text => cases noCommand

theorem inquire_not_executing (disabled : settings.executes = false) (lookups : List Lookup)
    (state : σ) : (inquire (settings.resolve run) lookups state).state = state := by
  rw [(settings.answersBy run disabled).inquire_eq]

theorem inquire_executing (enabled : settings.executes = true) (lookups : List Lookup)
    (state : σ) (earlier : List Invocation) :
    let ran := runInTurn run settings.shell settings.shellFlag
      (lookups.filterMap Lookup.command?) state
    (inquire (settings.resolve run.recorded) lookups (state, earlier)).state =
      (ran.2, earlier ++ ran.1.map (Invocation.mk settings.shell settings.shellFlag)) := by
  induction lookups generalizing state earlier with
  | nil => simp [inquire, runInTurn]
  | cons lookup later ih =>
      cases found : lookup.command? with
      | none =>
          obtain ⟨resolution, reply⟩ :=
            settings.resolve_variable run.recorded lookup found (state, earlier)
          rw [List.filterMap_cons_none found, inquire_resolved reply]
          exact ih state earlier
      | some command =>
          rw [List.filterMap_cons_some found, Lookup.command?_eq_some found]
          let invocation : Invocation := ⟨settings.shell, settings.shellFlag, command⟩
          rcases outcomeEq : run invocation state with ⟨outcome, after⟩
          have reply : settings.resolve run.recorded (.command command) (state, earlier) =
              ⟨answerOfRun command outcome, [invocation], (after, earlier ++ [invocation])⟩ := by
            simp [resolve, enabled, ProgramRunner.recorded, outcomeEq, invocation]
          by_cases success : Succeeds outcome
          · obtain ⟨text, answer⟩ := answerOfRun_succeeds command success
            rw [answer] at reply
            rw [inquire_resolved reply]
            simp only [Inquiry.cons, ih, runInTurn, outcomeEq, invocation, success, if_true,
              List.map_cons, List.append_assoc, List.singleton_append]
          · obtain ⟨error, answer⟩ := answerOfRun_fails command success
            rw [answer] at reply
            rw [inquire_failed reply]
            simp only [runInTurn, outcomeEq, invocation, success, if_false, List.map_cons, List.map_nil]

end VariableResolver

/-- With execution on, the commands that a split runs are the backtick spans of the line, in their
order and as they are written, up to and including the first that fails. The store has no part in
it. With execution off, nothing is run. -/
theorem commands_run (run : ProgramRunner σ) (shell shellFlag line : String) (state : σ)
    (earlier : List Invocation) :
    let commands := (segmentation line.toList).commands
    let ran := runInTurn run shell shellFlag commands state
    let left (store : Store) (executes : Bool) : σ × List Invocation :=
      (split (VariableResolver.resolve ⟨store, executes, shell, shellFlag⟩ run.recorded) line
        (state, earlier)).state
    ran.1 <+: commands ∧
    (∀ store, left store true = (ran.2, earlier ++ ran.1.map (Invocation.mk shell shellFlag))) ∧
    (∀ first second, left first true = left second true) ∧
    ∀ store, left store false = (state, earlier) := by
  intro commands ran left
  have executing : ∀ store,
      left store true = (ran.2, earlier ++ ran.1.map (Invocation.mk shell shellFlag)) := by
    intro store
    simp only [left, ran, commands]
    rw [(split_eq_outcome _ line _).2, commands_eq_lookups]
    exact VariableResolver.inquire_executing ⟨store, true, shell, shellFlag⟩ run rfl _ state earlier
  refine ⟨runInTurn_start run shell shellFlag commands state, executing, ?_, ?_⟩
  · intro first second
    rw [executing first, executing second]
  · intro store
    simp only [left]
    rw [(split_eq_outcome _ line _).2]
    exact VariableResolver.inquire_not_executing ⟨store, false, shell, shellFlag⟩ run.recorded rfl _
      (state, earlier)

end StatementLine
