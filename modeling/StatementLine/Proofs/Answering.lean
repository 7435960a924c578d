import StatementLine.Proofs.Inquiry
import StatementLine.VariableResolver

/-!
Resolvers that do nothing but answer. What a line comes to with such a resolver can be read off its
segmentation and the answers (`split_result`), and the state has no part in it.
-/

universe u

namespace StatementLine

variable {σ : Type u}

namespace Segmentation

def error? (layout : Segmentation) : Option QuoteError :=
  layout.broken?.map BrokenGroup.error

def resultBy (layout : Segmentation) (answer : Lookup → Resolution) :
    Except LineError (List String) :=
  match layout.error? with
  | some error => .error (.quote error)
  | none => .ok (tokenTexts layout.groups (layout.lookups.map answer))

theorem resultBy_congr {layout : Segmentation} {first second : Lookup → Resolution}
    (agree : ∀ lookup ∈ layout.lookups, first lookup = second lookup) :
    layout.resultBy first = layout.resultBy second := by
  simp only [resultBy, List.map_congr_left agree]

theorem resultBy_eq_error_iff (layout : Segmentation) (answer : Lookup → Resolution)
    (error : LineError) :
    layout.resultBy answer = .error error ↔
      ∃ found, error = .quote found ∧ layout.error? = some found := by
  simp only [resultBy]
  cases layout.error? with
  | none => simp
  | some other => simp [eq_comm]

theorem resultBy_succeeds_iff (layout : Segmentation) (answer : Lookup → Resolution) :
    (∃ tokens, layout.resultBy answer = .ok tokens) ↔ layout.error? = none := by
  simp only [resultBy]
  cases layout.error? with
  | none => simp
  | some other => simp

theorem outcome_eq_resultBy (layout : Segmentation) (answer : Lookup → Resolution) (state : σ) :
    layout.outcome ⟨layout.lookups.map answer, none, state⟩ = layout.resultBy answer := by
  cases found : layout.broken? with
  | some broken =>
      rw [outcome_broken rfl found]
      simp only [resultBy, error?, found, Option.map_some]
  | none =>
      rw [outcome_complete rfl found]
      simp only [resultBy, error?, found, Option.map_none]

end Segmentation

theorem length_tokenTexts (groups : List (List Segment)) (resolutions : List Resolution) :
    (tokenTexts groups resolutions).length = groups.length := by
  induction groups generalizing resolutions with
  | nil => rfl
  | cons group later ih => rw [tokenTexts, List.length_cons, ih, List.length_cons]

theorem Segmentation.length_resultBy (layout : Segmentation) (first second : Lookup → Resolution) :
    (layout.resultBy first).map List.length = (layout.resultBy second).map List.length := by
  simp only [resultBy]
  cases layout.error? with
  | some error => rfl
  | none => simp only [Except.map, length_tokenTexts]

/-- Every lookup is answered, always in the same way, and nothing else happens. -/
def Resolver.AnswersBy (resolver : Resolver σ) (answer : Lookup → Resolution) : Prop :=
  ∀ lookup state, resolver lookup state = ⟨.ok (answer lookup), [], state⟩

theorem Resolver.literal_answersBy :
    (Resolver.literal : Resolver σ).AnswersBy fun _ => .unhandled :=
  fun _ _ => rfl

namespace Resolver.AnswersBy

variable {resolver : Resolver σ} {answer : Lookup → Resolution}

theorem inquire_eq (answers : resolver.AnswersBy answer) (lookups : List Lookup) (state : σ) :
    inquire resolver lookups state = ⟨lookups.map answer, none, state⟩ := by
  induction lookups with
  | nil => rfl
  | cons lookup later ih =>
      rw [inquire_resolved (answers lookup state), ih]
      rfl

theorem split_result (answers : resolver.AnswersBy answer) (line : String) (state : σ) :
    (split resolver line state).result = (segmentation line.toList).resultBy answer := by
  rw [(split_eq_outcome resolver line state).1, answers.inquire_eq, Segmentation.outcome_eq_resultBy]

theorem split_state (answers : resolver.AnswersBy answer) (line : String) (state : σ) :
    (split resolver line state).state = state := by
  rw [(split_eq_outcome resolver line state).2, answers.inquire_eq]

end Resolver.AnswersBy

namespace VariableResolver

variable (settings : VariableResolver)

def answer : Lookup → Resolution
  | .value name style =>
      match settings.store.get? name with
      | some value => .replaced (render value style)
      | none => .unhandled
  | .defined name => .replaced (if settings.store.contains name then "TRUE" else "FALSE")
  | .command text => .replaced text

theorem answersBy (run : ProgramRunner σ) (disabled : settings.executes = false) :
    (settings.resolve run).AnswersBy settings.answer := by
  intro lookup state
  cases lookup with
  | value name style =>
      simp only [resolve, answer]
      cases settings.store.get? name with
      | none => rfl
      | some value => rfl
  | defined name => rfl
  | command text => simp [resolve, answer, disabled]

theorem answer_store_congr {lookup : Lookup} {other : Store}
    (agree : ∀ name, lookup.name? = some name → settings.store.get? name = other.get? name) :
    settings.answer lookup = { settings with store := other }.answer lookup := by
  cases lookup with
  | value name style => simp only [answer, agree name rfl]
  | defined name => simp only [answer, Store.contains_eq, agree name rfl]
  | command text => rfl

end VariableResolver

end StatementLine
