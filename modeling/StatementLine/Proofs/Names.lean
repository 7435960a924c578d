import StatementLine.Proofs.Arguments
import StatementLine.Proofs.Bindings
import StatementLine.Proofs.ReferenceForms
import StatementLine.Proofs.Schedule

/-!
The names of variables. `definable_iff_referable` says that the names which an assignment can define
are those which a line can refer to, that a line asks for no others, and that a variable is found by
its name in each of the four forms.
-/

universe u

namespace StatementLine

variable {σ : Type u}

def Resolver.Keeps (resolver : Resolver σ) (holds : σ → Prop) : Prop :=
  ∀ lookup state, lookup.Named → holds state → holds (resolver lookup state).state

theorem Resolver.recorded_keeps (resolver : Resolver σ) :
    resolver.recorded.Keeps fun noted => ∀ lookup ∈ noted.2, lookup.Named := by
  intro lookup state named earlier other inNoted
  rcases List.mem_append.mp inNoted with old | new
  · exact earlier other old
  · obtain rfl : other = lookup := List.mem_singleton.mp new
    exact named

section

variable {resolver : Resolver σ} {holds : σ → Prop}

theorem Segment.contribute_keeps (keeps : resolver.Keeps holds) {segment : Segment}
    {rest : List Char} (stands : segment.StandsBefore rest) {state : σ} (start : holds state) :
    holds (segment.contribute resolver state).state := by
  cases found : segment.lookup? with
  | none => simpa only [contribute, found] using start
  | some lookup =>
      have kept := keeps lookup state (stands.lookup_named found) start
      rcases reply : resolver lookup state with ⟨error | (text | _), invocations, after⟩
      all_goals simpa only [contribute, found, reply] using kept

theorem readToken_keeps (keeps : resolver.Keeps holds) (input : List Char) {state : σ}
    (start : holds state) : holds (readToken resolver input state).state := by
  fun_induction readToken resolver input state with
  | case1 => exact start
  | case2 => exact start
  | case3 input state segment rest found error events after refused =>
      have kept := Segment.contribute_keeps keeps (.of_read found) start
      rw [refused] at kept
      exact kept
  | case4 input state segment rest found text events after added ih =>
      have kept := Segment.contribute_keeps keeps (.of_read found) start
      rw [added] at kept
      exact ih kept

namespace Reader

theorem next_keeps (keeps : resolver.Keeps holds) (reader : Reader) {state : σ}
    (start : holds state) : holds (reader.next resolver state).state := by
  unfold next
  split
  · exact start
  split
  · exact start
  · rename_i first rest _
    have kept := readToken_keeps keeps (first :: rest) start
    rcases reading : readToken resolver (first :: rest) state with
      ⟨error | token, unread, after, events⟩
    all_goals simpa only [reading] using kept

theorem lookupsPlayed_named (reader : Reader) (turns : List (Turn σ)) (state : σ) :
    ∀ lookup ∈ reader.lookupsPlayed turns state, lookup.Named := by
  let holds (_ : Reader) (noted : σ × List Lookup) : Prop := ∀ lookup ∈ noted.2, lookup.Named
  have start : holds reader (state, []) := by simp [holds]
  have each : ∀ turn ∈ turns.map Turn.recorded, ∀ reader before, holds reader before →
      holds (reader.next turn.resolver before).reader (reader.next turn.resolver before).state := by
    intro noted member reader before kept
    obtain ⟨turn, _, rfl⟩ := List.mem_map.mp member
    exact next_keeps turn.resolver.recorded_keeps reader kept
  exact play_preserves (turns.map Turn.recorded) each start

end Reader

end

theorem segmentation_reference {reference : Reference}
    (identifier : isIdentifier reference.name = true) :
    segmentation reference.source.toList = ⟨[[.reference reference]], none⟩ := by
  have stands : Segment.StandsBefore [] (.reference reference) :=
    .reference ⟨identifier, fun _ => .nil _⟩
  have row : Row [] [.reference reference] := .cons stands .nil
  have white : [].all isBlank = true := rfl
  rw [segmentation_eq_iff]
  simpa [Segment.source] using LineGrammar.single white (List.cons_ne_nil _ []) row

theorem lookupsMade_spelling_iff (resolver : Resolver σ) (form : ReferenceForm) (name : String)
    (state : σ) :
    (lookupsMade resolver (form.spelling name) state).head? = some (Reference.mk form name).lookup ↔
      isIdentifier name = true := by
  rw [lookupsMade_head?]
  constructor
  · intro first
    have named := segmentation_lookups_named _ _ (List.mem_of_head? first)
    cases form <;> exact named name rfl
  · intro identifier
    rw [← (Reference.mk form name).source_eq_spelling, segmentation_reference identifier]
    rfl

namespace CommandLine

theorem parseAssignment_identifier {text name value : String}
    (defined : parseAssignment text = .ok (name, value)) : isIdentifier name = true := by
  rcases text_cases text with absent | ⟨other, otherValue, rfl, absent⟩
  · rw [parseAssignment_without absent] at defined
    cases defined
  · rw [parseAssignment_cut otherValue absent] at defined
    split at defined
    · rename_i identifier
      cases defined
      exact identifier
    · cases defined

theorem parseAssignment_eq_ok_iff (name value : String) :
    parseAssignment (name ++ "=" ++ value) = .ok (name, value) ↔ isIdentifier name = true := by
  constructor
  · exact parseAssignment_identifier
  · intro identifier
    rw [parseAssignment_cut value (identifier_noEquals identifier), if_pos identifier]

end CommandLine

theorem split_spelling (resolver : Resolver σ) {form : ReferenceForm} {name text : String}
    (identifier : isIdentifier name = true) {state after : σ} {events : List Event}
    (added : (Segment.reference ⟨form, name⟩).contribute resolver state = ⟨.ok text, events, after⟩) :
    (split resolver (form.spelling name) state).result = .ok [text] := by
  obtain ⟨result, _⟩ := all_eq_evaluate resolver (form.spelling name) (form.spelling name).toList state
  rw [split, Reader.ofLine, result, ← (Reference.mk form name).source_eq_spelling,
    segmentation_reference identifier]
  simp [Segmentation.evaluate, evaluateGroups, evaluateGroup, added, Except.map]

/-- A name can be defined exactly if it can be referred to. The test for it is the one that is made for
an assignment, and a line that is nothing but the name in one of the four forms asks for this name at
once exactly if it is met. No line asks for a name that does not meet it. A variable that is set to a
value is replaced by it, by it in quotes or by the word that it is defined. -/
theorem definable_iff_referable (name : String) :
    (∀ value, CommandLine.parseAssignment (name ++ "=" ++ value) = .ok (name, value) ↔
      isIdentifier name = true) ∧
    (∀ (form : ReferenceForm) (resolver : Resolver σ) (state : σ),
      (lookupsMade resolver (form.spelling name) state).head? =
        some (Reference.mk form name).lookup ↔ isIdentifier name = true) ∧
    (∀ (line : String) (turns : List (Turn σ)) (state : σ),
      ∀ lookup ∈ (Reader.ofLine line).lookupsPlayed turns state,
        lookup.name? = some name → isIdentifier name = true) ∧
    (isIdentifier name = true → ∀ (settings : VariableResolver) (run : ProgramRunner σ)
        (value : String) (state : σ),
      let defined := { settings with store := (settings.store.set name value).2 }
      let result (form : ReferenceForm) :=
        (split (defined.resolve run) (form.spelling name) state).result
      result (.value .bare) = .ok [value] ∧
      result (.value .singleQuoted) = .ok [quoteLiteral value] ∧
      result (.value .doubleQuoted) = .ok [quoteIdentifier value] ∧
      result .existence = .ok ["TRUE"]) := by
  refine ⟨CommandLine.parseAssignment_eq_ok_iff name, ?_, ?_, ?_⟩
  · intro form resolver state
    exact lookupsMade_spelling_iff resolver form name state
  · intro line turns state lookup asked named
    exact (Reader.ofLine line).lookupsPlayed_named turns state lookup asked name named
  · intro identifier settings run value state defined result
    have found : defined.store.get? name = some value := by simp [defined]
    have replaced (style : NameStyle) :
        result (.value style) = .ok [VariableResolver.render value style] := by
      have added := defined.contribute_value run name state style
      rw [found] at added
      exact split_spelling _ identifier added
    have added := defined.contribute_existence run name state
    rw [found] at added
    exact ⟨replaced .bare, replaced .singleQuoted, replaced .doubleQuoted,
      split_spelling _ identifier added⟩

end StatementLine
