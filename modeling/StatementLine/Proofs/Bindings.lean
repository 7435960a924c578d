import StatementLine.Proofs.Answering
import StatementLine.Proofs.Spelling

/-!
What a store can change, as long as no command is executed. `split_depends_on_bindings` says that it
decides on the texts of the tokens and on nothing else, and on these only through the identifiers
that the line refers to.
-/

universe u

namespace StatementLine

variable {σ : Type u}

def Segmentation.names (layout : Segmentation) : List String :=
  layout.lookups.filterMap Lookup.name?

theorem segmentation_names_identifiers (line : List Char) :
    ∀ name ∈ (segmentation line).names, isIdentifier name = true := by
  intro name member
  obtain ⟨lookup, asked, named⟩ := List.mem_filterMap.mp member
  exact segmentation_lookups_named line lookup asked name named

theorem Segmentation.resultBy_store_congr (layout : Segmentation) (settings : VariableResolver)
    {other : Store} (agree : ∀ name ∈ layout.names, settings.store.get? name = other.get? name) :
    layout.resultBy settings.answer = layout.resultBy { settings with store := other }.answer := by
  apply resultBy_congr
  intro lookup asked
  apply settings.answer_store_congr
  intro name named
  exact agree name (List.mem_filterMap.mpr ⟨lookup, asked, named⟩)

namespace VariableResolver

variable (settings : VariableResolver) (run : ProgramRunner σ) (name : String) (state : σ)

theorem contribute_existence :
    (Segment.reference ⟨.existence, name⟩).contribute (settings.resolve run) state =
      ⟨.ok (if (settings.store.get? name).isSome then "TRUE" else "FALSE"), [], state⟩ := by
  simp [Segment.contribute, Segment.lookup?, Reference.lookup, resolve]

theorem contribute_value (style : NameStyle) :
    (Segment.reference ⟨.value style, name⟩).contribute (settings.resolve run) state =
      match settings.store.get? name with
      | some value => ⟨.ok (render value style), [], state⟩
      | none => ⟨.ok (Reference.mk (.value style) name).source, [.unresolved (.value name style)],
          state⟩ := by
  cases found : settings.store.get? name with
  | none => simp [Segment.contribute, Segment.lookup?, Reference.lookup, resolve, found,
      Segment.literalText]
  | some value => simp [Segment.contribute, Segment.lookup?, Reference.lookup, resolve, found]

theorem existence_iff :
    let added (form : ReferenceForm) :=
      (Segment.reference ⟨form, name⟩).contribute (settings.resolve run) state
    (added .existence = ⟨.ok "TRUE", [], state⟩ ↔
      ∀ style, ∃ text, added (.value style) = ⟨.ok text, [], state⟩) ∧
    (added .existence = ⟨.ok "FALSE", [], state⟩ ↔
      ∀ style, added (.value style) =
        ⟨.ok (Reference.mk (.value style) name).source, [.unresolved (.value name style)], state⟩) := by
  have someStyle : Nonempty NameStyle := ⟨.bare⟩
  simp only [contribute_existence, contribute_value]
  cases settings.store.get? name with
  | some value => simp
  | none => simp

end VariableResolver

/-- With execution off, a line is split with any store exactly if it is with nothing resolved, into as
many tokens, and fails with the same error of a quoted span if not. Stores that agree on the names of
the line, or on all identifiers, lead to the same. A variable is said to be defined exactly if it is
replaced in every form, and not to be if it is kept as written in every form. -/
theorem split_depends_on_bindings (run : ProgramRunner σ) (shell shellFlag line : String)
    (state : σ) :
    let resolver (store : Store) := VariableResolver.resolve ⟨store, false, shell, shellFlag⟩ run
    let result (store : Store) := (split (resolver store) line state).result
    (∀ store, (result store).map List.length =
        (split Resolver.literal line state).result.map List.length ∧
      ∀ error, result store ≠ .error (.resolver error)) ∧
    (∀ first second : Store,
      (∀ name ∈ (segmentation line.toList).names, first.get? name = second.get? name) →
        result first = result second) ∧
    (∀ first second : Store,
      (∀ name, isIdentifier name = true → first.get? name = second.get? name) →
        result first = result second) ∧
    ∀ (store : Store) (name : String),
      let added (form : ReferenceForm) :=
        (Segment.reference ⟨form, name⟩).contribute (resolver store) state
      (added .existence = ⟨.ok "TRUE", [], state⟩ ↔
        ∀ style, ∃ text, added (.value style) = ⟨.ok text, [], state⟩) ∧
      (added .existence = ⟨.ok "FALSE", [], state⟩ ↔
        ∀ style, added (.value style) =
          ⟨.ok (Reference.mk (.value style) name).source, [.unresolved (.value name style)], state⟩) := by
  intro resolver result
  let settings (store : Store) : VariableResolver := ⟨store, false, shell, shellFlag⟩
  have results (store : Store) :
      result store = (segmentation line.toList).resultBy (settings store).answer :=
    ((settings store).answersBy run rfl).split_result line state
  have onNames : ∀ first second : Store,
      (∀ name ∈ (segmentation line.toList).names, first.get? name = second.get? name) →
        result first = result second := by
    intro first second agree
    rw [results, results]
    exact Segmentation.resultBy_store_congr _ (settings first) agree
  refine ⟨?_, onNames, ?_, ?_⟩
  · intro store
    rw [results, Resolver.literal_answersBy.split_result]
    refine ⟨Segmentation.length_resultBy _ _ _, ?_⟩
    simp [Segmentation.resultBy_eq_error_iff]
  · intro first second agree
    apply onNames
    intro name member
    exact agree name (segmentation_names_identifiers line.toList name member)
  · intro store name
    exact (settings store).existence_iff run name state

end StatementLine
