import StatementLine.Proofs.Seam

/-!
The four ways to write a reference. `reference_forms` says that a reference is read exactly where one
of them stands around an identifier, that only one can, and that what is read is the whole of it, with
the longest name where nothing closes the form.
-/

namespace StatementLine

def ReferenceForm.spelling (name : String) : ReferenceForm → String
  | .value .bare => ":" ++ name
  | .value .singleQuoted => ":'" ++ name ++ "'"
  | .value .doubleQuoted => ":\"" ++ name ++ "\""
  | .existence => ":\x7b?" ++ name ++ "\x7d"

namespace Reference

theorem source_eq_spelling (reference : Reference) :
    reference.source = reference.form.spelling reference.name := by
  obtain ⟨form, name⟩ := reference
  apply String.toList_injective
  cases form with
  | value style =>
      cases style <;>
        simp [source, ReferenceForm.spelling, ReferenceForm.opening, ReferenceForm.closing?,
          NameStyle.quote?]
  | existence =>
      simp [source, ReferenceForm.spelling, ReferenceForm.opening, ReferenceForm.closing?,
        existenceMarker]

end Reference

theorem Identifier.accepts_append {name more : List Char} (accepted : accepts name = true)
    (goesOn : more.all isContinue = true) : accepts (name ++ more) = true := by
  cases name with
  | nil => cases accepted
  | cons first later =>
      simp only [accepts, Bool.and_eq_true] at accepted
      simp only [List.cons_append, accepts, accepted.1, List.all_append, accepted.2, goesOn,
        Bool.and_self]

theorem RunEnds.prefix_of_prefix {property : Char → Bool} {run candidate rest : List Char}
    (ends : RunEnds property rest) (inside : ∀ c ∈ candidate, property c = true)
    (starts : candidate <+: run ++ rest) : candidate <+: run := by
  rcases List.prefix_or_prefix_of_prefix starts (List.prefix_append run rest) with within | beyond
  · exact within
  · obtain ⟨excess, rfl⟩ := beyond
    cases excess with
    | nil => simp
    | cons c excess =>
        obtain ⟨later, rfl⟩ := (List.prefix_append_right_inj run).mp starts
        have stops : property c = false := ends c rfl
        rw [inside c (by simp)] at stops
        cases stops

namespace Reference

variable {form other : ReferenceForm} {name otherName : String} {input rest : List Char}

def StartsWith (input : List Char) (form : ReferenceForm) (name : String) : Prop :=
  isIdentifier name = true ∧ (form.spelling name).toList <+: input

theorem StartsWith.exists_rest (starts : StartsWith input form name) :
    ∃ rest, input = (Reference.mk form name).source.toList ++ rest := by
  obtain ⟨rest, rfl⟩ := starts.2
  exact ⟨rest, by rw [source_eq_spelling]⟩

theorem StandsBefore.startsWith {reference : Reference} (stands : reference.StandsBefore rest) :
    StartsWith (reference.source.toList ++ rest) reference.form reference.name := by
  refine ⟨stands.1, ?_⟩
  rw [source_eq_spelling]
  exact List.prefix_append _ _

theorem StartsWith.opened? (starts : StartsWith input form name) :
    ∃ rest, ReferenceForm.opened? input = some (form, rest) := by
  obtain ⟨rest, rfl⟩ := starts.exists_rest
  have identifier := starts.1
  cases characters : name.toList with
  | nil => simp [isIdentifier, characters, Identifier.accepts] at identifier
  | cons first later =>
      have start : Identifier.isStart first = true := by
        simp only [isIdentifier, characters, Identifier.accepts, Bool.and_eq_true] at identifier
        exact identifier.1
      have opened := form.opened?_opening (later ++ (form.closing?.toList ++ rest)) start
      exact ⟨_, by simpa [source, characters] using opened⟩

theorem StartsWith.form_eq (starts : StartsWith input form name)
    (otherStarts : StartsWith input other otherName) : form = other := by
  obtain ⟨rest, opened⟩ := starts.opened?
  obtain ⟨otherRest, otherOpened⟩ := otherStarts.opened?
  rw [opened] at otherOpened
  cases otherOpened
  rfl

theorem StartsWith.exists_stands (starts : StartsWith input form name) :
    ∃ (reference : Reference) (rest : List Char), reference.form = form ∧
      input = reference.source.toList ++ rest ∧ reference.StandsBefore rest ∧
        (form ≠ .value .bare → reference.name = name) := by
  obtain ⟨rest, rfl⟩ := starts.exists_rest
  by_cases bare : form = .value .bare
  · -- Nothing closes a bare name, so it takes all that it can.
    subst bare
    let more := rest.takeWhile Identifier.isContinue
    have goesOn : more.all Identifier.isContinue = true := List.all_takeWhile
    have accepted := Identifier.accepts_append starts.1 goesOn
    refine ⟨⟨.value .bare, String.ofList (name.toList ++ more)⟩,
      rest.dropWhile Identifier.isContinue, rfl, ?_, ?_, fun other => absurd rfl other⟩
    · simp [source, ReferenceForm.closing?, NameStyle.quote?, more,
        List.takeWhile_append_dropWhile]
    · exact ⟨by simpa using accepted, fun _ => RunEnds.dropWhile _ rest⟩
  · exact ⟨⟨form, name⟩, rest, rfl, rfl, ⟨starts.1, fun same => absurd same bare⟩, fun _ => rfl⟩

theorem StandsBefore.longest {reference : Reference} (stands : reference.StandsBefore rest)
    (starts : StartsWith (reference.source.toList ++ rest) reference.form name) :
    name.toList <+: reference.name.toList := by
  apply stands.name_ends.prefix_of_prefix (accepts_isContinue starts.1)
  obtain ⟨otherRest, same⟩ := starts.exists_rest
  have behind : reference.name.toList ++ (reference.form.closing?.toList ++ rest) =
      name.toList ++ (reference.form.closing?.toList ++ otherRest) := by
    simpa [source] using same
  rw [behind]
  exact List.prefix_append _ _

theorem read?_isSome_iff (input : List Char) :
    (∃ found, read? input = some found) ↔ ∃ form name, StartsWith input form name := by
  constructor
  · rintro ⟨⟨reference, rest⟩, found⟩
    obtain ⟨rfl, stands⟩ := (read?_eq_some_iff input rest reference).mp found
    exact ⟨_, _, stands.startsWith⟩
  · rintro ⟨form, name, starts⟩
    obtain ⟨reference, rest, _, rfl, stands, _⟩ := starts.exists_stands
    exact ⟨_, read?_source stands⟩

end Reference

/-- At any place of a line, a reference is read exactly if a colon stands there with an identifier
directly behind it, or with one in single quotes, in double quotes or in braces behind a question
mark. Only one of these can be so. What is read is that form with its identifier, the longest one
where nothing closes it, and reading goes on behind it. If nothing is read, the colon is still there
to be read as literal text. -/
theorem reference_forms (line : String) (position : Nat) :
    let unread := line.toList.drop position
    let Applies (form : ReferenceForm) (name : String) : Prop :=
      isIdentifier name = true ∧ (form.spelling name).toList <+: unread
    ((∃ found, Reference.read? unread = some found) ↔ ∃ form name, Applies form name) ∧
    (∀ form other name otherName, Applies form name → Applies other otherName → form = other) ∧
    (∀ reference rest, Reference.read? unread = some (reference, rest) →
      Applies reference.form reference.name ∧
      (∀ name, Applies reference.form name → name.toList <+: reference.name.toList) ∧
      (reference.form ≠ .value .bare →
        ∀ name, Applies reference.form name → name = reference.name) ∧
      reference.source = reference.form.spelling reference.name ∧
      rest = line.toList.drop (position + reference.source.length)) ∧
    ∀ later, unread = ':' :: later → Reference.read? unread = none →
      Segment.read unread =
        .segment (.literal (String.ofList (':' :: later.takeWhile Segment.isPlain)))
          (later.dropWhile Segment.isPlain) := by
  intro unread Applies
  refine ⟨Reference.read?_isSome_iff unread, fun _ _ _ _ => Reference.StartsWith.form_eq, ?_, ?_⟩
  · intro reference rest found
    obtain ⟨whole, stands⟩ := (Reference.read?_eq_some_iff unread rest reference).mp found
    have starts := stands.startsWith
    rw [← whole] at starts
    refine ⟨starts, ?_, ?_, reference.source_eq_spelling, ?_⟩
    · intro name applies
      exact stands.longest (whole ▸ applies)
    · intro closed name applies
      obtain ⟨other, otherRest, form, otherWhole, otherStands, same⟩ :=
        Reference.StartsWith.exists_stands applies
      rw [otherWhole, Reference.read?_source otherStands] at found
      cases found
      exact (same closed).symm
    · rw [← List.drop_drop]
      have cut : unread.drop reference.source.length = rest := by
        rw [whole, ← String.length_toList, List.drop_left]
      exact cut.symm
  · intro later colon missing
    rw [colon] at missing ⊢
    have notBlank : isBlank ':' = false := by decide
    have noQuote : QuoteKind.ofChar? ':' = none := rfl
    simp [Segment.read, notBlank, noQuote, missing]

end StatementLine
