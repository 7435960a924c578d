import StatementLine.Proofs.Seam

/-!
A line is white space, then tokens with white space behind each of them, and nothing of it is
lost: `line_eq_weave`. A span that does not close takes the rest of the line, and what stands in
front of it is a line of its own with the same tokens.
-/

universe u

namespace StatementLine

/-- White space, and then tokens with white space behind each of them. -/
structure Weave where
  lead : List Char
  tokens : List (List Segment × List Char)

def Weave.text (weave : Weave) : List Char :=
  weave.lead ++ weave.tokens.flatMap fun token => sources token.1 ++ token.2

structure Weave.WellFormed (weave : Weave) : Prop where
  lead : weave.lead.all isBlank = true
  gaps : ∀ token ∈ weave.tokens, token.2.all isBlank = true
  apart : ∀ token ∈ weave.tokens.dropLast, token.2 ≠ []
  tokens : ∀ token ∈ weave.tokens, token.1 ≠ []

def Segmentation.rows (layout : Segmentation) : List (List Segment) :=
  match layout.broken? with
  | none => layout.groups
  | some broken =>
      if broken.segments = [] then layout.groups else layout.groups ++ [broken.segments]

def Segmentation.Leaves (layout : Segmentation) (tail : List Char) : Prop :=
  match layout.broken? with
  | none => tail = []
  | some broken => ∃ (kind : QuoteKind) (body : List Char), tail = kind.delimiter :: body ∧
      SpanEnd kind body (.failed broken.error broken.unread)

/-- A weave and a tail that make up a line with this layout. -/
structure Weave.Covers (weave : Weave) (tail line : List Char) (layout : Segmentation) : Prop where
  whole : line = weave.text ++ tail
  wellFormed : weave.WellFormed
  rows : weave.tokens.map Prod.fst = layout.rows
  grammar : LineGrammar weave.text ⟨layout.rows, none⟩
  leaves : layout.Leaves tail

theorem QuoteKind.delimiter_ends_name (kind : QuoteKind) (body : List Char) :
    RunEnds Identifier.isContinue (kind.delimiter :: body) := by
  apply RunEnds.cons_iff.mpr
  cases kind <;> decide

theorem Segmentation.Leaves.name_ends {layout : Segmentation} {tail : List Char}
    (leaves : layout.Leaves tail) : RunEnds Identifier.isContinue tail := by
  unfold Leaves at leaves
  split at leaves
  · rw [leaves]
    exact .nil _
  · obtain ⟨kind, body, rfl, _⟩ := leaves
    exact kind.delimiter_ends_name body

theorem Row.starts {rest : List Char} {segments : List Segment} (row : Row rest segments)
    (something : segments ≠ []) :
    ∃ first later, sources segments = first :: later ∧ isBlank first = false := by
  cases row with
  | nil => contradiction
  | cons stands behind =>
      rename_i segment later
      have found := Segment.read_source stands
      obtain ⟨first, more, source⟩ :=
        List.exists_cons_of_ne_nil (Segment.source_ne_nil _ _ _ found)
      refine ⟨first, more ++ sources later, by simp [source], ?_⟩
      rw [Bool.eq_false_iff]
      intro blank
      simp [source, Segment.read, blank] at found

theorem LineGrammar.starts {line : List Char} {layout : Segmentation}
    (grammar : LineGrammar line layout) : ∀ group ∈ layout.groups,
      ∃ first later, sources group = first :: later ∧ isBlank first = false := by
  induction grammar with
  | blank => simp
  | token white something run _ ih =>
      intro group member
      rcases List.mem_cons.mp member with rfl | later
      · cases run with
        | complete row _ => exact row.starts something
      · exact ih group later
  | broken => simp

theorem Weave.Covers.lead_ne_nil {weave : Weave} {tail rest : List Char} {layout : Segmentation}
    (covers : weave.Covers tail rest layout) (boundary : AtBoundary rest)
    (more : weave.tokens ≠ []) : weave.lead ≠ [] := by
  intro nothing
  obtain ⟨token, tokens, cut⟩ := List.exists_cons_of_ne_nil more
  have member : token.1 ∈ layout.rows := by
    rw [← covers.rows, cut]
    simp
  obtain ⟨first, later, source, notBlank⟩ := covers.grammar.starts token.1 member
  have blank := boundary first (by simp [covers.whole, Weave.text, nothing, cut, source])
  rw [blank] at notBlank
  cases notBlank

def Weave.withToken (weave : Weave) (gap : List Char) (group : List Segment) : Weave :=
  ⟨gap, (group, weave.lead) :: weave.tokens⟩

theorem Weave.withToken_text (weave : Weave) (gap : List Char) (group : List Segment) :
    (weave.withToken gap group).text = gap ++ (sources group ++ weave.text) := by
  simp [withToken, text]

theorem Weave.WellFormed.withToken {weave : Weave} {gap : List Char} {group : List Segment}
    (wellFormed : weave.WellFormed) (white : gap.all isBlank = true) (something : group ≠ [])
    (apart : weave.tokens ≠ [] → weave.lead ≠ []) : (weave.withToken gap group).WellFormed := by
  refine ⟨white, ?_, ?_, ?_⟩
  · intro token member
    rcases List.mem_cons.mp member with rfl | inLater
    · exact wellFormed.lead
    · exact wellFormed.gaps token inLater
  · intro token member
    by_cases last : weave.tokens = []
    · simp [Weave.withToken, last] at member
    · simp only [Weave.withToken] at member
      rw [List.dropLast_cons_of_ne_nil last] at member
      rcases List.mem_cons.mp member with rfl | inLater
      · exact apart last
      · exact wellFormed.apart token inLater
  · intro token member
    rcases List.mem_cons.mp member with rfl | inLater
    · exact something
    · exact wellFormed.tokens token inLater

theorem Segmentation.rows_token (layout : Segmentation) (group : List Segment) :
    { layout with groups := group :: layout.groups }.rows = group :: layout.rows := by
  simp only [rows]
  split
  · rfl
  · split <;> rfl

theorem Weave.Covers.withToken {weave : Weave} {tail gap rest : List Char} {group : List Segment}
    {layout : Segmentation} (covers : weave.Covers tail rest layout)
    (white : gap.all isBlank = true) (something : group ≠ []) (row : Row rest group)
    (boundary : AtBoundary rest) :
    (weave.withToken gap group).Covers tail (gap ++ (sources group ++ rest))
      { layout with groups := group :: layout.groups } where
  whole := by simp [withToken_text, covers.whole]
  wellFormed := covers.wellFormed.withToken white something (covers.lead_ne_nil boundary)
  rows := by simp [Weave.withToken, layout.rows_token, covers.rows]
  grammar := by
    rw [covers.whole] at row boundary
    rw [withToken_text, layout.rows_token]
    exact .token white something (.complete (row.cut covers.leaves.name_ends) boundary.left)
      covers.grammar
  leaves := covers.leaves

theorem Weave.covers_gap {gap tail : List Char} {layout : Segmentation}
    (white : gap.all isBlank = true) (rows : layout.rows = []) (leaves : layout.Leaves tail) :
    (Weave.mk gap []).Covers tail (gap ++ tail) layout where
  whole := by simp [Weave.text]
  wellFormed := ⟨white, by simp, by simp, by simp⟩
  rows := rows.symm
  grammar := by simpa [Weave.text, rows] using LineGrammar.blank white
  leaves := leaves

theorem LineGrammar.exists_weave {line : List Char} {layout : Segmentation}
    (grammar : LineGrammar line layout) :
    ∃ (weave : Weave) (tail : List Char), weave.Covers tail line layout := by
  induction grammar with
  | blank white =>
      rename_i gap
      have leaves : (Segmentation.mk [] none).Leaves [] := rfl
      refine ⟨⟨gap, []⟩, [], ?_⟩
      simpa using Weave.covers_gap white rfl leaves
  | token white something run later ih =>
      obtain ⟨weave, tail, covers⟩ := ih
      cases run with
      | complete row boundary =>
          exact ⟨_, tail, covers.withToken white something row boundary⟩
  | broken white run =>
      rename_i gap input segments error unread
      cases run with
      | broken row ending =>
          rename_i kind body
          have leaves : (Segmentation.mk [] (some ⟨segments, error, unread⟩)).Leaves
              (kind.delimiter :: body) := ⟨kind, body, rfl, ending⟩
          -- A span that breaks at the start of a token leaves no token in front of it.
          by_cases nothing : segments = []
          · subst nothing
            exact ⟨_, _, Weave.covers_gap white rfl leaves⟩
          · have rows : (Segmentation.mk [] (some ⟨segments, error, unread⟩)).rows = [segments] := by
              simp [Segmentation.rows, nothing]
            refine ⟨(Weave.mk [] []).withToken gap segments, kind.delimiter :: body, ?_, ?_, ?_, ?_,
              leaves⟩
            · simp [Weave.withToken, Weave.text]
            · exact Weave.WellFormed.withToken ⟨rfl, by simp, by simp, by simp⟩ white nothing (by simp)
            · simp [Weave.withToken, rows]
            · have alone : Row ([] ++ kind.delimiter :: body) segments := row
              rw [Weave.withToken_text, rows]
              simpa [Weave.text] using
                LineGrammar.single white nothing (alone.cut (kind.delimiter_ends_name body))

/-- A line has one layout by the grammar. It is the one that splitting evaluates, whatever the
resolver, and its tokens and the white space around them make up the line, up to a quote rune
whose span does not close. -/
theorem line_eq_weave (line : String) :
    let layout := segmentation line.toList
    (∀ other, LineGrammar line.toList other ↔ other = layout) ∧
    (∃ (weave : Weave) (tail : List Char), weave.Covers tail line.toList layout) ∧
    ∀ {σ : Type u} (resolver : Resolver σ) (state : σ),
      (split resolver line state).result = (layout.evaluate resolver state).1 ∧
        (split resolver line state).state = (layout.evaluate resolver state).2 := by
  refine ⟨?_, (segmentation_grammar line.toList).exists_weave, ?_⟩
  · intro other
    rw [← segmentation_eq_iff, eq_comm]
  · intro σ resolver state
    exact all_eq_evaluate resolver line line.toList state

end StatementLine
