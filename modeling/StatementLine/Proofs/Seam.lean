import StatementLine.Proofs.CharacterClasses
import StatementLine.Proofs.LineGrammar

/-!
What stands in a line when text is put behind it or taken away. Every rule of segments looks at
what follows only to see that something does not go on, so segments stay as they are when the
text behind them is cut off in front of a quote rune, or when white space comes behind it.
-/

namespace StatementLine

namespace RunEnds

variable {property : Char → Bool} {rest tail : List Char}

theorem left (ends : RunEnds property (rest ++ tail)) : RunEnds property rest := by
  intro c head
  exact ends c (by simp [head])

theorem append (ends : RunEnds property rest) (tailEnds : RunEnds property tail) :
    RunEnds property (rest ++ tail) := by
  cases rest with
  | nil => exact tailEnds
  | cons c rest => exact cons_iff.mpr (cons_iff.mp ends)

end RunEnds

namespace QuoteKind.Closes

variable {kind : QuoteKind} {rest tail : List Char}

theorem left (closes : kind.Closes (rest ++ tail)) : kind.Closes rest := by
  intro pairs head
  exact closes pairs (by simp [head])

theorem append (closes : kind.Closes rest) (tailCloses : kind.Closes tail) :
    kind.Closes (rest ++ tail) := by
  cases rest with
  | nil => exact tailCloses
  | cons c rest => exact closes

end QuoteKind.Closes

namespace AtBoundary

variable {rest tail : List Char}

theorem of_white {gap : List Char} (white : gap.all isBlank = true) : AtBoundary gap := by
  intro c head
  exact List.all_eq_true.mp white c (List.mem_of_head? head)

theorem of_gap {gap : List Char} (apart : gap ≠ []) (white : gap.all isBlank = true)
    (later : List Char) : AtBoundary (gap ++ later) := by
  obtain ⟨first, more, rfl⟩ := List.exists_cons_of_ne_nil apart
  exact cons_iff.mpr (List.all_eq_true.mp white first List.mem_cons_self)

theorem name_ends (boundary : AtBoundary tail) : RunEnds Identifier.isContinue tail := by
  intro c head
  exact Identifier.isContinue_blank (boundary c head)

theorem ordinary_ends (boundary : AtBoundary tail) : RunEnds Segment.isOrdinary tail := by
  intro c head
  simp [Segment.isOrdinary, boundary c head]

theorem closes (boundary : AtBoundary tail) (kind : QuoteKind) : kind.Closes tail := by
  intro _ head
  have blank := boundary _ head
  cases kind <;> revert blank <;> decide

theorem left (boundary : AtBoundary (rest ++ tail)) : AtBoundary rest := by
  intro c head
  exact boundary c (by simp [head])

theorem append (boundary : AtBoundary rest) (tailBoundary : AtBoundary tail) :
    AtBoundary (rest ++ tail) := by
  cases rest with
  | nil => exact tailBoundary
  | cons c rest => exact boundary

end AtBoundary

namespace Reference

variable {reference : Reference} {rest tail : List Char}

theorem StandsBefore.left (stands : reference.StandsBefore (rest ++ tail)) :
    reference.StandsBefore rest :=
  ⟨stands.1, fun bare => (stands.2 bare).left⟩

theorem StandsBefore.append (stands : reference.StandsBefore rest)
    (ends : RunEnds Identifier.isContinue tail) : reference.StandsBefore (rest ++ tail) :=
  ⟨stands.1, fun bare => (stands.2 bare).append ends⟩

theorem accepts_isContinue {name : List Char} (accepted : Identifier.accepts name = true) :
    ∀ c ∈ name, Identifier.isContinue c = true := by
  intro c member
  cases name with
  | nil => cases accepted
  | cons first later =>
      simp only [Identifier.accepts, Bool.and_eq_true, List.all_eq_true] at accepted
      rcases List.mem_cons.mp member with rfl | inside
      · simp [Identifier.isContinue, accepted.1]
      · exact accepted.2 c inside

theorem accepts_noBlank {name : List Char} (accepted : Identifier.accepts name = true) :
    ∀ c ∈ name, isBlank c = false := by
  intro c member
  rw [Bool.eq_false_iff]
  intro blank
  have ends := Identifier.isContinue_blank blank
  rw [accepts_isContinue accepted c member] at ends
  cases ends

def marks : List Char := [':', '\'', '"', '{', existenceMarker, '}']

theorem mem_source {c : Char} (member : c ∈ reference.source.toList) :
    c ∈ reference.name.toList ∨ c ∈ marks := by
  obtain ⟨form, name⟩ := reference
  have opening : form.opening ⊆ marks := by
    cases form with
    | value style => cases style <;> decide
    | existence => decide
  have closing : form.closing?.toList ⊆ marks := by
    cases form with
    | value style => cases style <;> decide
    | existence => decide
  simp only [source, String.toList_append, String.toList_ofList, List.mem_append] at member
  rcases member with (inOpening | inName) | inClosing
  · exact .inr (opening inOpening)
  · exact .inl inName
  · exact .inr (closing inClosing)

theorem source_noBlank (accepted : Identifier.accepts reference.name.toList = true) :
    ∀ c ∈ reference.source.toList, isBlank c = false := by
  have marksNoBlank : marks.all (!isBlank ·) = true := by decide
  intro c member
  rcases mem_source member with inName | mark
  · exact accepts_noBlank accepted c inName
  · simpa using List.all_eq_true.mp marksNoBlank c mark

theorem not_mem_source {c : Char} (accepted : Identifier.accepts reference.name.toList = true)
    (noMark : c ∉ marks) (noName : Identifier.isContinue c = false) :
    c ∉ reference.source.toList := by
  intro member
  rcases mem_source member with inName | mark
  · rw [accepts_isContinue accepted c inName] at noName
    cases noName
  · exact noMark mark

theorem stands_of_append {text later : List Char} (stands : reference.StandsBefore later)
    (cut : text ++ tail = reference.source.toList ++ later)
    (within : ∀ c excess, reference.source.toList = text ++ c :: excess → tail.head? ≠ some c) :
    ∃ rest, reference.StandsBefore rest ∧ text = reference.source.toList ++ rest := by
  rcases List.append_eq_append_iff.mp cut with ⟨excess, sourceEq, tailEq⟩ | ⟨rest, textEq, laterEq⟩
  · cases excess with
    | nil =>
        have alone : reference.StandsBefore ([] ++ later) := stands
        exact ⟨[], alone.left, by simpa using sourceEq.symm⟩
    | cons c excess => exact absurd (by simp [tailEq]) (within c excess sourceEq)
  · subst laterEq
    exact ⟨rest, stands.left, textEq⟩

theorem within_boundary {text : List Char} (boundary : AtBoundary tail)
    (accepted : Identifier.accepts reference.name.toList = true) (c : Char) (excess : List Char)
    (reaches : reference.source.toList = text ++ c :: excess) : tail.head? ≠ some c := by
  intro head
  have notBlank := source_noBlank accepted c (by simp [reaches])
  rw [boundary c head] at notBlank
  cases notBlank

end Reference

namespace Segment

variable {segment : Segment} {rest tail : List Char}

theorem StandsBefore.cut (ends : RunEnds Identifier.isContinue tail)
    (stands : segment.StandsBefore (rest ++ tail)) : segment.StandsBefore rest := by
  cases stands with
  | literal notBlank noQuote noReference inside ordinaryEnds =>
      refine .literal notBlank noQuote ?_ inside ordinaryEnds.left
      intro reference later referenceStands same
      apply noReference reference (later ++ tail) (referenceStands.append ends)
      rw [← List.append_assoc, same, List.append_assoc]
  | quoted content closes => exact .quoted (content.following_head rfl) closes.left
  | reference written => exact .reference written.left

theorem StandsBefore.extend (boundary : AtBoundary tail) (stands : segment.StandsBefore rest) :
    segment.StandsBefore (rest ++ tail) := by
  cases stands with
  | literal notBlank noQuote noReference inside ordinaryEnds =>
      refine .literal notBlank noQuote ?_ inside (ordinaryEnds.append boundary.ordinary_ends)
      intro reference later referenceStands same
      rw [← List.append_assoc] at same
      obtain ⟨within, withinStands, cut⟩ := Reference.stands_of_append referenceStands same
        (Reference.within_boundary boundary referenceStands.1)
      exact noReference reference within withinStands cut
  | quoted content closes =>
      exact .quoted (content.following_head rfl) (closes.append (boundary.closes _))
  | reference written => exact .reference (written.append boundary.name_ends)

/-- A segment stands before a text whatever follows that text, if no reference reaches beyond it. -/
theorem StandsBefore.extend_within {text : List Char} (stands : segment.StandsBefore text)
    (something : text ≠ [])
    (within : ∀ reference : Reference, Identifier.accepts reference.name.toList = true →
      ∀ first plain c excess, reference.source.toList ≠ first :: plain ++ text ++ c :: excess) :
    segment.StandsBefore (text ++ tail) := by
  have sameHead : (text ++ tail).head? = text.head? := by
    obtain ⟨first, rest, rfl⟩ := List.exists_cons_of_ne_nil something
    rfl
  cases stands with
  | literal notBlank noQuote noReference inside ends =>
      refine .literal notBlank noQuote ?_ inside (by simpa only [RunEnds, sameHead] using ends)
      intro reference later referenceStands same
      rw [← List.append_assoc] at same
      obtain ⟨behind, behindStands, cut⟩ := Reference.stands_of_append referenceStands same
        fun c excess reaches => absurd reaches (within reference referenceStands.1 _ _ c excess)
      exact noReference reference behind behindStands cut
  | quoted content closes =>
      exact .quoted (content.following_head rfl)
        (by simpa only [QuoteKind.Closes, sameHead] using closes)
  | reference written =>
      exact .reference ⟨written.1, by simpa only [RunEnds, sameHead] using written.2⟩

end Segment

namespace Row

variable {segments : List Segment} {rest tail : List Char}

theorem cut (ends : RunEnds Identifier.isContinue tail) (row : Row (rest ++ tail) segments) :
    Row rest segments := by
  induction row with
  | nil => exact .nil
  | cons stands _ ih =>
      rw [← List.append_assoc] at stands
      exact .cons (stands.cut ends) ih

theorem extend (boundary : AtBoundary tail) (row : Row rest segments) :
    Row (rest ++ tail) segments := by
  induction row with
  | nil => exact .nil
  | cons stands _ ih =>
      refine .cons ?_ ih
      rw [← List.append_assoc]
      exact stands.extend boundary

theorem change {other : List Char} (boundary : AtBoundary rest) (otherBoundary : AtBoundary other)
    (row : Row rest segments) : Row other segments := by
  have alone : Row ([] ++ rest) segments := row
  exact (alone.cut boundary.name_ends).extend otherBoundary

end Row

end StatementLine
