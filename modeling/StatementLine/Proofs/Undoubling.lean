import StatementLine.Proofs.Doubling

/-!
Values between quotes as they look to a reader that knows nothing but doubling: it stops at the first
quote that stands alone. `quoted_value_ends` says that this quote is the closing one, whatever the
value holds, so no value reaches beyond its quotes and none is taken for another.
-/

namespace StatementLine

/-- Reads up to a delimiter that stands alone. Two delimiters stand for one. -/
def undouble (delimiter : Char) : List Char → Option (List Char × List Char)
  | [] => none
  | [c] => if c = delimiter then some ([], []) else none
  | c :: next :: rest =>
      if c ≠ delimiter then
        (undouble delimiter (next :: rest)).map fun (value, later) => (c :: value, later)
      else if next = delimiter then
        (undouble delimiter rest).map fun (value, later) => (delimiter :: value, later)
      else some ([], next :: rest)

section

variable {delimiter : Char}

theorem undouble_itself {c : Char} (other : c ≠ delimiter) (rest : List Char) :
    undouble delimiter (c :: rest) =
      (undouble delimiter rest).map fun (value, later) => (c :: value, later) := by
  cases rest with
  | nil => simp [undouble, other]
  | cons next rest => simp [undouble, other]

theorem undouble_pair (rest : List Char) :
    undouble delimiter (delimiter :: delimiter :: rest) =
      (undouble delimiter rest).map fun (value, later) => (delimiter :: value, later) := by
  simp [undouble]

theorem undouble_closing {rest : List Char} (alone : rest.head? ≠ some delimiter) :
    undouble delimiter (delimiter :: rest) = some ([], rest) := by
  cases rest with
  | nil => simp [undouble]
  | cons next rest =>
      have other : next ≠ delimiter := by simpa using alone
      simp [undouble, other]

theorem undouble_doubleDelimiter (value : List Char) {rest : List Char}
    (alone : rest.head? ≠ some delimiter) :
    undouble delimiter (doubleDelimiter delimiter value ++ delimiter :: rest) =
      some (value, rest) := by
  induction value with
  | nil => exact undouble_closing alone
  | cons c value ih =>
      rw [doubleDelimiter_cons]
      by_cases same : c = delimiter
      · subst same
        rw [if_pos rfl, List.append_assoc]
        simp [undouble_pair, ih]
      · rw [if_neg same, List.append_assoc]
        simp [undouble_itself same, ih]

theorem undouble_eq_some {input value rest : List Char}
    (found : undouble delimiter input = some (value, rest)) :
    input = doubleDelimiter delimiter value ++ delimiter :: rest ∧
      rest.head? ≠ some delimiter := by
  fun_induction undouble delimiter input generalizing value with
  | case1 => cases found
  | case2 => cases found; simp
  | case3 => cases found
  | case4 c next later other ih =>
      obtain ⟨⟨laterValue, _⟩, read, same⟩ := Option.map_eq_some_iff.mp found
      cases same
      obtain ⟨cut, alone⟩ := ih read
      exact ⟨by simp [cut, other], alone⟩
  | case5 c later isDelimiter ih =>
      have same : c = delimiter := Decidable.not_not.mp isDelimiter
      obtain ⟨⟨laterValue, _⟩, read, pair⟩ := Option.map_eq_some_iff.mp found
      cases pair
      obtain ⟨cut, alone⟩ := ih read
      exact ⟨by simp [cut, same], alone⟩
  | case6 c next later isDelimiter other =>
      have same : c = delimiter := Decidable.not_not.mp isDelimiter
      cases found
      exact ⟨by simp [same], by simpa using other⟩

end

namespace Quotation

def readBack? (quotation : Quotation) (text : String) : Option (String × String) :=
  match text.toList with
  | [] => none
  | c :: inside =>
      if c = quotation.kind.delimiter then
        (undouble quotation.kind.delimiter inside).map fun (value, rest) =>
          (String.ofList value, String.ofList rest)
      else none

theorem toList_write_append (quotation : Quotation) (value rest : String) :
    (quotation.write value ++ rest).toList = quotation.kind.delimiter ::
      (doubleDelimiter quotation.kind.delimiter value.toList ++
        quotation.kind.delimiter :: rest.toList) := by
  simp [toList_write, inside]

theorem readBack?_eq_some_iff (quotation : Quotation) (text value rest : String) :
    quotation.readBack? text = some (value, rest) ↔
      text = quotation.write value ++ rest ∧
        rest.toList.head? ≠ some quotation.kind.delimiter := by
  constructor
  · intro found
    unfold readBack? at found
    split at found
    · cases found
    rename_i c inside characters
    split at found
    · rename_i opening
      obtain ⟨⟨readValue, readRest⟩, read, same⟩ := Option.map_eq_some_iff.mp found
      cases same
      obtain ⟨cut, alone⟩ := undouble_eq_some read
      refine ⟨String.toList_inj.mp ?_, by simpa using alone⟩
      rw [toList_write_append, characters, opening, cut]
      simp
    · cases found
  · rintro ⟨rfl, alone⟩
    unfold readBack?
    rw [toList_write_append]
    simp [undouble_doubleDelimiter value.toList alone]

end Quotation

/-- A value that was written between quotes ends where a reader of doubled quotes finds a quote that
stands alone, if no such quote follows at once. The reader gives the value back and nothing else, so
two values with texts behind them look alike only if both are the same. -/
theorem quoted_value_ends (quotation : Quotation) :
    let Apart (rest : String) : Prop := rest.toList.head? ≠ some quotation.kind.delimiter
    (∀ text value rest, quotation.readBack? text = some (value, rest) ↔
      text = quotation.write value ++ rest ∧ Apart rest) ∧
    (∀ value other rest otherRest, Apart rest → Apart otherRest →
      quotation.write value ++ rest = quotation.write other ++ otherRest →
        value = other ∧ rest = otherRest) ∧
    Function.Injective quotation.write := by
  intro Apart
  have reads := quotation.readBack?_eq_some_iff
  have decodes : ∀ value other rest otherRest, Apart rest → Apart otherRest →
      quotation.write value ++ rest = quotation.write other ++ otherRest →
        value = other ∧ rest = otherRest := by
    intro value other rest otherRest apart otherApart same
    have first := (reads _ value rest).mpr ⟨rfl, apart⟩
    have second := (reads _ other otherRest).mpr ⟨same, otherApart⟩
    have pair : (value, rest) = (other, otherRest) := Option.some.inj (first.symm.trans second)
    exact Prod.mk.inj pair
  refine ⟨reads, decodes, ?_⟩
  intro value other same
  have nothing : Apart "" := by simp [Apart]
  exact (decodes value other "" "" nothing nothing (by rw [same])).1

end StatementLine
