import StatementLine.CodePoint.Blank
import StatementLine.Identifier

/-!
The classes of characters that a line is read by do not overlap: white space is in no name.
The tables of letters and digits are compared with white space range by range.
-/

namespace StatementLine

/-- White space as ranges of code points. -/
def blankRanges : List CodePointRange :=
  [⟨0x09, 0x0D⟩, ⟨0x20, 0x20⟩, ⟨0x85, 0x85⟩, ⟨0xA0, 0xA0⟩, ⟨0x1680, 0x1680⟩, ⟨0x2000, 0x200A⟩,
    ⟨0x2028, 0x2029⟩, ⟨0x202F, 0x202F⟩, ⟨0x205F, 0x205F⟩, ⟨0x3000, 0x3000⟩]

def CodePointRange.isDisjoint (first second : CodePointRange) : Bool :=
  first.last < second.first || second.last < first.first

theorem isBlank_iff (c : Char) :
    isBlank c = true ↔ ∃ range ∈ blankRanges, range.first ≤ c.toNat ∧ c.toNat ≤ range.last := by
  simp only [isBlank, blankRanges, List.mem_cons, List.not_mem_nil, or_false, exists_eq_or_imp,
    exists_eq_left, Bool.or_eq_true, Bool.and_eq_true, decide_eq_true_eq, beq_iff_eq]
  omega

theorem letterTable_disjoint :
    (letterTable.toList.all fun letters => blankRanges.all letters.isDisjoint) = true := by
  decide +kernel

theorem decimalDigitTable_disjoint :
    (decimalDigitTable.toList.all fun digits => blankRanges.all digits.isDisjoint) = true := by
  decide +kernel

theorem holds_blank {table : Array CodePointRange} {c : Char}
    (disjoint : (table.toList.all fun range => blankRanges.all range.isDisjoint) = true)
    (blank : isBlank c = true) : CodePointRange.holds table c.toNat = false := by
  rw [Bool.eq_false_iff]
  intro found
  obtain ⟨range, member, lower, upper⟩ := CodePointRange.holds_sound table c.toNat found
  obtain ⟨white, whiteMember, whiteLower, whiteUpper⟩ := (isBlank_iff c).mp blank
  have listed := List.all_eq_true.mp disjoint range (Array.mem_toList_iff.mpr member)
  have apart := List.all_eq_true.mp listed white whiteMember
  simp only [CodePointRange.isDisjoint, Bool.or_eq_true, decide_eq_true_eq] at apart
  omega

theorem blank_ascii {c : Char} (blank : isBlank c = true) (ascii : c.toNat < 0x80) :
    c.val.toNat ≤ 0x20 := by
  simp only [isBlank, Bool.or_eq_true, Bool.and_eq_true, decide_eq_true_eq, beq_iff_eq] at blank
  have code : c.toNat = c.val.toNat := rfl
  omega

theorem isLetter_blank {c : Char} (blank : isBlank c = true) : isLetter c = false := by
  unfold isLetter
  split
  · rename_i ascii
    have low := blank_ascii blank ascii
    have upperStart : ('A').val.toNat = 65 := rfl
    have lowerStart : ('a').val.toNat = 97 := rfl
    have letters : c.isAlpha = (decide ('A'.val ≤ c.val ∧ c.val ≤ 'Z'.val) ||
        decide ('a'.val ≤ c.val) && decide (c.val ≤ 'z'.val)) := rfl
    simp only [letters, UInt32.le_iff_toNat_le, Bool.or_eq_false_iff, Bool.and_eq_false_iff,
      decide_eq_false_iff_not]
    omega
  · exact holds_blank letterTable_disjoint blank

theorem isDecimalDigit_blank {c : Char} (blank : isBlank c = true) : isDecimalDigit c = false := by
  unfold isDecimalDigit
  split
  · rename_i ascii
    have low := blank_ascii blank ascii
    have digitStart : ('0').val.toNat = 48 := rfl
    simp only [Char.isDigit, ge_iff_le, UInt32.le_iff_toNat_le, Bool.and_eq_false_iff,
      decide_eq_false_iff_not]
    omega
  · exact holds_blank decimalDigitTable_disjoint blank

theorem Identifier.isContinue_blank {c : Char} (blank : isBlank c = true) :
    Identifier.isContinue c = false := by
  have noUnderscore : c ≠ '_' := by
    rintro rfl
    revert blank
    decide
  simp [Identifier.isContinue, Identifier.isStart, isLetter_blank blank, isDecimalDigit_blank blank,
    noUnderscore]

end StatementLine
