/-! Ranges of code points: ascending tables of them, searched by halving, and the maximal
runs on which a property of characters holds. Surrogates are code points without a character. -/

namespace StatementLine

structure CodePointRange where
  first : Nat
  last : Nat
deriving Repr, DecidableEq

namespace CodePointRange

def search (table : Array CodePointRange) (codePoint low high : Nat) (inside : high ≤ table.size) :
    Bool :=
  if nonempty : low < high then
    let middle := (low + high) / 2
    have bound : middle < table.size := by omega
    if codePoint < table[middle].first then
      search table codePoint low middle (by omega)
    else if table[middle].last < codePoint then
      search table codePoint (middle + 1) high inside
    else true
  else false
termination_by high - low

/-- Whether one of the ranges of an ascending table holds the code point. -/
def holds (table : Array CodePointRange) (codePoint : Nat) : Bool :=
  search table codePoint 0 table.size (Nat.le_refl _)

theorem search_sound (table : Array CodePointRange) (codePoint low high : Nat)
    (inside : high ≤ table.size) (found : search table codePoint low high inside = true) :
    ∃ range ∈ table, range.first ≤ codePoint ∧ codePoint ≤ range.last := by
  fun_induction search table codePoint low high inside with
  | case1 _ _ _ _ _ _ _ ih => exact ih found
  | case2 _ _ _ _ _ _ _ _ ih => exact ih found
  | case3 low high _ _ middle bound notBelow notAbove =>
      exact ⟨table[middle], Array.getElem_mem bound, by omega, by omega⟩
  | case4 => simp at found

theorem holds_sound (table : Array CodePointRange) (codePoint : Nat)
    (found : holds table codePoint = true) :
    ∃ range ∈ table, range.first ≤ codePoint ∧ codePoint ≤ range.last :=
  search_sound table codePoint 0 table.size (Nat.le_refl _) found

def satisfies (property : Char → Bool) (codePoint : Nat) : Bool :=
  if valid : codePoint.isValidChar then property (Char.ofNatAux codePoint valid) else false

def collectRuns (property : Char → Bool) :
    (count codePoint : Nat) → (begun : Option Nat) → (runs : Array CodePointRange) →
      Array CodePointRange
  | 0, _, none, runs => runs
  | 0, codePoint, some first, runs => runs.push ⟨first, codePoint - 1⟩
  | count + 1, codePoint, begun, runs =>
      match satisfies property codePoint, begun with
      | true, none => collectRuns property count (codePoint + 1) (some codePoint) runs
      | true, some first => collectRuns property count (codePoint + 1) (some first) runs
      | false, none => collectRuns property count (codePoint + 1) none runs
      | false, some first =>
          collectRuns property count (codePoint + 1) none (runs.push ⟨first, codePoint - 1⟩)

/-- The maximal runs, ascending, of code points in `within` that are characters with the property.
No character lies above `10FFFF`. -/
def runs (property : Char → Bool) (within : CodePointRange) : Array CodePointRange :=
  collectRuns property (min within.last 0x10FFFF + 1 - within.first) within.first none #[]

end CodePointRange

end StatementLine
