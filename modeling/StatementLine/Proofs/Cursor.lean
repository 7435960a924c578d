/-!
Cursors. A cursor stands at a position in the characters of a line, looks ahead from there, cuts
pieces out by their bounds and moves on. The lemmas say what this comes to for the characters that
remain in front of it.
-/

namespace StatementLine

structure Cursor where
  runes : List Char
  position : Nat
deriving Repr, DecidableEq

namespace Cursor

def remaining (cursor : Cursor) : List Char :=
  cursor.runes.drop cursor.position

def peekAt (cursor : Cursor) (offset : Nat) : Option Char :=
  cursor.runes[cursor.position + offset]?

def peek (cursor : Cursor) : Option Char :=
  cursor.peekAt 0

def forward (cursor : Cursor) (count : Nat) : Cursor :=
  { cursor with position := cursor.position + count }

def advanceBy (cursor : Cursor) (count : Nat) : Cursor :=
  { cursor with position := min (cursor.position + count) cursor.runes.length }

def slice (cursor : Cursor) (start stop : Nat) : List Char :=
  (cursor.runes.take stop).drop start

/-- The cursor of the same line with `rest` in front of it. -/
def upTo (cursor : Cursor) (rest : List Char) : Cursor :=
  { cursor with position := cursor.runes.length - rest.length }

def Within (cursor : Cursor) : Prop :=
  cursor.position ≤ cursor.runes.length

theorem peekAt_eq (cursor : Cursor) (offset : Nat) :
    cursor.peekAt offset = cursor.remaining[offset]? := by
  rw [peekAt, remaining, List.getElem?_drop]

theorem remaining_of_peek {cursor : Cursor} {c : Char} (here : cursor.peek = some c) :
    cursor.remaining = c :: (cursor.forward 1).remaining := by
  obtain ⟨inside, found⟩ := List.getElem?_eq_some_iff.mp here
  simp only [Nat.add_zero] at inside found
  rw [remaining, List.drop_eq_getElem_cons inside, found]
  rfl

theorem head?_remaining (cursor : Cursor) : cursor.remaining.head? = cursor.peek := by
  rw [peek, peekAt_eq, List.head?_eq_getElem?]

theorem remaining_nil_iff (cursor : Cursor) : cursor.remaining = [] ↔ cursor.peek = none := by
  rw [← head?_remaining, List.head?_eq_none_iff]

theorem within_forward {cursor : Cursor} {c : Char} (here : cursor.peek = some c) :
    (cursor.forward 1).Within := by
  obtain ⟨inside, _⟩ := List.getElem?_eq_some_iff.mp here
  exact inside

theorem remaining_forward (cursor : Cursor) (count : Nat) :
    (cursor.forward count).remaining = cursor.remaining.drop count := by
  simp only [remaining, forward, List.drop_drop]

theorem within_of_remaining {cursor : Cursor} (more : cursor.remaining ≠ []) : cursor.Within := by
  cases here : cursor.peek with
  | none => exact absurd ((cursor.remaining_nil_iff).mpr here) more
  | some c => exact Nat.le_of_succ_le (within_forward here)

theorem remaining_suffix (cursor : Cursor) : cursor.remaining <:+ cursor.runes :=
  List.drop_suffix _ _

theorem length_runes {cursor : Cursor} (within : cursor.Within) {piece rest : List Char}
    (ahead : cursor.remaining = piece ++ rest) :
    cursor.runes.length = cursor.position + piece.length + rest.length := by
  have length : cursor.remaining.length = cursor.runes.length - cursor.position := List.length_drop
  rw [ahead, List.length_append] at length
  simp only [Within] at within
  omega

theorem remaining_upTo {cursor : Cursor} {rest : List Char} (suffix : rest <:+ cursor.runes) :
    (cursor.upTo rest).remaining = rest :=
  (List.suffix_iff_eq_drop.mp suffix).symm

theorem within_upTo (cursor : Cursor) (rest : List Char) : (cursor.upTo rest).Within :=
  Nat.sub_le _ _

theorem forward_eq_upTo {cursor : Cursor} (within : cursor.Within) {piece rest : List Char}
    (ahead : cursor.remaining = piece ++ rest) : cursor.forward piece.length = cursor.upTo rest := by
  rw [forward, upTo, length_runes within ahead, Nat.add_sub_cancel]

theorem advanceBy_eq_upTo {cursor : Cursor} (within : cursor.Within) {piece rest : List Char}
    (ahead : cursor.remaining = piece ++ rest) : cursor.advanceBy piece.length = cursor.upTo rest := by
  have notBeyond : cursor.position + piece.length ≤ cursor.runes.length := by
    rw [length_runes within ahead]
    exact Nat.le_add_right _ _
  rw [advanceBy, Nat.min_eq_left notBeyond, ← forward_eq_upTo within ahead]
  rfl

theorem eq_upTo {cursor later : Cursor} (within : later.Within) (sameLine : later.runes = cursor.runes) :
    later = cursor.upTo later.remaining := by
  have length := length_runes within (List.nil_append later.remaining).symm
  obtain ⟨runes, position⟩ := later
  simp only at sameLine
  subst sameLine
  simp only [List.length_nil, Nat.add_zero] at length
  rw [upTo, length, Nat.add_sub_cancel]

theorem upTo_remaining {cursor : Cursor} (within : cursor.Within) :
    cursor.upTo cursor.remaining = cursor :=
  (eq_upTo within rfl).symm

theorem slice_eq {cursor : Cursor} {front piece rest : List Char}
    (ahead : cursor.remaining = front ++ (piece ++ rest)) :
    cursor.slice (cursor.position + front.length)
      (cursor.position + front.length + piece.length) = piece := by
  have behind : cursor.runes.drop (cursor.position + front.length) = piece ++ rest := by
    rw [← List.drop_drop, ← remaining, ahead, List.drop_left]
  rw [slice, List.drop_take, behind, Nat.add_sub_cancel_left, List.take_left]

theorem slice_start_eq {cursor : Cursor} {piece rest : List Char}
    (ahead : cursor.remaining = piece ++ rest) :
    cursor.slice cursor.position (cursor.position + piece.length) = piece := by
  have front : cursor.remaining = [] ++ (piece ++ rest) := ahead
  exact slice_eq front

def skipWhile (property : Char → Bool) (cursor : Cursor) : Cursor :=
  match _here : cursor.peek with
  | none => cursor
  | some c => if property c then (cursor.forward 1).skipWhile property else cursor
termination_by cursor.remaining.length
decreasing_by
  rw [remaining_of_peek _here]
  exact Nat.lt_succ_self _

theorem remaining_skipWhile (property : Char → Bool) (cursor : Cursor) :
    (cursor.skipWhile property).remaining = cursor.remaining.dropWhile property := by
  fun_induction cursor.skipWhile property with
  | case1 cursor ended =>
      rw [(cursor.remaining_nil_iff).mpr ended]
      rfl
  | case2 cursor c here holds ih =>
      rw [ih, remaining_of_peek here, List.dropWhile_cons_of_pos holds]
  | case3 cursor c here fails =>
      rw [remaining_of_peek here, List.dropWhile_cons_of_neg fails]

theorem runes_skipWhile (property : Char → Bool) (cursor : Cursor) :
    (cursor.skipWhile property).runes = cursor.runes := by
  fun_induction cursor.skipWhile property with
  | case1 => rfl
  | case2 cursor c here holds ih => exact ih
  | case3 => rfl

theorem within_skipWhile (property : Char → Bool) {cursor : Cursor} (within : cursor.Within) :
    (cursor.skipWhile property).Within := by
  fun_induction cursor.skipWhile property with
  | case1 => exact within
  | case2 cursor c here holds ih => exact ih (within_forward here)
  | case3 => exact within

theorem skipWhile_eq (property : Char → Bool) {cursor : Cursor} (within : cursor.Within) :
    cursor.skipWhile property = cursor.upTo (cursor.remaining.dropWhile property) := by
  rw [eq_upTo (within_skipWhile property within) (cursor.runes_skipWhile property),
    remaining_skipWhile]

def countWhile (property : Char → Bool) (cursor : Cursor) (offset : Nat) : Nat :=
  match _there : cursor.peekAt offset with
  | none => 0
  | some c => if property c then cursor.countWhile property (offset + 1) + 1 else 0
termination_by cursor.remaining.length - offset
decreasing_by
  rw [peekAt_eq] at _there
  have inside := (List.getElem?_eq_some_iff.mp _there).1
  omega

theorem countWhile_eq (property : Char → Bool) (cursor : Cursor) (offset : Nat) :
    cursor.countWhile property offset =
      ((cursor.remaining.drop offset).takeWhile property).length := by
  fun_induction cursor.countWhile property offset with
  | case1 offset ended =>
      rw [peekAt_eq, List.getElem?_eq_none_iff] at ended
      rw [List.drop_of_length_le ended]
      rfl
  | case2 offset c there holds ih =>
      rw [peekAt_eq] at there
      obtain ⟨inside, found⟩ := List.getElem?_eq_some_iff.mp there
      rw [ih, List.drop_eq_getElem_cons inside, found, List.takeWhile_cons_of_pos holds]
      rfl
  | case3 offset c there fails =>
      rw [peekAt_eq] at there
      obtain ⟨inside, found⟩ := List.getElem?_eq_some_iff.mp there
      rw [List.drop_eq_getElem_cons inside, found, List.takeWhile_cons_of_neg fails]
      rfl

end Cursor

end StatementLine
