import Mathlib.Algebra.Group.Nat.Defs
import Mathlib.Data.List.Basic

/-!
The order of texts. Names are listed in the order of their code points; `bytesOf_lt_iff` says that
this is the order of the bytes that they are encoded in, because UTF-8 writes code points as numerals
whose leading byte grows with the number of the others.
-/

namespace StatementLine

def bytesOf (text : String) : List UInt8 :=
  text.toUTF8.data.toList

def codePointsOf (text : String) : List Nat :=
  text.toList.map Char.toNat

theorem bytesOf_eq (text : String) : bytesOf text = text.toList.flatMap String.utf8EncodeChar := by
  have encoded : (String.ofList text.toList).toUTF8.data.toList =
      text.toList.flatMap String.utf8EncodeChar := by
    rw [String.toUTF8_eq_toByteArray, String.toByteArray_ofList, List.utf8Encode,
      List.toList_data_toByteArray]
  rwa [String.ofList_toList] at encoded

def followingBytes (codePoint : Nat) : Nat :=
  if codePoint ≤ 0x7f then 0 else if codePoint ≤ 0x7ff then 1 else if codePoint ≤ 0xffff then 2 else 3

def leadingMark : Nat → Nat
  | 0 => 0
  | 1 => 0xc0
  | 2 => 0xe0
  | _ => 0xf0

/-- A numeral of base 64: the leading byte, then a byte for each digit. -/
def numeral (mark : Nat) : Nat → Nat → List UInt8
  | 0, value => [.ofNat (mark + value)]
  | count + 1, value => numeral mark count (value / 64) ++ [.ofNat (0x80 + value % 64)]

theorem numeral_eq_cons (mark count value : Nat) :
    ∃ digits, numeral mark count value = .ofNat (mark + value / 64 ^ count) :: digits := by
  induction count generalizing value with
  | zero => exact ⟨[], by simp [numeral]⟩
  | succ count ih =>
      obtain ⟨digits, whole⟩ := ih (value / 64)
      refine ⟨digits ++ [.ofNat (0x80 + value % 64)], ?_⟩
      rw [numeral, whole, Nat.div_div_eq_div_mul, Nat.pow_succ']
      rfl

theorem ofNat_lt_ofNat {first second : Nat} (less : first < second) (fits : second < 256) :
    UInt8.ofNat first < UInt8.ofNat second := by
  rw [UInt8.lt_iff_toNat_lt, UInt8.toNat_ofNat', UInt8.toNat_ofNat']
  omega

theorem numeral_append_lt {mark count first second : Nat} (less : first < second)
    (fits : mark + second / 64 ^ count < 256) (rest later : List UInt8) :
    numeral mark count first ++ rest < numeral mark count second ++ later := by
  induction count generalizing first second rest later with
  | zero =>
      rw [Nat.pow_zero, Nat.div_one] at fits
      exact .rel (ofNat_lt_ofNat (by omega) fits)
  | succ count ih =>
      rw [Nat.pow_succ', ← Nat.div_div_eq_div_mul] at fits
      simp only [numeral, List.append_assoc]
      by_cases higher : first / 64 < second / 64
      · exact ih higher fits _ _
      · have same : first / 64 = second / 64 := by omega
        rw [same]
        exact List.append_left_lt (.rel (ofNat_lt_ofNat (by omega) (by omega)))

theorem followingBytes_cases (codePoint : Nat) :
    (followingBytes codePoint = 0 ∧ codePoint ≤ 0x7f) ∨
    (followingBytes codePoint = 1 ∧ 0x7f < codePoint ∧ codePoint ≤ 0x7ff) ∨
    (followingBytes codePoint = 2 ∧ 0x7ff < codePoint ∧ codePoint ≤ 0xffff) ∨
    (followingBytes codePoint = 3 ∧ 0xffff < codePoint) := by
  unfold followingBytes
  split
  · omega
  split
  · omega
  split
  · omega
  · omega

theorem toNat_le (c : Char) : c.toNat ≤ 0x10ffff := by
  have valid : c.toNat.isValidChar := c.valid
  simp only [Nat.isValidChar] at valid
  omega

def leadingByte (codePoint : Nat) : Nat :=
  leadingMark (followingBytes codePoint) + codePoint / 64 ^ followingBytes codePoint

theorem leadingByte_fits (c : Char) : leadingByte c.toNat < 256 := by
  have bound := toNat_le c
  unfold leadingByte
  rcases followingBytes_cases c.toNat with ⟨count, _⟩ | ⟨count, _⟩ | ⟨count, _⟩ | ⟨count, _⟩ <;>
    simp only [count, leadingMark] <;> omega

theorem leadingByte_lt {first second : Nat} (less : first < second)
    (longer : followingBytes first ≠ followingBytes second) :
    leadingByte first < leadingByte second := by
  unfold leadingByte
  rcases followingBytes_cases first with ⟨count, _⟩ | ⟨count, _⟩ | ⟨count, _⟩ | ⟨count, _⟩ <;>
    rcases followingBytes_cases second with ⟨other, _⟩ | ⟨other, _⟩ | ⟨other, _⟩ | ⟨other, _⟩ <;>
      simp only [count, other, leadingMark] at longer ⊢ <;> omega

theorem utf8EncodeChar_eq (c : Char) :
    let count := followingBytes c.toNat
    String.utf8EncodeChar c = numeral (leadingMark count) count c.toNat := by
  have bound := toNat_le c
  have value : c.val.toNat = c.toNat := rfl
  simp only [String.utf8EncodeChar, value]
  -- The highest bits are few enough that none is cut off.
  rcases followingBytes_cases c.toNat with ⟨count, below⟩ | ⟨count, above, below⟩ |
    ⟨count, above, below⟩ | ⟨count, above⟩
  · simp [count, below, numeral, leadingMark]
  · have bits : c.toNat / 64 % 32 = c.toNat / 64 := by omega
    simp [count, numeral, leadingMark, Nat.add_comm, bits, below, Nat.not_le.mpr above]
  · have bits : c.toNat / 4096 % 16 = c.toNat / 4096 := by omega
    have notShort : ¬c.toNat ≤ 0x7f := by omega
    simp [count, numeral, leadingMark, Nat.div_div_eq_div_mul, Nat.add_comm, bits, below, notShort,
      Nat.not_le.mpr above]
  · have bits : c.toNat / 262144 % 8 = c.toNat / 262144 := by omega
    have notShort : ¬c.toNat ≤ 0x7f := by omega
    have notMiddle : ¬c.toNat ≤ 0x7ff := by omega
    simp [count, numeral, leadingMark, Nat.div_div_eq_div_mul, Nat.add_comm, bits, notShort,
      notMiddle, Nat.not_le.mpr above]

theorem utf8EncodeChar_append_lt {first second : Char} (less : first < second)
    (rest later : List UInt8) :
    String.utf8EncodeChar first ++ rest < String.utf8EncodeChar second ++ later := by
  have below : first.toNat < second.toNat := less
  have fits := leadingByte_fits second
  rw [utf8EncodeChar_eq, utf8EncodeChar_eq]
  by_cases same : followingBytes first.toNat = followingBytes second.toNat
  · rw [same]
    exact numeral_append_lt below fits rest later
  · obtain ⟨digits, whole⟩ := numeral_eq_cons (leadingMark (followingBytes first.toNat))
      (followingBytes first.toNat) first.toNat
    obtain ⟨others, wholeSecond⟩ := numeral_eq_cons (leadingMark (followingBytes second.toNat))
      (followingBytes second.toNat) second.toNat
    rw [whole, wholeSecond]
    exact .rel (ofNat_lt_ofNat (leadingByte_lt below same) fits)

section

variable {α β : Type} [LT α] [LT β]

theorem flatMap_lt {code : α → List β}
    (keeps : ∀ a b, a < b → ∀ rest later, code a ++ rest < code b ++ later)
    (something : ∀ a, code a ≠ []) {first second : List α} (less : first < second) :
    first.flatMap code < second.flatMap code := by
  induction first generalizing second with
  | nil =>
      cases second with
      | nil => cases less
      | cons b second =>
          obtain ⟨head, tail, whole⟩ := List.exists_cons_of_ne_nil (something b)
          rw [List.flatMap_cons, whole]
          exact .nil
  | cons a first ih =>
      cases less with
      | rel below => exact keeps a _ below _ _
      | cons later => exact List.append_left_lt (ih later)

theorem lt_iff_of_keeps [Std.Asymm (· < · : β → β → Prop)] {code : String → List β}
    (keeps : ∀ {first second : String}, first < second → code first < code second)
    (first second : String) : code first < code second ↔ first < second := by
  constructor
  · intro less
    by_cases below : first < second
    · exact below
    · exfalso
      by_cases above : second < first
      · exact List.lt_asymm less (keeps above)
      · have same : first = second :=
          String.le_antisymm (String.not_lt.mp above) (String.not_lt.mp below)
        rw [same] at less
        exact List.lt_asymm less less
  · exact keeps

end

theorem bytesOf_lt_iff (first second : String) :
    bytesOf first < bytesOf second ↔ first < second := by
  refine lt_iff_of_keeps (fun less => ?_) first second
  rw [bytesOf_eq, bytesOf_eq]
  exact flatMap_lt (fun _ _ => utf8EncodeChar_append_lt) (fun _ => String.utf8EncodeChar_ne_nil) less

theorem codePointsOf_lt_iff (first second : String) :
    codePointsOf first < codePointsOf second ↔ first < second := by
  refine lt_iff_of_keeps (fun less => ?_) first second
  exact List.map_lt (fun _ _ below => below) less

theorem compare_eq_lt_iff (first second : String) :
    compare first second = .lt ↔ first < second :=
  compareOfLessAndEq_eq_lt

end StatementLine
