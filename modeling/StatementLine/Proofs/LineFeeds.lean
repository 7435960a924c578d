import StatementLine.Proofs.TextOrder

/-!
Line feeds and carriage returns among the bytes of a text. No other character has their bytes in its
encoding, so a row of bytes that is cut behind a line feed is a text exactly if both parts are
(`isText_append_iff`), and what is done to its line breaks can be done to the text.
-/

namespace StatementLine

def lineFeed : UInt8 := 10

def carriageReturn : UInt8 := 13

def IsText (content : ByteArray) : Prop :=
  ∃ text : String, text.toUTF8 = content

/-- Nothing stands behind the last line feed. -/
def EndsLine (content : ByteArray) : Prop :=
  content = .empty ∨ content.data.toList.getLast? = some lineFeed

def withCarriageReturns (content : ByteArray) : ByteArray :=
  ⟨content.data.flatMap fun byte => if byte = lineFeed then #[carriageReturn, lineFeed] else #[byte]⟩

theorem numeral_high {mark count value : Nat} (high : 128 ≤ mark)
    (fits : mark + value / 64 ^ count < 256) :
    ∀ byte ∈ numeral mark count value, 128 ≤ byte.toNat := by
  induction count generalizing value with
  | zero =>
      intro byte member
      rw [List.mem_singleton.mp member, UInt8.toNat_ofNat']
      omega
  | succ count ih =>
      intro byte member
      rw [Nat.pow_succ', ← Nat.div_div_eq_div_mul] at fits
      rcases List.mem_append.mp member with earlier | last
      · exact ih fits byte earlier
      · rw [List.mem_singleton.mp last, UInt8.toNat_ofNat']
        omega

theorem leadingMark_high {codePoint : Nat} (longer : followingBytes codePoint ≠ 0) :
    128 ≤ leadingMark (followingBytes codePoint) := by
  rcases followingBytes_cases codePoint with ⟨count, _⟩ | ⟨count, _⟩ | ⟨count, _⟩ | ⟨count, _⟩ <;>
    simp [count, leadingMark] at longer ⊢

theorem utf8EncodeChar_of_ascii_mem {c : Char} {byte : UInt8}
    (member : byte ∈ String.utf8EncodeChar c) (ascii : byte.toNat < 128) :
    c = Char.ofNat byte.toNat ∧ String.utf8EncodeChar c = [byte] := by
  have fits := leadingByte_fits c
  rw [leadingByte] at fits
  rw [utf8EncodeChar_eq] at member ⊢
  by_cases single : followingBytes c.toNat = 0
  · have small : c.toNat ≤ 0x7f := by
      rcases followingBytes_cases c.toNat with ⟨_, small⟩ | ⟨count, _⟩ | ⟨count, _⟩ | ⟨count, _⟩ <;> omega
    simp only [single, leadingMark, numeral, Nat.zero_add, List.mem_singleton] at member ⊢
    have value : byte.toNat = c.toNat := by
      rw [member, UInt8.toNat_ofNat']
      omega
    exact ⟨by rw [value, Char.ofNat_toNat], by rw [member]⟩
  · exact absurd (numeral_high (leadingMark_high single) fits byte member) (by omega)

theorem lineFeed_mem_iff (c : Char) : lineFeed ∈ String.utf8EncodeChar c ↔ c = '\n' := by
  constructor
  · intro member
    exact (utf8EncodeChar_of_ascii_mem member (by decide)).1
  · rintro rfl
    decide

theorem carriageReturn_mem_iff (c : Char) : carriageReturn ∈ String.utf8EncodeChar c ↔ c = '\r' := by
  constructor
  · intro member
    exact (utf8EncodeChar_of_ascii_mem member (by decide)).1
  · rintro rfl
    decide

theorem encoded_cut {chars : List Char} {first second : List UInt8}
    (cut : chars.flatMap String.utf8EncodeChar = first ++ lineFeed :: second) :
    ∃ before after, chars = before ++ '\n' :: after ∧
      before.flatMap String.utf8EncodeChar = first ∧
      after.flatMap String.utf8EncodeChar = second := by
  induction chars generalizing first with
  | nil => simp at cut
  | cons c later ih =>
      rw [List.flatMap_cons] at cut
      rcases List.append_eq_append_iff.mp cut with ⟨rest, rfl, behind⟩ | ⟨rest, encoded, behind⟩
      · obtain ⟨before, after, rfl, rfl, left⟩ := ih behind
        exact ⟨c :: before, after, rfl, rfl, left⟩
      cases rest with
      | nil =>
          obtain ⟨before, after, rfl, nothing, left⟩ := ih (behind.symm.trans (List.nil_append _).symm)
          exact ⟨c :: before, after, rfl, by simp [nothing, encoded], left⟩
      | cons byte rest =>
          -- The line feed is in the encoding of the character, so it is all of it.
          obtain ⟨rfl, rfl⟩ := List.cons.inj behind
          have member : lineFeed ∈ String.utf8EncodeChar c := by simp [encoded]
          obtain ⟨rfl, single⟩ := utf8EncodeChar_of_ascii_mem member (by decide)
          rw [single, List.singleton_eq_append_iff] at encoded
          simp at encoded
          obtain ⟨rfl, rfl⟩ := encoded
          exact ⟨[], later, rfl, rfl, rfl⟩

theorem toUTF8_eq_iff (text : String) (content : ByteArray) :
    text.toUTF8 = content ↔
      text.toList.flatMap String.utf8EncodeChar = content.data.toList := by
  rw [← bytesOf_eq, bytesOf]
  constructor
  · rintro rfl
    rfl
  · intro same
    exact ByteArray.ext (Array.toList_inj.mp same)

theorem toList_toUTF8 (text : String) :
    text.toUTF8.data.toList = text.toList.flatMap String.utf8EncodeChar :=
  bytesOf_eq text

theorem toUTF8_append (first second : String) :
    (first ++ second).toUTF8 = first.toUTF8 ++ second.toUTF8 := by
  simp only [String.toUTF8_eq_toByteArray, String.toByteArray_append]

theorem isText_of_encoded {content : ByteArray} (chars : List Char)
    (encoded : chars.flatMap String.utf8EncodeChar = content.data.toList) : IsText content :=
  ⟨String.ofList chars, (toUTF8_eq_iff _ _).mpr (by rwa [String.toList_ofList])⟩

/-- A text that is cut behind a line feed is cut into texts. -/
theorem isText_append_iff {first second : ByteArray} (ends : EndsLine first) :
    IsText (first ++ second) ↔ IsText first ∧ IsText second := by
  constructor
  · rintro ⟨text, whole⟩
    rcases ends with rfl | last
    · exact ⟨⟨"", rfl⟩, ⟨text, by rw [whole, ByteArray.empty_append]⟩⟩
    · obtain ⟨start, firstBytes⟩ := List.getLast?_eq_some_iff.mp last
      have cut := (toUTF8_eq_iff _ _).mp whole
      rw [ByteArray.toList_data_append, firstBytes, List.append_assoc, List.singleton_append] at cut
      obtain ⟨before, after, _, encodedBefore, encodedAfter⟩ := encoded_cut cut
      refine ⟨isText_of_encoded (before ++ ['\n']) ?_, isText_of_encoded after encodedAfter⟩
      rw [List.flatMap_append, encodedBefore, firstBytes]
      rfl
  · rintro ⟨⟨before, rfl⟩, ⟨after, rfl⟩⟩
    exact ⟨before ++ after, toUTF8_append before after⟩

theorem toUTF8_push (text : String) : (text ++ "\n").toUTF8 = text.toUTF8.push lineFeed := by
  rw [toUTF8_eq_iff, String.toList_append, List.flatMap_append, ← toList_toUTF8, ByteArray.data_push,
    Array.toList_push]
  rfl

theorem isText_push_iff (content : ByteArray) : IsText (content.push lineFeed) ↔ IsText content := by
  constructor
  · rintro ⟨text, whole⟩
    have cut := (toUTF8_eq_iff _ _).mp whole
    rw [ByteArray.data_push, Array.toList_push] at cut
    obtain ⟨before, _, _, encoded, _⟩ := encoded_cut cut
    exact isText_of_encoded before encoded
  · rintro ⟨text, rfl⟩
    exact ⟨text ++ "\n", toUTF8_push text⟩

theorem endsLine_toUTF8_iff (text : String) :
    EndsLine text.toUTF8 ↔ text = "" ∨ text.toList.getLast? = some '\n' := by
  rcases List.eq_nil_or_concat text.toList with nothing | ⟨start, c, whole⟩
  · have empty : text = "" := String.toList_eq_nil_iff.mp nothing
    subst empty
    exact iff_of_true (.inl rfl) (.inl rfl)
  · have bytes := toList_toUTF8 text
    rw [List.concat_eq_append] at whole
    rw [whole, List.flatMap_append, List.flatMap_singleton] at bytes
    have something : text ≠ "" := by
      rintro rfl
      simp at whole
    have someBytes : text.toUTF8 ≠ .empty := by
      intro nothing
      rw [nothing] at bytes
      exact String.utf8EncodeChar_ne_nil (List.append_eq_nil_iff.mp bytes.symm).2
    rw [EndsLine, or_iff_right someBytes, or_iff_right something, whole, List.getLast?_concat, bytes,
      List.getLast?_append_of_ne_nil _ String.utf8EncodeChar_ne_nil]
    constructor
    · intro last
      rw [(lineFeed_mem_iff c).mp (List.mem_of_getLast? last)]
    · intro isFeed
      cases isFeed
      rfl

theorem count_lineFeed (text : String) :
    text.toUTF8.data.toList.count lineFeed = text.toList.count '\n' := by
  rw [toList_toUTF8]
  induction text.toList with
  | nil => rfl
  | cons c later ih =>
      rw [List.flatMap_cons, List.count_append, ih, List.count_cons, Nat.add_comm]
      by_cases isFeed : c = '\n'
      · subst isFeed
        rfl
      · have none : lineFeed ∉ String.utf8EncodeChar c := fun member =>
          isFeed ((lineFeed_mem_iff c).mp member)
        simp [List.count_eq_zero_of_not_mem none, isFeed]

theorem mem_carriageReturn_iff (text : String) :
    carriageReturn ∈ text.toUTF8.data.toList ↔ '\r' ∈ text.toList := by
  rw [toList_toUTF8, List.mem_flatMap]
  simp only [carriageReturn_mem_iff, exists_eq_right]

def withReturns (chars : List Char) : List Char :=
  chars.flatMap fun c => if c = '\n' then ['\r', '\n'] else [c]

theorem toUTF8_withReturns (text : String) :
    (String.ofList (withReturns text.toList)).toUTF8 = withCarriageReturns text.toUTF8 := by
  rw [toUTF8_eq_iff, withCarriageReturns, Array.toList_flatMap, toList_toUTF8, String.toList_ofList,
    withReturns]
  induction text.toList with
  | nil => rfl
  | cons c later ih =>
      rw [List.flatMap_cons, List.flatMap_append, List.flatMap_cons, List.flatMap_append, ih]
      congr 1
      by_cases isFeed : c = '\n'
      · subst isFeed
        rfl
      · have same : ∀ byte ∈ String.utf8EncodeChar c,
            (if byte = lineFeed then #[carriageReturn, lineFeed] else #[byte]).toList = [byte] := by
          intro byte member
          rw [if_neg]
          rintro rfl
          exact isFeed ((lineFeed_mem_iff c).mp member)
        rw [if_neg isFeed, List.flatMap_singleton, List.flatMap_congr same, List.flatMap_singleton']

theorem encoded_without_returns (chars : List Char) :
    (chars.flatMap String.utf8EncodeChar).filter (· != carriageReturn) =
      (chars.filter (· != '\r')).flatMap String.utf8EncodeChar := by
  induction chars with
  | nil => rfl
  | cons c later ih =>
      rw [List.flatMap_cons, List.filter_append, ih]
      by_cases isReturn : c = '\r'
      · subst isReturn
        rfl
      · have kept : (String.utf8EncodeChar c).filter (· != carriageReturn) = String.utf8EncodeChar c := by
          refine List.filter_eq_self.mpr fun byte member => ?_
          rw [bne_iff_ne]
          rintro rfl
          exact isReturn ((carriageReturn_mem_iff c).mp member)
        rw [kept, List.filter_cons_of_pos (by simpa using isReturn), List.flatMap_cons]

theorem filter_withCarriageReturns {content : ByteArray}
    (without : carriageReturn ∉ content.data.toList) :
    (withCarriageReturns content).data.toList.filter (· != carriageReturn) =
      content.data.toList := by
  rw [withCarriageReturns, Array.toList_flatMap]
  generalize content.data.toList = bytes at without
  induction bytes with
  | nil => rfl
  | cons byte later ih =>
      obtain ⟨other, others⟩ := not_or.mp (mt List.mem_cons.mpr without)
      rw [List.flatMap_cons, List.filter_append, ih others]
      by_cases isFeed : byte = lineFeed
      · subst isFeed
        rfl
      · rw [if_neg isFeed]
        simp [Ne.symm other]

theorem isText_withCarriageReturns_iff {content : ByteArray}
    (without : carriageReturn ∉ content.data.toList) :
    IsText (withCarriageReturns content) ↔ IsText content := by
  constructor
  · rintro ⟨text, whole⟩
    have encoded := (toUTF8_eq_iff _ _).mp whole
    refine isText_of_encoded (text.toList.filter (· != '\r')) ?_
    rw [← encoded_without_returns, encoded, filter_withCarriageReturns without]
  · rintro ⟨text, rfl⟩
    exact ⟨_, toUTF8_withReturns text⟩

end StatementLine
