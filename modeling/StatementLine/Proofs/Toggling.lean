import StatementLine.Proofs.Spelling
import StatementLine.Proofs.Verbatim

/-!
Lines without quotes. `split_unquoted` says that such a line is cut at its white space, but for that
which an odd number of backticks precedes, whatever else it holds, and that it fails exactly if the
number of all its backticks is odd.
-/

universe u

namespace StatementLine

variable {σ : Type u}

section Pieces

variable {α β : Type} {isBreak : α → Bool}

def pieces (isBreak : α → Bool) (text : List α) : List (List α) :=
  (text.splitOnP isBreak).filter (!·.isEmpty)

@[simp] theorem pieces_nil : pieces isBreak [] = [] := by
  simp [pieces, List.splitOnP_nil]

theorem pieces_append_break (text later : List α) {c : α} (cut : isBreak c = true) :
    pieces isBreak (text ++ c :: later) = pieces isBreak text ++ pieces isBreak later := by
  rw [pieces, List.splitOnP_append_cons text later cut, List.filter_append]
  rfl

theorem pieces_break (later : List α) {c : α} (cut : isBreak c = true) :
    pieces isBreak (c :: later) = pieces isBreak later :=
  pieces_append_break [] later cut

theorem pieces_breaks {gap : List α} (cuts : ∀ c ∈ gap, isBreak c = true) (later : List α) :
    pieces isBreak (gap ++ later) = pieces isBreak later := by
  induction gap with
  | nil => rfl
  | cons c gap ih =>
      obtain ⟨cut, others⟩ := List.forall_mem_cons.mp cuts
      rw [List.cons_append, pieces_break _ cut, ih others]

theorem pieces_append (text : List α) {later : List α}
    (apart : ∀ c, later.head? = some c → isBreak c = true) :
    pieces isBreak (text ++ later) = pieces isBreak text ++ pieces isBreak later := by
  cases later with
  | nil => simp
  | cons c later => rw [pieces_append_break text later (apart c rfl), pieces_break later (apart c rfl)]

theorem pieces_run {text : List α} (something : text ≠ []) (whole : ∀ c ∈ text, isBreak c = false) :
    pieces isBreak text = [text] := by
  simp [pieces, List.splitOnP_eq_singleton whole, something]

theorem splitOnP_map (change : β → α) (text : List β) :
    (text.map change).splitOnP isBreak =
      (text.splitOnP (isBreak ∘ change)).map (List.map change) := by
  induction text with
  | nil => rfl
  | cons c later ih =>
      simp only [List.map_cons, List.splitOnP_cons_eq_if_modifyHead, Function.comp_apply, ih]
      split
      · rfl
      · obtain ⟨first, others, cut⟩ := List.exists_cons_of_ne_nil
          (List.splitOnP_ne_nil (isBreak ∘ change) later)
        simp [cut]

theorem pieces_map (change : β → α) (text : List β) :
    pieces isBreak (text.map change) = (pieces (isBreak ∘ change) text).map (List.map change) := by
  rw [pieces, splitOnP_map, List.filter_map, pieces]
  simp [Function.comp_def]

end Pieces

def numbered (before : Nat) : List Char → List (Char × Nat)
  | [] => []
  | c :: later => (c, before) :: numbered (if c = '`' then before + 1 else before) later

def isOutside : Char × Nat → Bool
  | (c, before) => isBlank c && before % 2 = 0

/-- A text cut at its white space, but for that which an odd number of backticks precedes. So many of
them are counted in front of the text itself. -/
def togglingWords (before : Nat) (text : List Char) : List (List Char) :=
  (pieces isOutside (numbered before text)).map (List.map Prod.fst)

theorem numbered_append (before : Nat) (text later : List Char) :
    numbered before (text ++ later) =
      numbered before text ++ numbered (before + text.count '`') later := by
  induction text generalizing before with
  | nil => rfl
  | cons c text ih =>
      rw [List.cons_append, numbered, ih, numbered, List.cons_append, List.count_cons]
      by_cases tick : c = '`'
      · have total : before + 1 + text.count '`' = before + (text.count '`' + 1) := by omega
        simp [tick, total]
      · simp [tick]

theorem numbered_fst (before : Nat) (text : List Char) :
    (numbered before text).map Prod.fst = text := by
  induction text generalizing before with
  | nil => rfl
  | cons c later ih => rw [numbered, List.map_cons, ih]

theorem numbered_of_absent (before : Nat) {text : List Char} (absent : '`' ∉ text) :
    numbered before text = text.map (·, before) := by
  induction text with
  | nil => rfl
  | cons c later ih =>
      have other : c ≠ '`' := (List.ne_of_not_mem_cons absent).symm
      rw [numbered, if_neg other, ih (List.not_mem_of_not_mem_cons absent), List.map_cons]

theorem mem_numbered {before : Nat} {text : List Char} {place : Char × Nat}
    (member : place ∈ numbered before text) : place.1 ∈ text := by
  rw [← numbered_fst before text]
  exact List.mem_map_of_mem member

structure Paired (text : List Char) : Prop where
  even : text.count '`' % 2 = 0
  inside : ∀ before, before % 2 = 0 → ∀ place ∈ numbered before text, isOutside place = false

namespace Paired

theorem nil : Paired [] := ⟨rfl, by simp [numbered]⟩

theorem append {text later : List Char} (first : Paired text) (second : Paired later) :
    Paired (text ++ later) where
  even := by
    have firstEven := first.even
    have secondEven := second.even
    rw [List.count_append]
    omega
  inside := by
    intro before even place member
    have firstEven := first.even
    rw [numbered_append] at member
    rcases List.mem_append.mp member with inText | inLater
    · exact first.inside before even place inText
    · exact second.inside (before + text.count '`') (by omega) place inLater

theorem of_plain {text : List Char} (absent : '`' ∉ text) (noBlank : ∀ c ∈ text, isBlank c = false) :
    Paired text where
  even := by rw [List.count_eq_zero_of_not_mem absent]
  inside := by
    intro before even place member
    simp [isOutside, noBlank place.1 (mem_numbered member)]

theorem span {raw : List Char} (absent : '`' ∉ raw) : Paired ('`' :: raw ++ ['`']) where
  even := by simp [List.count_eq_zero_of_not_mem absent]
  inside := by
    intro before even place member
    -- The number before is odd exactly between the two delimiters.
    have delimiter (count : Nat) : isOutside ('`', count) = false := rfl
    rw [List.cons_append, numbered, if_pos rfl, numbered_append, numbered_of_absent _ absent] at member
    rcases List.mem_cons.mp member with rfl | behind
    · exact delimiter before
    rcases List.mem_append.mp behind with inRaw | closing
    · obtain ⟨c, _, rfl⟩ := List.mem_map.mp inRaw
      have odd : (before + 1) % 2 ≠ 0 := by omega
      simp [isOutside, odd]
    · obtain rfl := List.mem_singleton.mp closing
      exact delimiter _

end Paired

theorem SpanContent.noBacktick {following raw text : List Char}
    (content : SpanContent .backtick following raw text) : '`' ∉ raw :=
  content.not_mem (by decide) (fun pairs => absurd rfl pairs) fun _ alone => alone rfl

theorem Segment.isOrdinary_noBacktick {c : Char} (ordinary : isOrdinary c = true) : c ≠ '`' := by
  rintro rfl
  revert ordinary
  decide

theorem Segment.isOrdinary_noBlank {c : Char} (ordinary : isOrdinary c = true) :
    isBlank c = false := by
  simp only [isOrdinary, Bool.and_eq_true, Bool.not_eq_true'] at ordinary
  exact ordinary.1.1.1.1

theorem Segment.StandsBefore.paired {segment : Segment} {rest : List Char}
    (stands : segment.StandsBefore rest)
    (unquoted : ∀ span, segment = .quoted span → span.kind = .backtick) :
    Paired segment.source.toList := by
  cases stands with
  | @literal first plain notBlank noQuote _ inside _ =>
      have each := List.all_eq_true.mp inside
      have noTick : '`' ∉ first :: plain := by
        intro member
        rcases List.mem_cons.mp member with same | later
        · exact noQuote.2.2 same.symm
        · exact isOrdinary_noBacktick (each '`' later) rfl
      have noBlank : ∀ c ∈ first :: plain, isBlank c = false :=
        List.forall_mem_cons.mpr ⟨notBlank, fun c member => isOrdinary_noBlank (each c member)⟩
      simpa [source] using Paired.of_plain noTick noBlank
  | @quoted span content _ =>
      have kind := unquoted span rfl
      rw [kind] at content
      simpa [source, QuotedSpan.source, kind, QuoteKind.delimiter] using Paired.span content.noBacktick
  | reference standsWritten =>
      exact .of_plain (Reference.not_mem_source standsWritten.1 (by decide) (by decide))
        (Reference.source_noBlank standsWritten.1)

theorem Row.paired {rest : List Char} {segments : List Segment} (row : Row rest segments)
    (verbatim : Verbatim segments) : Paired (sources segments) := by
  induction row with
  | nil => exact .nil
  | cons stands _ ih =>
      have first := stands.paired fun span same => verbatim span (same ▸ List.mem_cons_self)
      exact first.append (ih verbatim.tail)

theorem blank_noBacktick {gap : List Char} (white : gap.all isBlank = true) : '`' ∉ gap := by
  intro member
  have blank := List.all_eq_true.mp white '`' member
  revert blank
  decide

theorem togglingWords_gap {before : Nat} (even : before % 2 = 0) {gap : List Char}
    (white : gap.all isBlank = true) (later : List Char) :
    togglingWords before (gap ++ later) = togglingWords before later := by
  have absent := blank_noBacktick white
  have cuts : ∀ place ∈ numbered before gap, isOutside place = true := by
    rw [numbered_of_absent before absent]
    intro place member
    obtain ⟨c, inGap, rfl⟩ := List.mem_map.mp member
    simp [isOutside, even, List.all_eq_true.mp white c inGap]
  rw [togglingWords, numbered_append, List.count_eq_zero_of_not_mem absent, pieces_breaks cuts]
  rfl

theorem togglingWords_paired {before : Nat} (even : before % 2 = 0) {text later : List Char}
    (something : text ≠ []) (paired : Paired text) (boundary : AtBoundary later) :
    togglingWords before (text ++ later) =
      text :: togglingWords (before + text.count '`') later := by
  have stillEven : (before + text.count '`') % 2 = 0 := by
    have textEven := paired.even
    omega
  have apart : ∀ place, (numbered (before + text.count '`') later).head? = some place →
      isOutside place = true := by
    intro place head
    cases later with
    | nil => cases head
    | cons c later =>
        cases head
        simp [isOutside, AtBoundary.cons_iff.mp boundary, stillEven]
  have present : numbered before text ≠ [] := by
    intro nothing
    apply something
    rw [← numbered_fst before text, nothing]
    rfl
  rw [togglingWords, numbered_append, pieces_append _ apart,
    pieces_run present (paired.inside before even), List.map_append, List.map_singleton, numbered_fst]
  rfl

theorem verbatim_append {first second : List Segment} :
    Verbatim (first ++ second) ↔ Verbatim first ∧ Verbatim second := by
  simp only [Verbatim, List.mem_append, or_imp, forall_and]

theorem LineGrammar.words {line : List Char} {layout : Segmentation}
    (grammar : LineGrammar line layout) (unbroken : layout.broken? = none)
    (verbatim : Verbatim layout.segments) {before : Nat} (even : before % 2 = 0) :
    line.count '`' % 2 = 0 ∧ togglingWords before line = layout.groups.map sources := by
  induction grammar generalizing before with
  | @blank gap white =>
      have nothing := togglingWords_gap even white []
      rw [List.append_nil] at nothing
      rw [List.count_eq_zero_of_not_mem (blank_noBacktick white), nothing]
      exact ⟨rfl, rfl⟩
  | @token gap input group rest later white something run _ ih =>
      rw [later.segments_token, verbatim_append] at verbatim
      cases run with
      | complete row boundary =>
          have present : sources group ≠ [] := by
            obtain ⟨_, _, source, _⟩ := row.starts something
            simp [source]
          have paired := row.paired verbatim.1
          have groupEven := paired.even
          have stillEven : (before + (sources group).count '`') % 2 = 0 := by omega
          obtain ⟨restEven, words⟩ := ih unbroken verbatim.2 stillEven
          constructor
          · rw [List.count_append, List.count_append,
              List.count_eq_zero_of_not_mem (blank_noBacktick white)]
            omega
          · rw [togglingWords_gap even white,
              togglingWords_paired even present paired boundary, words]
            rfl
  | broken => cases unbroken

theorem LineGrammar.verbatim {line : List Char} {layout : Segmentation}
    (grammar : LineGrammar line layout) (noSingle : '\'' ∉ line) (noDouble : '"' ∉ line) :
    Verbatim layout.segments := by
  intro span member
  obtain ⟨places, tail, whole, segments, _⟩ := grammar.exists_places
  rw [← segments] at member
  obtain ⟨place, inPlaces, same⟩ := List.mem_map.mp member
  have inPlace : span.kind.delimiter ∈ place.text := by
    simp [Place.text, same, Segment.source, QuotedSpan.source]
  have inLine : span.kind.delimiter ∈ line := by
    rw [whole]
    exact List.mem_append_left tail (List.mem_flatMap.mpr ⟨place, inPlaces, inPlace⟩)
  cases kind : span.kind with
  | backtick => rfl
  | single =>
      rw [kind] at inLine
      exact absurd inLine noSingle
  | double =>
      rw [kind] at inLine
      exact absurd inLine noDouble

theorem broken_without_quotes {line : List Char} (noSingle : '\'' ∉ line) (noDouble : '"' ∉ line)
    {broken : BrokenGroup} (found : (segmentation line).broken? = some broken) :
    broken.error = .unterminated ∧ line.count '`' % 2 = 1 := by
  obtain ⟨weave, tail, covers⟩ := (segmentation_grammar line).exists_weave
  have leaves := covers.leaves
  simp only [Segmentation.Leaves, found] at leaves
  obtain ⟨kind, body, rfl, ending⟩ := leaves
  have whole := covers.whole
  have front : weave.text ⊆ line := whole ▸ List.subset_append_left _ _
  have delimiter : kind.delimiter ∈ line := by simp [whole]
  have verbatim := covers.grammar.verbatim (fun inFront => noSingle (front inFront))
    fun inFront => noDouble (front inFront)
  obtain ⟨even, _⟩ := covers.grammar.words rfl verbatim (Nat.zero_mod 2)
  obtain ⟨segments, error, unread⟩ := broken
  cases ending with
  | invalid isDouble =>
      rw [isDouble] at delimiter
      exact absurd delimiter noDouble
  | unterminated content =>
      cases kind with
      | single => exact absurd delimiter noSingle
      | double => exact absurd delimiter noDouble
      | backtick =>
          refine ⟨rfl, ?_⟩
          have one : (QuoteKind.backtick.delimiter :: body).count '`' = 1 := by
            simp [QuoteKind.delimiter, List.count_eq_zero_of_not_mem content.noBacktick]
          rw [whole, List.count_append, one]
          omega

theorem togglingWords_of_absent {text : List Char} (absent : '`' ∉ text) :
    togglingWords 0 text = pieces isBlank text := by
  have outside : isOutside ∘ (·, 0) = isBlank := by
    funext c
    simp [isOutside]
  rw [togglingWords, numbered_of_absent 0 absent, pieces_map, outside, List.map_map]
  simp [Function.comp_def]

/-- A line without quotes is cut at its white space, but for that which an odd number of backticks
precedes, if the number of all its backticks is even. If it is odd, the last of them opens a span that
does not close. Where there are no backticks, all white space counts, and nothing else does. -/
theorem split_unquoted (line : String) (state : σ) (noSingle : '\'' ∉ line.toList)
    (noDouble : '"' ∉ line.toList) :
    (split Resolver.literal line state).result =
        (if line.toList.count '`' % 2 = 1 then .error (.quote .unterminated)
          else .ok ((togglingWords 0 line.toList).map String.ofList)) ∧
      ('`' ∉ line.toList → (split Resolver.literal line state).result =
        .ok ((pieces isBlank line.toList).map String.ofList)) := by
  have grammar := segmentation_grammar line.toList
  have verbatim := grammar.verbatim noSingle noDouble
  have toggles : (split Resolver.literal line state).result =
      if line.toList.count '`' % 2 = 1 then .error (.quote .unterminated)
        else .ok ((togglingWords 0 line.toList).map String.ofList) := by
    rw [split_literal verbatim]
    cases found : (segmentation line.toList).broken? with
    | some broken =>
        obtain ⟨error, odd⟩ := broken_without_quotes noSingle noDouble found
        simp [Segmentation.error?, found, error, odd]
    | none =>
        obtain ⟨even, words⟩ := grammar.words found verbatim (Nat.zero_mod 2)
        simp [Segmentation.error?, found, even, words, writtenText]
  refine ⟨toggles, ?_⟩
  intro absent
  rw [toggles, List.count_eq_zero_of_not_mem absent, togglingWords_of_absent absent]
  rfl

theorem split_unquoted_backticks :
    let closed := "a`b c`:n \\:\x7b?x `` :\x7b?y\x7d"
    let broken := ":n `` :\x7b?x ` y"
    ('\'' ∉ closed.toList ∧ '"' ∉ closed.toList) ∧ ('\'' ∉ broken.toList ∧ '"' ∉ broken.toList) ∧
    (split Resolver.literal closed ()).result =
      .ok ["a`b c`:n", "\\:\x7b?x", "``", ":\x7b?y\x7d"] ∧
    (split Resolver.literal broken ()).result = .error (.quote .unterminated) := by
  intro closed broken
  have noQuotes : '\'' ∉ closed.toList ∧ '"' ∉ closed.toList := by decide +kernel
  have noQuotesBroken : '\'' ∉ broken.toList ∧ '"' ∉ broken.toList := by decide +kernel
  have even : closed.toList.count '`' % 2 = 0 := by decide +kernel
  have odd : broken.toList.count '`' % 2 = 1 := by decide +kernel
  have words : (togglingWords 0 closed.toList).map String.ofList =
      ["a`b c`:n", "\\:\x7b?x", "``", ":\x7b?y\x7d"] := by decide +kernel
  obtain ⟨whole, _⟩ := split_unquoted closed () noQuotes.1 noQuotes.2
  obtain ⟨fails, _⟩ := split_unquoted broken () noQuotesBroken.1 noQuotesBroken.2
  refine ⟨noQuotes, noQuotesBroken, ?_, ?_⟩
  · rw [whole, even, words]
    rfl
  · rw [fails, odd]
    rfl

end StatementLine
