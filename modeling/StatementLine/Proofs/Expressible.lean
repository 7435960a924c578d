import Mathlib.Data.List.DropRight
import StatementLine.Proofs.Doubling
import StatementLine.Proofs.Verbatim

/-!
What can be written in a line. A span of each kind stands for some texts and not for others, since a
backslash or a backtick may be in its way. Lines are not so limited: a backslash also stands for itself
where no quotes are around it, and `expressible_texts` says that every list of strings has a line.
-/

universe u

namespace StatementLine

variable {σ : Type u}

theorem getLast?_cons_ne {c last : Char} {text : List Char} (later : text.getLast? ≠ some last)
    (alone : text = [] → c ≠ last) : (c :: text).getLast? ≠ some last := by
  rw [List.getLast?_cons]
  cases behind : text.getLast? with
  | none =>
      have different := alone (List.getLast?_eq_none_iff.mp behind)
      simpa using different
  | some other => simpa [behind] using later

namespace SpanContent

variable {kind : QuoteKind} {following raw text : List Char}

theorem text_subset (content : SpanContent kind following raw text) : text ⊆ raw := by
  induction content with
  | empty => exact List.Subset.refl []
  | doubled _ _ ih => exact List.cons_subset_cons _ (List.subset_cons_of_subset _ ih)
  | escaped _ _ ih => exact List.subset_cons_of_subset _ (List.cons_subset_cons _ ih)
  | itself _ _ ih => exact List.cons_subset_cons _ ih

theorem raw_eq_nil (content : SpanContent kind following raw []) : raw = [] := by
  cases content
  rfl

theorem noBackslash_text (content : SpanContent .double following raw text) : '\\' ∉ text := by
  have absent : '\\' ∉ raw :=
    content.not_mem (by decide) (fun _ => by decide) (fun _ alone => alone.2 rfl)
  intro member
  exact absent (content.text_subset member)

theorem noBacktick_text (content : SpanContent .backtick following raw text) : '`' ∉ text := by
  have absent : '`' ∉ raw :=
    content.not_mem (by decide) (fun never => absurd rfl never) (fun _ alone => alone rfl)
  intro member
  exact absent (content.text_subset member)

theorem getLast?_text (content : SpanContent .single following raw text)
    (quote : following.head? = some '\'') : text.getLast? ≠ some '\\' := by
  induction content with
  | empty => simp
  | doubled _ _ ih => exact getLast?_cons_ne ih fun _ => by decide
  | escaped _ _ ih => exact getLast?_cons_ne ih fun _ => by decide
  | itself alone content ih =>
      refine getLast?_cons_ne ih ?_
      rintro rfl backslash
      rw [content.raw_eq_nil] at alone
      exact alone.2 backslash quote

theorem of_noBacktick (absent : '`' ∉ text) : SpanContent .backtick following text text := by
  induction text with
  | nil => exact .empty
  | cons c rest ih =>
      rw [List.mem_cons, not_or] at absent
      obtain ⟨other, later⟩ := absent
      have alone : QuoteKind.backtick.StandsForItself c (rest ++ following) := Ne.symm other
      exact .itself alone (ih later)

end SpanContent

def escapeQuotes (text : List Char) : List Char :=
  text.flatMap fun c => if c = '\'' then escapedQuote else [c]

theorem escapeQuotes_cons (c : Char) (rest : List Char) :
    escapeQuotes (c :: rest) = (if c = '\'' then escapedQuote else [c]) ++ escapeQuotes rest :=
  List.flatMap_cons

theorem head?_escapeQuotes_append (text : List Char) {following : List Char}
    (apart : text = [] → following.head? ≠ some '\'') :
    (escapeQuotes text ++ following).head? ≠ some '\'' := by
  cases text with
  | nil => exact apart rfl
  | cons c rest =>
      rw [escapeQuotes_cons]
      by_cases quote : c = '\''
      · simp [quote, escapedQuote]
      · simp [quote]

theorem SpanContent.of_escaped {text following : List Char}
    (ends : text.getLast? = some '\\' → following.head? ≠ some '\'') :
    SpanContent .single following (escapeQuotes text) text := by
  induction text with
  | nil => exact .empty
  | cons c rest ih =>
      have later : SpanContent .single following (escapeQuotes rest) rest := by
        refine ih fun last => ends ?_
        rw [List.getLast?_cons, last]
        rfl
      rw [escapeQuotes_cons]
      by_cases quote : c = '\''
      · rw [if_pos quote, quote]
        exact .escaped rfl later
      · rw [if_neg quote]
        refine .itself ⟨quote, fun backslash => head?_escapeQuotes_append rest ?_⟩ later
        rintro rfl
        exact ends (by rw [backslash]; rfl)

/-- The texts that a span of the kind can stand for. -/
def QuoteKind.CanExpress : QuoteKind → List Char → Prop
  | .single, text => text.getLast? ≠ some '\\'
  | .double, text => '\\' ∉ text
  | .backtick, text => '`' ∉ text

theorem SpanContent.canExpress {kind : QuoteKind} {rest raw text : List Char}
    (content : SpanContent kind (kind.delimiter :: rest) raw text) : kind.CanExpress text := by
  cases kind with
  | single => exact content.getLast?_text rfl
  | double => exact content.noBackslash_text
  | backtick => exact content.noBacktick_text

theorem QuoteKind.CanExpress.exists_raw {kind : QuoteKind} {text : List Char}
    (expressible : kind.CanExpress text) (rest : List Char) :
    ∃ raw, SpanContent kind (kind.delimiter :: rest) raw text := by
  cases kind with
  | single => exact ⟨_, .of_escaped fun last => absurd last expressible⟩
  | double => exact ⟨_, .of_noBackslash expressible⟩
  | backtick => exact ⟨_, .of_noBacktick expressible⟩

theorem QuoteKind.exists_span_iff (kind : QuoteKind) (text : String) :
    (∃ input raw rest, Segment.read input = .segment (.quoted ⟨kind, raw, text⟩) rest) ↔
      kind.CanExpress text.toList := by
  constructor
  · rintro ⟨input, raw, rest, found⟩
    cases Segment.StandsBefore.of_read found with
    | quoted content closes => exact content.canExpress
  · intro expressible
    obtain ⟨raw, content⟩ := expressible.exists_raw []
    have stands : (Segment.quoted ⟨kind, String.ofList raw, text⟩).StandsBefore [] := by
      refine .quoted (by simpa using content) ?_
      intro _ head
      cases head
    exact ⟨_, _, _, Segment.read_source stands⟩

theorem Segment.backslashes_stand {first : Char} {more : List Char}
    (backslashes : ∀ c ∈ first :: more, c = '\\') :
    (Segment.literal (String.ofList (first :: more))).StandsBefore [] := by
  obtain ⟨rfl, others⟩ := List.forall_mem_cons.mp backslashes
  have ordinary : more.all isOrdinary = true := by
    rw [List.all_eq_true]
    intro c member
    rw [others c member]
    decide
  refine .literal (by decide) (by decide) ?_ ordinary (RunEnds.nil isOrdinary)
  intro reference later stands same
  obtain ⟨inside, colon⟩ := reference.source_colon
  rw [colon] at same
  cases same

def writtenValue (value : String) : List Segment :=
  let kept := value.toList.rdropWhile (· == '\\')
  let span := Segment.quoted ⟨.single, String.ofList (escapeQuotes kept), String.ofList kept⟩
  match value.toList.rtakeWhile (· == '\\') with
  | [] => [span]
  | first :: more => [span, .literal (String.ofList (first :: more))]

theorem writtenValue_row (value : String) : Row [] (writtenValue value) := by
  have last : (value.toList.rdropWhile (· == '\\')).getLast? ≠ some '\\' := by
    intro last
    obtain ⟨start, whole⟩ := List.getLast?_eq_some_iff.mp last
    have something : value.toList.rdropWhile (· == '\\') ≠ [] := by simp [whole]
    have other := List.rdropWhile_last_not _ _ something
    simp [whole] at other
  have span (rest : List Char) (closes : QuoteKind.single.Closes rest) :
      (Segment.quoted ⟨.single, String.ofList (escapeQuotes (value.toList.rdropWhile (· == '\\'))),
        String.ofList (value.toList.rdropWhile (· == '\\'))⟩).StandsBefore rest := by
    refine .quoted ?_ closes
    simpa using SpanContent.of_escaped fun ends => absurd ends last
  unfold writtenValue
  split
  · exact .cons (span [] fun _ head => by cases head) .nil
  · rename_i first more backslashes
    have each : ∀ c ∈ first :: more, c = '\\' := by
      intro c member
      rw [← backslashes] at member
      simpa using List.mem_rtakeWhile_imp member
    refine .cons (span _ ?_) (.cons (Segment.backslashes_stand each) .nil)
    rw [each first List.mem_cons_self]
    intro _ head
    simp [Segment.source, QuoteKind.delimiter] at head

theorem lookupsOf_writtenValue (value : String) : lookupsOf (writtenValue value) = [] := by
  unfold writtenValue
  split
  · rfl
  · rfl

theorem joinTexts_writtenValue (value : String) (resolutions : List Resolution) :
    joinTexts (writtenValue value) resolutions = value := by
  have whole := List.rdropWhile_append_rtakeWhile (p := (· == '\\')) (l := value.toList)
  apply String.toList_inj.mp
  unfold writtenValue
  split
  · rename_i nothing
    rw [nothing] at whole
    simpa [joinTexts, Segment.lookup?, Segment.literalText] using whole
  · rename_i first more backslashes
    rw [backslashes] at whole
    simpa [joinTexts, Segment.lookup?, Segment.literalText] using whole

theorem writtenValue_ne_nil (value : String) : writtenValue value ≠ [] := by
  unfold writtenValue
  split
  · simp
  · simp

def writtenLine (values : List String) : String :=
  String.ofList (spaced [] (values.map fun _ => [' ']) (values.map writtenValue))

theorem segmentation_writtenLine (values : List String) :
    segmentation (writtenLine values).toList = ⟨values.map writtenValue, none⟩ := by
  rw [segmentation_eq_iff, writtenLine, String.toList_ofList]
  refine spaced_grammar rfl ?_ ?_ ?_
  · intro gap member
    obtain ⟨_, _, rfl⟩ := List.mem_map.mp member
    exact ⟨by simp, by decide⟩
  · simp
  · intro group member
    obtain ⟨value, _, rfl⟩ := List.mem_map.mp member
    exact ⟨writtenValue_ne_nil value, writtenValue_row value⟩

theorem lookupsOf_writtenValues (values : List String) :
    lookupsOf (values.map writtenValue).flatten = [] := by
  induction values with
  | nil => rfl
  | cons value later ih =>
      rw [List.map_cons, List.flatten_cons, lookupsOf_append, ih, lookupsOf_writtenValue]
      rfl

theorem tokenTexts_writtenValues (values : List String) (resolutions : List Resolution) :
    tokenTexts (values.map writtenValue) resolutions = values := by
  induction values generalizing resolutions with
  | nil => rfl
  | cons value later ih => rw [List.map_cons, tokenTexts, joinTexts_writtenValue, ih]

theorem split_writtenLine (values : List String) (resolver : Resolver σ) (state : σ) :
    (split resolver (writtenLine values) state).result = .ok values ∧
      lookupsMade resolver (writtenLine values) state = [] := by
  have layout := segmentation_writtenLine values
  have nothing : (segmentation (writtenLine values).toList).lookups = [] := by
    rw [layout]
    exact lookupsOf_writtenValues values
  have result := (split_eq_outcome resolver (writtenLine values) state).1
  constructor
  · rw [result, nothing, layout, Segmentation.outcome_complete rfl rfl, tokenTexts_writtenValues]
  · rw [lookupsMade_eq_take, nothing, List.take_nil]

example : writtenLine ["it's", "", "a b\\\\"] = "'it\\'s' '' 'a b'\\\\" := by
  decide

/-- A span in single quotes can stand for a text exactly if the text does not end in a backslash, a span
in double quotes if it has no backslash, and a span in backticks if it has no backtick. Yet for every
list of strings there is a line that comes to this list, whoever resolves it, and that asks nothing. -/
theorem expressible_texts :
    let Expressed (kind : QuoteKind) (text : String) : Prop :=
      ∃ input raw rest, Segment.read input = .segment (.quoted ⟨kind, raw, text⟩) rest
    (∀ text, Expressed .single text ↔ text.toList.getLast? ≠ some '\\') ∧
    (∀ text, Expressed .double text ↔ '\\' ∉ text.toList) ∧
    (∀ text, Expressed .backtick text ↔ '`' ∉ text.toList) ∧
    ∀ values : List String, ∃ line, ∀ (σ : Type u) (resolver : Resolver σ) (state : σ),
      (split resolver line state).result = .ok values ∧ lookupsMade resolver line state = [] := by
  intro Expressed
  refine ⟨QuoteKind.single.exists_span_iff, QuoteKind.double.exists_span_iff,
    QuoteKind.backtick.exists_span_iff, ?_⟩
  intro values
  exact ⟨writtenLine values, fun _ => split_writtenLine values⟩

end StatementLine
