import StatementLine.Proofs.Answering
import StatementLine.Proofs.Concatenation
import StatementLine.Proofs.Weaving

/-!
Lines that come back as they are written. If nothing is replaced and no quotes are taken away, the
tokens of a line are parts of it. `split_join_literal` says that any white space may be put between
them, and the line that comes of it is laid out in the same way.
-/

universe u

namespace StatementLine

variable {σ : Type u}

def writtenText (segments : List Segment) : String :=
  String.ofList (sources segments)

theorem writtenText_cons (segment : Segment) (later : List Segment) :
    writtenText (segment :: later) = segment.source ++ writtenText later := by
  simp [writtenText]

/-- Segments with no span in single or double quotes, which would be taken away. -/
def Verbatim (segments : List Segment) : Prop :=
  ∀ span, Segment.quoted span ∈ segments → span.kind = .backtick

theorem Verbatim.head {segment : Segment} {later : List Segment}
    (verbatim : Verbatim (segment :: later)) : segment.literalText = segment.source := by
  cases segment with
  | literal => rfl
  | reference => rfl
  | quoted span =>
      have kind := verbatim span List.mem_cons_self
      simp only [Segment.literalText, Segment.source, kind]

theorem Verbatim.tail {segment : Segment} {later : List Segment}
    (verbatim : Verbatim (segment :: later)) : Verbatim later :=
  fun span member => verbatim span (List.mem_cons_of_mem segment member)

theorem joinTexts_unhandled {segments : List Segment} (verbatim : Verbatim segments)
    {resolutions : List Resolution} (unhandled : ∀ resolution ∈ resolutions, resolution = .unhandled) :
    joinTexts segments resolutions = writtenText segments := by
  induction segments generalizing resolutions with
  | nil => rfl
  | cons segment later ih =>
      rw [writtenText_cons, ← verbatim.head]
      simp only [joinTexts]
      split
      · rename_i resolution others found
        obtain ⟨rfl, others⟩ := List.forall_mem_cons.mp unhandled
        rw [ih verbatim.tail others]
        rfl
      · rw [ih verbatim.tail unhandled]
      · rw [ih verbatim.tail unhandled]

theorem tokenTexts_unhandled {groups : List (List Segment)}
    (verbatim : ∀ group ∈ groups, Verbatim group) {resolutions : List Resolution}
    (unhandled : ∀ resolution ∈ resolutions, resolution = .unhandled) :
    tokenTexts groups resolutions = groups.map writtenText := by
  induction groups generalizing resolutions with
  | nil => rfl
  | cons group later ih =>
      obtain ⟨first, others⟩ := List.forall_mem_cons.mp verbatim
      rw [tokenTexts, joinTexts_unhandled first unhandled,
        ih others fun resolution member => unhandled resolution (List.mem_of_mem_drop member)]
      rfl

theorem Segmentation.mem_segments {layout : Segmentation} {group : List Segment} {segment : Segment}
    (inLayout : group ∈ layout.groups) (member : segment ∈ group) : segment ∈ layout.segments := by
  have inGroups : segment ∈ layout.groups.flatten := List.mem_flatten.mpr ⟨group, inLayout, member⟩
  unfold segments
  split
  · exact inGroups
  · exact List.mem_append_left _ inGroups

theorem split_literal {line : String} (verbatim : Verbatim (segmentation line.toList).segments)
    (state : σ) :
    (split Resolver.literal line state).result =
      match (segmentation line.toList).error? with
      | some error => .error (.quote error)
      | none => .ok ((segmentation line.toList).groups.map writtenText) := by
  have each : ∀ group ∈ (segmentation line.toList).groups, Verbatim group :=
    fun group inLayout span member => verbatim span (Segmentation.mem_segments inLayout member)
  have texts : tokenTexts (segmentation line.toList).groups
      ((segmentation line.toList).lookups.map fun _ => .unhandled) =
        (segmentation line.toList).groups.map writtenText := tokenTexts_unhandled each (by simp)
  rw [Resolver.literal_answersBy.split_result, Segmentation.resultBy]
  cases (segmentation line.toList).error? with
  | some error => rfl
  | none => exact congrArg Except.ok texts

theorem LineGrammar.group_stands {line : List Char} {layout : Segmentation}
    (grammar : LineGrammar line layout) : ∀ group ∈ layout.groups, group ≠ [] ∧ Row [] group := by
  induction grammar with
  | blank => simp
  | token white something run _ ih =>
      cases run with
      | complete row boundary =>
          exact List.forall_mem_cons.mpr ⟨⟨something, row.change boundary .nil⟩, ih⟩
  | broken => simp

def spaced (gap : List Char) (gaps : List (List Char)) (groups : List (List Segment)) : List Char :=
  (List.zipWith (fun gap group => gap ++ sources group) (gap :: gaps) groups).flatten

theorem spaced_nil (gap : List Char) (gaps : List (List Char)) : spaced gap gaps [] = [] := by
  simp [spaced]

theorem spaced_boundary {gap : List Char} (apart : gap ≠ []) (white : gap.all isBlank = true)
    (gaps : List (List Char)) (groups : List (List Segment)) :
    AtBoundary (spaced gap gaps groups) := by
  cases groups with
  | nil => exact .nil
  | cons group later =>
      rw [spaced, List.zipWith_cons_cons, List.flatten_cons, List.append_assoc]
      exact .of_gap apart white _

theorem spaced_grammar {gap : List Char} {gaps : List (List Char)} {groups : List (List Segment)}
    (white : gap.all isBlank = true) (gapsWhite : ∀ gap ∈ gaps, gap ≠ [] ∧ gap.all isBlank = true)
    (enough : groups.length ≤ gaps.length + 1) (stands : ∀ group ∈ groups, group ≠ [] ∧ Row [] group) :
    LineGrammar (spaced gap gaps groups) ⟨groups, none⟩ := by
  induction groups generalizing gap gaps with
  | nil =>
      rw [spaced_nil]
      exact .blank rfl
  | cons group later ih =>
      obtain ⟨⟨something, row⟩, others⟩ := List.forall_mem_cons.mp stands
      cases gaps with
      | nil =>
          obtain rfl : later = [] := List.eq_nil_of_length_eq_zero (by simpa using enough)
          simpa [spaced] using LineGrammar.single white something row
      | cons next gaps =>
          obtain ⟨⟨apart, nextWhite⟩, gapsWhite⟩ := List.forall_mem_cons.mp gapsWhite
          have grammar := ih nextWhite gapsWhite (by simpa using enough) others
          have boundary := spaced_boundary apart nextWhite gaps later
          have whole : spaced gap (next :: gaps) (group :: later) =
              gap ++ (sources group ++ spaced next gaps later) := by
            simp [spaced]
          rw [whole]
          exact .token white something (.complete (row.change .nil boundary) boundary) grammar

theorem toList_joined (gaps : List String) (groups : List (List Segment)) :
    (String.join (List.zipWith (· ++ ·) ("" :: gaps) (groups.map writtenText))).toList =
      spaced [] (gaps.map String.toList) groups := by
  have gapTexts : [] :: gaps.map String.toList = ("" :: gaps).map String.toList := rfl
  rw [String.toList_join, List.flatMap_def, List.map_zipWith, List.zipWith_map_right, spaced, gapTexts,
    List.zipWith_map_left]
  simp [writtenText]

/-- If no quotes are taken away and nothing is replaced, the tokens of a line are parts of it as they
stand there, in their order and with white space around them. With other white space between two of
them, whatever it is, they make up a line that is laid out in the same way, comes to the same tokens
and asks for the same. -/
theorem split_join_literal (line : String) (tokens : List String) (state : σ)
    (success : (split Resolver.literal line state).result = .ok tokens)
    (unquoted : ∀ span, Segment.quoted span ∈ (segmentation line.toList).segments →
      span.kind = .backtick) :
    (∃ weave : Weave, weave.Covers [] line.toList (segmentation line.toList) ∧
      tokens = weave.tokens.map fun token => writtenText token.1) ∧
    ∀ gaps : List String, tokens.length ≤ gaps.length + 1 →
      (∀ gap ∈ gaps, gap ≠ "" ∧ ∀ c ∈ gap.toList, isBlank c = true) →
      let joined := String.join (List.zipWith (· ++ ·) ("" :: gaps) tokens)
      segmentation joined.toList = segmentation line.toList ∧
      (split Resolver.literal joined state).result = .ok tokens ∧
      lookupsMade Resolver.literal joined state = lookupsMade Resolver.literal line state := by
  have grammar := segmentation_grammar line.toList
  have result := split_literal unquoted state
  rcases layout : segmentation line.toList with ⟨groups, _ | broken⟩
  · rw [layout] at grammar
    have texts : groups.map writtenText = tokens := by
      simpa [success, layout, Segmentation.error?, eq_comm] using result
    subst texts
    constructor
    · obtain ⟨weave, tail, covers⟩ := grammar.exists_weave
      obtain rfl : tail = [] := covers.leaves
      have rows : weave.tokens.map Prod.fst = groups := covers.rows
      exact ⟨weave, covers, by rw [← rows, List.map_map]; rfl⟩
    · intro gaps enough white joined
      have gapsWhite : ∀ gap ∈ gaps.map String.toList, gap ≠ [] ∧ gap.all isBlank = true := by
        intro gap member
        obtain ⟨text, inGaps, rfl⟩ := List.mem_map.mp member
        obtain ⟨apart, blank⟩ := white text inGaps
        exact ⟨fun nothing => apart (String.toList_eq_nil_iff.mp nothing), List.all_eq_true.mpr blank⟩
      have same : segmentation joined.toList = segmentation line.toList := by
        rw [segmentation_eq_iff, toList_joined, layout]
        exact spaced_grammar rfl gapsWhite (by simpa using enough) grammar.group_stands
      have joinedUnquoted : Verbatim (segmentation joined.toList).segments := by rwa [same]
      have joinedResult := split_literal joinedUnquoted state
      rw [same, ← result, success] at joinedResult
      refine ⟨same.trans layout, joinedResult, ?_⟩
      rw [lookupsMade_eq_take, lookupsMade_eq_take, same]
  · simp [success, layout, Segmentation.error?] at result

theorem split_join_literal_command :
    let line := " k:'n'`a  b` :\x7b?x\t:\"m\":"
    let tokens := ["k:'n'`a  b`", ":\x7b?x", ":\"m\":"]
    let joined := "k:'n'`a  b`\n\t:\x7b?x :\"m\":"
    (split Resolver.literal line ()).result = .ok tokens ∧
    (∀ span, Segment.quoted span ∈ (segmentation line.toList).segments → span.kind = .backtick) ∧
    (∀ gap ∈ ["\n\t", " "], gap ≠ "" ∧ ∀ c ∈ gap.toList, isBlank c = true) ∧
    (split Resolver.literal joined ()).result = .ok tokens ∧
    lookupsMade Resolver.literal joined () =
      [.value "n" .singleQuoted, .command "a  b", .value "m" .doubleQuoted] := by
  intro line tokens joined
  have success : (split Resolver.literal line ()).result = .ok tokens :=
    ok_of_toOption (by decide +kernel)
  have unquoted : ∀ span, Segment.quoted span ∈ (segmentation line.toList).segments →
      span.kind = .backtick := by
    have each : ((segmentation line.toList).segments.all fun segment =>
        match segment with
        | .quoted span => span.kind = .backtick
        | _ => true) = true := by decide +kernel
    intro span member
    simpa using List.all_eq_true.mp each _ member
  have tab : "\n\t".toList.all isBlank = true := by decide
  have space : " ".toList.all isBlank = true := by decide
  have white : ∀ gap ∈ ["\n\t", " "], gap ≠ "" ∧ ∀ c ∈ gap.toList, isBlank c = true :=
    List.forall_mem_cons.mpr ⟨⟨by decide, List.all_eq_true.mp tab⟩,
      List.forall_mem_singleton.mpr ⟨by decide, List.all_eq_true.mp space⟩⟩
  obtain ⟨_, places⟩ := split_join_literal line tokens () success unquoted
  obtain ⟨_, result, lookups⟩ := places ["\n\t", " "] (by decide) white
  have asked : lookupsMade Resolver.literal line () =
      [.value "n" .singleQuoted, .command "a  b", .value "m" .doubleQuoted] := by decide +kernel
  exact ⟨success, unquoted, white, result, lookups.trans asked⟩

end StatementLine
