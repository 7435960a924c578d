import StatementLine.CommandLine.Run
import StatementLine.Proofs.Completion
import StatementLine.Proofs.LineFeeds
import StatementLine.Proofs.Substitution

/-!
Line ends of the inputs. `line_ends` says that an input can be cut behind any line feed and its parts
be split on their own, with the line numbers of the second counted on, and that neither carriage
returns in front of the line feeds nor a last line feed that is left out make a difference. An input
that is no text is not split at all, so only parts that are texts can be cut off and printed apart
(`output_append_fails`).
-/

universe u

namespace StatementLine

variable {σ : Type u} {line : List Char} {layout : Segmentation} {broken : BrokenGroup} {c : Char}

theorem SpanEnd.stays_unterminated {kind : QuoteKind} {body unread : List Char}
    (blank : isBlank c = true) (ending : SpanEnd kind body (.failed .unterminated unread)) :
    SpanEnd kind (body ++ [c]) (.failed .unterminated []) := by
  cases ending with
  | unterminated content =>
      have alone : SpanContent kind [] [c] [c] := .itself (kind.blank_standsForItself blank _) .empty
      have other : [c].head? ≠ some '\'' := fun same =>
        isBlank_ne blank (by decide) (Option.some.inj same)
      exact .unterminated ((content.before_other other).append alone)

theorem RunGrammar.stays_unterminated {segments : List Segment} {unread : List Char}
    (blank : isBlank c = true) (run : RunGrammar line ⟨segments, some .unterminated, unread⟩) :
    RunGrammar (line ++ [c]) ⟨segments, some .unterminated, []⟩ := by
  cases run with
  | broken row ending =>
      rw [List.append_assoc]
      exact .broken (row.extend (AtBoundary.cons_iff.mpr blank)) (ending.stays_unterminated blank)

theorem LineGrammar.stays_unterminated (blank : isBlank c = true) (grammar : LineGrammar line layout)
    (found : layout.broken? = some broken) (unterminated : broken.error = .unterminated) :
    LineGrammar (line ++ [c]) { layout with broken? := some { broken with unread := [] } } := by
  refine grammar.extend_broken (AtBoundary.cons_iff.mpr blank) found fun run => ?_
  rw [unterminated] at run ⊢
  exact run.stays_unterminated blank

theorem resultBy_blank (blank : isBlank c = true) (line : List Char) (answer : Lookup → Resolution) :
    (segmentation (line ++ [c])).resultBy answer = (segmentation line).resultBy answer := by
  have grammar := segmentation_grammar line
  cases found : (segmentation line).broken? with
  | none =>
      have white : [c].all isBlank = true := by simp [blank]
      have nothing : LineGrammar [] ⟨[], none⟩ := .blank rfl
      have longer := grammar.append white (AtBoundary.cons_iff.mpr blank) found nothing
      rw [List.append_nil] at longer
      have same : (⟨[], none⟩ : Segmentation).precededBy (segmentation line).groups =
          segmentation line := by
        rw [Segmentation.precededBy, List.append_nil, ← found]
      rw [(segmentation_eq_iff _ _).mpr longer, same]
  | some broken =>
      have error : (segmentation line).error? = some broken.error := by simp [Segmentation.error?, found]
      have sameError : (segmentation (line ++ [c])).error? = some broken.error := by
        cases kind : broken.error with
        | invalid => exact segmentation_error?_invalid [c] (error.trans (congrArg some kind))
        | unterminated =>
            have longer := grammar.stays_unterminated blank found kind
            rw [(segmentation_eq_iff _ _).mpr longer]
            simp [Segmentation.error?, kind]
      simp only [Segmentation.resultBy, error, sameError]

namespace CommandLine

def consLine (c : Char) : List (List Char) → List (List Char)
  | [] => [[c]]
  | line :: later => (c :: line) :: later

theorem linesOf_cons (c : Char) (rest : List Char) :
    linesOf (c :: rest) =
      if c = '\n' then [] :: linesOf rest
      else if c = '\r' ∧ rest.head? = some '\n' then linesOf rest
      else consLine c (linesOf rest) := by
  by_cases isFeed : c = '\n'
  · subst isFeed
    rfl
  rw [if_neg isFeed]
  by_cases returned : c = '\r' ∧ rest.head? = some '\n'
  · obtain ⟨rfl, head⟩ := returned
    obtain ⟨later, rfl⟩ := List.head?_eq_some_iff.mp head
    rfl
  · rw [if_neg returned, linesOf]
    · cases linesOf rest <;> rfl
    · exact fun same => isFeed same
    · rintro later rfl rfl
      exact returned ⟨rfl, rfl⟩

theorem linesOf_ne_nil (c : Char) (rest : List Char) : linesOf (c :: rest) ≠ [] := by
  induction rest generalizing c with
  | nil =>
      rw [linesOf_cons]
      split
      · simp
      · simp [linesOf, consLine]
  | cons next rest ih =>
      rw [linesOf_cons]
      split
      · simp
      split
      · exact ih next
      · cases linesOf (next :: rest) <;> simp [consLine]

theorem consLine_append (c : Char) {lines : List (List Char)} (something : lines ≠ [])
    (more : List (List Char)) : consLine c (lines ++ more) = consLine c lines ++ more := by
  cases lines with
  | nil => exact absurd rfl something
  | cons line later => rfl

theorem linesOf_feed_ne_nil (text : List Char) : linesOf (text ++ ['\n']) ≠ [] := by
  cases text with
  | nil => simp [linesOf]
  | cons c rest => exact linesOf_ne_nil c _

theorem linesOf_append (first second : List Char) :
    linesOf (first ++ '\n' :: second) = linesOf (first ++ ['\n']) ++ linesOf second := by
  induction first with
  | nil => rfl
  | cons c rest ih =>
      have sameHead : (rest ++ '\n' :: second).head? = (rest ++ ['\n']).head? := by
        cases rest <;> rfl
      rw [List.cons_append, List.cons_append, linesOf_cons, linesOf_cons, sameHead, ih]
      split
      · rfl
      split
      · rfl
      · exact consLine_append c (linesOf_feed_ne_nil rest) _

theorem length_linesOf (text : List Char) :
    (linesOf (text ++ ['\n'])).length = text.count '\n' + 1 := by
  induction text with
  | nil => rfl
  | cons c rest ih =>
      rw [List.cons_append, linesOf_cons]
      split
      · rename_i isFeed
        rw [isFeed, List.length_cons, ih, List.count_cons_self]
      rename_i noFeed
      rw [List.count_cons_of_ne noFeed, ← ih]
      split
      · rfl
      · cases lines : linesOf (rest ++ ['\n']) with
        | nil => exact absurd lines (linesOf_feed_ne_nil rest)
        | cons line later => rfl

theorem linesOf_withReturns {text : List Char} (without : '\r' ∉ text) :
    linesOf (withReturns text) = linesOf text := by
  induction text with
  | nil => rfl
  | cons c rest ih =>
      obtain ⟨noReturn, others⟩ := not_or.mp (mt List.mem_cons.mpr without)
      rw [withReturns, List.flatMap_cons, ← withReturns, linesOf_cons c]
      by_cases isFeed : c = '\n'
      · rw [if_pos isFeed, if_pos isFeed]
        simp [linesOf, ih others]
      · have noPair : ¬(c = '\r' ∧ rest.head? = some '\n') := fun pair => noReturn pair.1.symm
        rw [if_neg isFeed, if_neg isFeed, if_neg noPair, List.singleton_append, linesOf_cons,
          if_neg isFeed, if_neg fun pair => noReturn pair.1.symm, ih others]

theorem linesOf_last {text : List Char} (something : text ≠ [])
    (unended : text.getLast? ≠ some '\n') :
    ∃ earlier last tail, linesOf (text ++ ['\n']) = earlier ++ [last] ∧
      linesOf text = earlier ++ [last ++ tail] ∧ (tail = [] ∨ tail = ['\r']) := by
  induction text with
  | nil => exact absurd rfl something
  | cons c rest ih =>
      cases rest with
      | nil =>
          have noFeed : c ≠ '\n' := fun isFeed => unended (congrArg some isFeed)
          by_cases isReturn : c = '\r'
          · subst isReturn
            exact ⟨[], [], ['\r'], rfl, rfl, .inr rfl⟩
          · refine ⟨[], [c], [], ?_, ?_, .inl rfl⟩
            · simp [linesOf_cons, noFeed, isReturn, linesOf, consLine]
            · simp [linesOf_cons, noFeed, linesOf, consLine]
      | cons next rest =>
          obtain ⟨earlier, last, tail, ended, lines, kept⟩ := ih (by simp) unended
          rw [List.cons_append, linesOf_cons, linesOf_cons c, ended, lines]
          by_cases isFeed : c = '\n'
          · rw [if_pos isFeed, if_pos isFeed]
            exact ⟨[] :: earlier, last, tail, rfl, rfl, kept⟩
          rw [if_neg isFeed, if_neg isFeed, List.cons_append, List.head?_cons, List.head?_cons]
          by_cases returned : c = '\r' ∧ some next = some '\n'
          · rw [if_pos returned, if_pos returned]
            exact ⟨earlier, last, tail, rfl, rfl, kept⟩
          rw [if_neg returned, if_neg returned]
          cases earlier with
          | nil => exact ⟨[], c :: last, tail, rfl, rfl, kept⟩
          | cons line earlier => exact ⟨(c :: line) :: earlier, last, tail, rfl, rfl, kept⟩

def Problem.raise (count : Nat) : Problem → Problem
  | .line input number error => .line input (number + count) error
  | .unreadable input failure => .unreadable input failure

namespace Report

def raise (count : Nat) (report : Report) : Report :=
  { report with problems := report.problems.map (Problem.raise count) }

theorem append_empty (report : Report) : report ++ empty = report := by
  obtain ⟨lines, problems⟩ := report
  change Report.mk (lines ++ []) (problems ++ []) = _
  rw [List.append_nil, List.append_nil]

theorem append_assoc (first second third : Report) :
    first ++ second ++ third = first ++ (second ++ third) := by
  change Report.mk (first.lines ++ second.lines ++ third.lines)
    (first.problems ++ second.problems ++ third.problems) = _
  rw [List.append_assoc, List.append_assoc]
  rfl

theorem raise_append (count : Nat) (first second : Report) :
    (first ++ second).raise count = first.raise count ++ second.raise count := by
  change Report.mk _ ((first.problems ++ second.problems).map _) = _
  rw [List.map_append]
  rfl

theorem raise_ofLine (input : Input) (count number : Nat) (result : Except LineError (List String)) :
    ofLine input (number + count) result = (ofLine input number result).raise count := by
  cases result <;> rfl

theorem output_append (first second : Report) :
    (first ++ second).output = first.output ++ second.output := by
  change String.join ((first.lines ++ second.lines).map _) = _
  rw [List.map_append, String.join_append]
  rfl

theorem errors_append (first second : Report) :
    (first ++ second).errors = first.errors ++ second.errors := by
  change String.join ((first.problems ++ second.problems).map _) = _
  rw [List.map_append, String.join_append]
  rfl

theorem exitCode_eq_zero_iff (report : Report) : report.exitCode = 0 ↔ report.problems = [] := by
  cases found : report.problems with
  | nil => simp [exitCode, found]
  | cons problem later => simp [exitCode, found]

end Report

variable {resolver : Resolver σ} {input : Input} {answer : Lookup → Resolution}

theorem splitLines_append (number : Nat) (first second : List String) (state : σ) :
    let before := splitLines resolver input number first state
    let behind := splitLines resolver input (number + first.length) second before.2
    splitLines resolver input number (first ++ second) state = (before.1 ++ behind.1, behind.2) := by
  intro before behind
  induction first generalizing number state with
  | nil => rfl
  | cons line later ih =>
      have next : number + (line :: later).length = number + 1 + later.length := by
        rw [List.length_cons]
        omega
      simp only [before, behind, List.cons_append, splitLines, ih, next, Report.append_assoc]

theorem splitLines_raise (count number : Nat) (texts : List String) (state : σ) :
    let lower := splitLines resolver input number texts state
    splitLines resolver input (number + count) texts state = (lower.1.raise count, lower.2) := by
  intro lower
  induction texts generalizing number state with
  | nil => rfl
  | cons line later ih =>
      have next : number + count + 1 = number + 1 + count := Nat.add_right_comm number count 1
      simp only [lower, splitLines, next, ih, Report.raise_append, Report.raise_ofLine]

theorem splitLines_stays (answers : resolver.AnswersBy answer) (number : Nat) (texts : List String)
    (state : σ) : (splitLines resolver input number texts state).2 = state := by
  induction texts generalizing number state with
  | nil => rfl
  | cons line later ih => rw [splitLines, answers.split_state, ih]

theorem splitLines_blank (answers : resolver.AnswersBy answer) {c : Char} (blank : isBlank c = true)
    (number : Nat) (line : List Char) (state : σ) :
    splitLines resolver input number [String.ofList (line ++ [c])] state =
      splitLines resolver input number [String.ofList line] state := by
  simp only [splitLines, answers.split_state, answers.split_result, String.toList_ofList,
    resultBy_blank blank]

theorem splitLines_cut (answers : resolver.AnswersBy answer) {first second : String}
    (ends : first = "" ∨ first.toList.getLast? = some '\n') (state : σ) :
    (splitLines resolver input 1 (lines (first ++ second)) state).1 =
      (splitLines resolver input 1 (lines first) state).1 ++
        (splitLines resolver input 1 (lines second) state).1.raise (first.toList.count '\n') := by
  have cut : lines (first ++ second) = lines first ++ lines second ∧
      (lines first).length = first.toList.count '\n' := by
    rcases ends with rfl | last
    · exact ⟨by rw [String.empty_append]; rfl, rfl⟩
    · obtain ⟨start, whole⟩ := List.getLast?_eq_some_iff.mp last
      constructor
      · rw [lines, String.toList_append, whole, List.append_assoc, List.singleton_append,
          linesOf_append, ← whole, List.map_append]
        rfl
      · rw [lines, List.length_map, whole, length_linesOf, List.count_append]
        rfl
  rw [cut.1, splitLines_append, splitLines_stays answers, splitLines_raise (lines first).length 1, cut.2]

theorem splitLines_ended (answers : resolver.AnswersBy answer) {text : String}
    (something : text ≠ "") (unended : text.toList.getLast? ≠ some '\n') (state : σ) :
    splitLines resolver input 1 (lines (text ++ "\n")) state =
      splitLines resolver input 1 (lines text) state := by
  have some : text.toList ≠ [] := fun nothing => something (String.toList_eq_nil_iff.mp nothing)
  obtain ⟨earlier, last, tail, ended, same, kept⟩ := linesOf_last some unended
  have feed : (text ++ "\n").toList = text.toList ++ ['\n'] := String.toList_append
  rw [lines, lines, feed, ended, same, List.map_append, List.map_append, splitLines_append,
    splitLines_append]
  rcases kept with rfl | rfl
  · rw [List.append_nil]
  · rw [List.map_singleton, List.map_singleton, splitLines_blank answers (by decide)]

def holding (content : ByteArray) (programs : ProgramRunner σ) : Surroundings σ where
  read _ state := (.ok content, state)
  run := programs

def reportOn (resolver : Resolver σ) (input : Input) (programs : ProgramRunner σ) (state : σ)
    (content : ByteArray) : Report :=
  (splitInput (holding content programs) resolver input state).1

section

variable {programs : ProgramRunner σ} {state : σ} {first second content : ByteArray}

theorem reportOn_text (text : String) :
    reportOn resolver input programs state text.toUTF8 =
      (splitLines resolver input 1 (lines text) state).1 := by
  have decoded := (fromUTF8?_eq_some_iff text.toUTF8 text).mpr rfl
  simp only [reportOn, splitInput, Surroundings.readText, holding, decoded]

theorem reportOn_noText (noText : ¬IsText content) :
    reportOn resolver input programs state content = ⟨[], [.unreadable input .notUtf8]⟩ := by
  have refused := (fromUTF8?_eq_none_iff content).mpr fun text same => noText ⟨text, same⟩
  simp only [reportOn, splitInput, Surroundings.readText, holding, refused]

theorem reportOn_append (answers : resolver.AnswersBy answer) (ends : EndsLine first)
    (whole : IsText (first ++ second)) :
    reportOn resolver input programs state (first ++ second) =
      reportOn resolver input programs state first ++
        (reportOn resolver input programs state second).raise (first.data.toList.count lineFeed) := by
  obtain ⟨⟨before, rfl⟩, ⟨behind, rfl⟩⟩ := (isText_append_iff ends).mp whole
  rw [← toUTF8_append, reportOn_text, reportOn_text, reportOn_text, count_lineFeed]
  exact splitLines_cut answers ((endsLine_toUTF8_iff before).mp ends) state

theorem reportOn_append_problems (answers : resolver.AnswersBy answer) (ends : EndsLine first) :
    (reportOn resolver input programs state (first ++ second)).problems = [] ↔
      (reportOn resolver input programs state first).problems = [] ∧
        (reportOn resolver input programs state second).problems = [] := by
  by_cases whole : IsText (first ++ second)
  · rw [reportOn_append answers ends whole]
    change _ ++ List.map _ _ = [] ↔ _
    rw [List.append_eq_nil_iff, List.map_eq_nil_iff]
  · have problem {content : ByteArray} (noText : ¬IsText content) :
        (reportOn resolver input programs state content).problems ≠ [] := by
      simp [reportOn_noText noText]
    refine iff_of_false (problem whole) ?_
    rintro ⟨noneFirst, noneSecond⟩
    rw [isText_append_iff ends, not_and_or] at whole
    rcases whole with noText | noText
    · exact problem noText noneFirst
    · exact problem noText noneSecond

theorem reportOn_withCarriageReturns (without : carriageReturn ∉ content.data.toList) :
    reportOn resolver input programs state (withCarriageReturns content) =
      reportOn resolver input programs state content := by
  by_cases isText : IsText content
  · obtain ⟨text, rfl⟩ := isText
    rw [mem_carriageReturn_iff] at without
    have sameLines : lines (String.ofList (withReturns text.toList)) = lines text := by
      rw [lines, String.toList_ofList, linesOf_withReturns without, lines]
    rw [← toUTF8_withReturns, reportOn_text, reportOn_text, sameLines]
  · have noText := mt (isText_withCarriageReturns_iff without).mp isText
    rw [reportOn_noText isText, reportOn_noText noText]

theorem reportOn_push (answers : resolver.AnswersBy answer) (unended : ¬EndsLine content) :
    reportOn resolver input programs state (content.push lineFeed) =
      reportOn resolver input programs state content := by
  by_cases isText : IsText content
  · obtain ⟨text, rfl⟩ := isText
    rw [endsLine_toUTF8_iff, not_or] at unended
    rw [← toUTF8_push, reportOn_text, reportOn_text,
      splitLines_ended answers unended.1 unended.2]
  · have noText := mt (isText_push_iff content).mp isText
    rw [reportOn_noText isText, reportOn_noText noText]

end

theorem run_single {arguments : List String} {options : Options}
    (parsed : Options.parse arguments = .ok options) (single : options.inputs = [input])
    (programs : ProgramRunner σ) (state : σ) (content : ByteArray) :
    (run (holding content programs) arguments state).1 =
      (reportOn (options.resolver programs) input programs state content).outcome := by
  simp only [run, parsed, single, splitInputs, Report.append_empty]
  rfl

/-- One input without execution. If the first of two contents is empty or ends in a line feed, both
together are split without a failure exactly if each of them is. Together they print what the first
prints and then what the second prints, and the entries of the second have their line numbers raised
by the line feeds in the first, unless they are no text: then nothing is split, and one of the two is
no text. Carriage returns before all line feeds of a content that has none, and a line feed at the end
of a content that lacks it, change nothing. -/
theorem line_ends {arguments : List String} {options : Options}
    (parsed : Options.parse arguments = .ok options) (disabled : options.executes = false)
    (single : options.inputs = [input]) (programs : ProgramRunner σ) (state : σ) :
    let report := reportOn (options.resolver programs) input programs state
    let printed (content : ByteArray) : Outcome :=
      (run (holding content programs) arguments state).1
    (∀ content, printed content = (report content).outcome) ∧
    (∀ first second, EndsLine first →
      ((printed (first ++ second)).exitCode = 0 ↔
        (printed first).exitCode = 0 ∧ (printed second).exitCode = 0) ∧
      (IsText (first ++ second) →
        let raised := (report second).raise (first.data.toList.count lineFeed)
        report (first ++ second) = report first ++ raised ∧
        (printed (first ++ second)).output = (printed first).output ++ (printed second).output ∧
        (printed (first ++ second)).errors = (printed first).errors ++ raised.errors) ∧
      (¬IsText (first ++ second) →
        report (first ++ second) = ⟨[], [.unreadable input .notUtf8]⟩ ∧
        (¬IsText first ∨ ¬IsText second))) ∧
    (∀ content, carriageReturn ∉ content.data.toList →
      printed (withCarriageReturns content) = printed content) ∧
    ∀ content, ¬EndsLine content → printed (content.push lineFeed) = printed content := by
  intro report printed
  have answers : (options.resolver programs).AnswersBy _ :=
    VariableResolver.answersBy _ programs disabled
  have prints (content : ByteArray) : printed content = (report content).outcome :=
    run_single parsed single programs state content
  have succeeds (content : ByteArray) :
      (printed content).exitCode = 0 ↔ (report content).problems = [] := by
    rw [prints]
    exact (report content).exitCode_eq_zero_iff
  refine ⟨prints, ?_, ?_, ?_⟩
  · intro first second ends
    refine ⟨?_, ?_, ?_⟩
    · rw [succeeds, succeeds, succeeds]
      exact reportOn_append_problems answers ends
    · intro whole raised
      have together : report (first ++ second) = report first ++ raised :=
        reportOn_append answers ends whole
      refine ⟨together, ?_, ?_⟩
      · rw [prints, prints, prints, together]
        exact (report first).output_append raised
      · rw [prints, prints, together]
        exact (report first).errors_append raised
    · intro noText
      exact ⟨reportOn_noText noText, not_and_or.mp (mt (isText_append_iff ends).mpr noText)⟩
  · intro content without
    rw [prints, prints]
    exact congrArg Report.outcome (reportOn_withCarriageReturns without)
  · intro content unended
    rw [prints, prints]
    exact congrArg Report.outcome (reportOn_push answers unended)

/-- A line is printed apart from a byte that is no text, and not in front of it. -/
theorem output_append_fails :
    let programs : ProgramRunner Unit := fun _ state => (.ok ⟨.exited 0, .empty⟩, state)
    let output (content : ByteArray) : String := (run (holding content programs) [] ()).1.output
    ¬∀ first second, EndsLine first → output (first ++ second) = output first ++ output second := by
  intro programs output apart
  have ends : EndsLine "a\n".toUTF8 := .inr rfl
  have together : output ("a\n".toUTF8 ++ ⟨#[0xff]⟩) = "" := by decide +kernel
  have line : output "a\n".toUTF8 = "a\n" := by decide +kernel
  have nothing : output ⟨#[0xff]⟩ = "" := by decide +kernel
  have same := apart "a\n".toUTF8 ⟨#[0xff]⟩ ends
  rw [together, line, nothing] at same
  exact absurd same (by decide)

theorem line_ends_open_quotes :
    let programs : ProgramRunner Unit := fun _ state => (.ok ⟨.exited 0, .empty⟩, state)
    let printed (content : ByteArray) : Outcome :=
      (run (holding content programs) ["-v", "n=x y", "a"] ()).1
    let first := "p :n\r\n'open\n".toUTF8
    let second := "`c\nd\r".toUTF8
    EndsLine first ∧ ¬EndsLine second ∧ IsText (first ++ second) ∧
    (printed (first ++ second)).exitCode ≠ 0 ∧
    (printed (first ++ second)).output = "p\tx y\nd\n" ∧
    (printed (first ++ second)).errors =
      "a:2: unterminated quoted string\na:3: unterminated quoted string\n" ∧
    printed (second.push lineFeed) = printed second := by
  intro programs printed first second
  let store := (Store.empty.set "n" "x y").2
  have parsed : Options.parse ["-v", "n=x y", "a"] = .ok ⟨store, false, ["a"]⟩ := rfl
  have ends : EndsLine first := .inr rfl
  have unended : ¬EndsLine second := by
    rw [endsLine_toUTF8_iff]
    decide
  have text : IsText (first ++ second) := ⟨_, toUTF8_append _ _⟩
  obtain ⟨_, cut, _, ended⟩ := line_ends parsed rfl rfl programs ()
  obtain ⟨succeeds, together, _⟩ := cut first second ends
  obtain ⟨_, output, errors⟩ := together text
  refine ⟨ends, unended, text, ?_, ?_, ?_, ended second unended⟩
  · intro success
    have failed : (printed first).exitCode ≠ 0 := by decide +kernel
    exact failed (succeeds.mp success).1
  · have outputs : (printed first).output ++ (printed second).output = "p\tx y\nd\n" := by
      decide +kernel
    exact output.trans outputs
  · refine errors.trans ?_
    decide +kernel

end CommandLine

end StatementLine
