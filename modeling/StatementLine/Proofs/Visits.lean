import StatementLine.CommandLine.Run
import StatementLine.Proofs.Answering

/-!
What the command line prints. `run_eq_visits` says that it visits the inputs in turn and splits the
lines of each in turn, that every line which is split is printed, and that every line or input which
fails gets an entry of its own and decides the exit code. Without execution, each line comes to what
it comes to alone.
-/

universe u

namespace StatementLine.CommandLine

variable {σ : Type u} {α β γ : Type}

def inTurn (step : α → σ → β × σ) : List α → σ → List β × σ
  | [], state => ([], state)
  | element :: later, state =>
      let (result, after) := step element state
      let (results, left) := inTurn step later after
      (result :: results, left)

section

variable {step : α → σ → β × σ}

theorem inTurn_results {result : α → β}
    (fixed : ∀ element before, (step element before).1 = result element)
    (elements : List α) (state : σ) : (inTurn step elements state).1 = elements.map result := by
  induction elements generalizing state with
  | nil => rfl
  | cons element later ih => simp only [inTurn, fixed, ih, List.map_cons]

theorem inTurn_stays (stays : ∀ element before, (step element before).2 = before)
    (elements : List α) (state : σ) : (inTurn step elements state).2 = state := by
  induction elements generalizing state with
  | nil => rfl
  | cons element later ih => simp only [inTurn, stays, ih]

theorem inTurn_zipWith (change : α → β → γ) (elements : List α) (state : σ) :
    inTurn (fun element before => (change element (step element before).1, (step element before).2))
        elements state =
      (List.zipWith change elements (inTurn step elements state).1, (inTurn step elements state).2) := by
  induction elements generalizing state with
  | nil => rfl
  | cons element later ih => simp only [inTurn, ih, List.zipWith_cons_cons]

end

/-- An input, and what its lines come to if it can be read. -/
structure Visit where
  input : Input
  results : Except ReadFailure (List (Except LineError (List String)))

def splitLine (resolver : Resolver σ) (line : String) (state : σ) :
    Except LineError (List String) × σ :=
  ((split resolver line state).result, (split resolver line state).state)

def visit (surroundings : Surroundings σ) (resolver : Resolver σ) (input : Input) (state : σ) :
    Visit × σ :=
  match surroundings.readText input state with
  | (.error failure, after) => (⟨input, .error failure⟩, after)
  | (.ok text, after) =>
      let (results, left) := inTurn (splitLine resolver) (lines text) after
      (⟨input, .ok results⟩, left)

def printedLine : Except LineError (List String) → List String
  | .ok tokens => [String.intercalate "\t" tokens ++ "\n"]
  | .error _ => []

def lineEntry (input : Input) : Except LineError (List String) × Nat → List String
  | (.ok _, _) => []
  | (.error error, number) =>
      [input.name ++ ":" ++ toString number ++ ": " ++ error.message ++ "\n"]

namespace Visit

def printed (visit : Visit) : List String :=
  match visit.results with
  | .error _ => []
  | .ok results => results.flatMap printedLine

def entries (visit : Visit) : List String :=
  match visit.results with
  | .error failure => [visit.input.name ++ ": " ++ failure.message ++ "\n"]
  | .ok results => (results.zipIdx 1).flatMap (lineEntry visit.input)

def alone (resolver : Resolver σ) (state : σ) (input : Input) (content : Except ReadFailure String) :
    Visit :=
  ⟨input, content.map fun text => (lines text).map fun line => (split resolver line state).result⟩

end Visit

structure Report.Prints (report : Report) (printed entries : List String) : Prop where
  lines : report.lines.map (fun tokens => String.intercalate "\t" tokens ++ "\n") = printed
  problems : report.problems.map Problem.text = entries

namespace Report.Prints

variable {report later : Report} {printed entries laterPrinted laterEntries : List String}

theorem ofLine (input : Input) (number : Nat) (result : Except LineError (List String)) :
    (Report.ofLine input number result).Prints (printedLine result)
      (lineEntry input (result, number)) := by
  cases result with
  | ok tokens => exact ⟨rfl, rfl⟩
  | error error => exact ⟨rfl, rfl⟩

theorem append (prints : report.Prints printed entries)
    (laterPrints : later.Prints laterPrinted laterEntries) :
    (report ++ later).Prints (printed ++ laterPrinted) (entries ++ laterEntries) where
  lines := by rw [← prints.lines, ← laterPrints.lines, ← List.map_append]; rfl
  problems := by rw [← prints.problems, ← laterPrints.problems, ← List.map_append]; rfl

theorem outcome (prints : report.Prints printed entries) :
    report.outcome =
      ⟨if entries = [] then 0 else 1, String.join printed, String.join entries⟩ := by
  obtain ⟨rfl, rfl⟩ := prints
  simp only [Report.outcome, Report.output, Report.errors, exitCode, List.map_eq_nil_iff,
    List.isEmpty_iff]

end Report.Prints

theorem splitLines_prints (resolver : Resolver σ) (input : Input) (number : Nat)
    (texts : List String) (state : σ) :
    let results := inTurn (splitLine resolver) texts state
    let reported := splitLines resolver input number texts state
    reported.1.Prints (results.1.flatMap printedLine)
        ((results.1.zipIdx number).flatMap (lineEntry input)) ∧
      reported.2 = results.2 := by
  intro results reported
  induction texts generalizing number state with
  | nil => exact ⟨⟨rfl, rfl⟩, rfl⟩
  | cons line later ih =>
      obtain ⟨prints, left⟩ := ih (number + 1) (split resolver line state).state
      -- The number goes up with every line, and so it does with every result.
      simp only [reported, results, splitLines, inTurn, splitLine, List.zipIdx_cons,
        List.flatMap_cons]
      exact ⟨(Report.Prints.ofLine input number _).append prints, left⟩

theorem splitInput_prints (surroundings : Surroundings σ) (resolver : Resolver σ) (input : Input)
    (state : σ) :
    let visited := visit surroundings resolver input state
    let reported := splitInput surroundings resolver input state
    reported.1.Prints visited.1.printed visited.1.entries ∧ reported.2 = visited.2 := by
  intro visited reported
  simp only [visited, reported, visit, splitInput]
  rcases surroundings.readText input state with ⟨failure | text, after⟩
  · exact ⟨⟨rfl, rfl⟩, rfl⟩
  · exact splitLines_prints resolver input 1 (lines text) after

theorem splitInputs_prints (surroundings : Surroundings σ) (resolver : Resolver σ)
    (inputs : List Input) (state : σ) :
    let visits := inTurn (visit surroundings resolver) inputs state
    let reported := splitInputs surroundings resolver inputs state
    reported.1.Prints (visits.1.flatMap Visit.printed) (visits.1.flatMap Visit.entries) ∧
      reported.2 = visits.2 := by
  intro visits reported
  induction inputs generalizing state with
  | nil => exact ⟨⟨rfl, rfl⟩, rfl⟩
  | cons input later ih =>
      obtain ⟨prints, left⟩ := splitInput_prints surroundings resolver input state
      obtain ⟨laterPrints, laterLeft⟩ := ih (splitInput surroundings resolver input state).2
      rw [left] at laterPrints laterLeft
      simp only [visits, reported, splitInputs, inTurn, List.flatMap_cons, left]
      exact ⟨prints.append laterPrints, laterLeft⟩

section

variable {resolver : Resolver σ} {answer : Lookup → Resolution} (surroundings : Surroundings σ)

theorem inTurn_splitLine (answers : resolver.AnswersBy answer) (texts : List String)
    (start state : σ) :
    inTurn (splitLine resolver) texts state =
      (texts.map fun line => (split resolver line start).result, state) := by
  apply Prod.ext
  · apply inTurn_results
    intro line before
    exact (answers.split_result line before).trans (answers.split_result line start).symm
  · exact inTurn_stays answers.split_state texts state

theorem visit_eq_alone (answers : resolver.AnswersBy answer) (start : σ) :
    visit surroundings resolver = fun input before =>
      (Visit.alone resolver start input (surroundings.readText input before).1,
        (surroundings.readText input before).2) := by
  funext input before
  simp only [visit, Visit.alone]
  rcases surroundings.readText input before with ⟨failure | text, after⟩
  · rfl
  · simp only [inTurn_splitLine answers _ start, Except.map]

theorem inTurn_visit (answers : resolver.AnswersBy answer) (inputs : List Input) (state : σ) :
    (inTurn (visit surroundings resolver) inputs state).1 =
      List.zipWith (Visit.alone resolver state) inputs
        (inTurn surroundings.readText inputs state).1 := by
  rw [visit_eq_alone surroundings answers state, inTurn_zipWith]

end

/-- The inputs are visited in turn, and the lines of each are split in turn with one store. Every line
that is split is printed, with tabs between its tokens. Every line that fails gets an entry with its
number, counted from one in its own input, and every input that cannot be read gets one too. The exit
code is one if there is an entry. With execution off, every line comes to what it comes to alone, so
that an input is visited as its own content says. -/
theorem run_eq_visits (surroundings : Surroundings σ) {arguments : List String} {options : Options}
    (parsed : Options.parse arguments = .ok options) (state : σ) :
    let resolver := options.resolver surroundings.run
    let visited := inTurn (visit surroundings resolver) options.inputs state
    let visits := visited.1
    let entries := visits.flatMap Visit.entries
    options.inputs =
        (if options.files = [] then [.standardInput] else options.files.map .file) ∧
    run surroundings arguments state =
        (⟨if entries = [] then 0 else 1, String.join (visits.flatMap Visit.printed),
          String.join entries⟩, visited.2) ∧
    (options.executes = false →
      visits = List.zipWith (Visit.alone resolver state) options.inputs
        (inTurn surroundings.readText options.inputs state).1) ∧
    ∀ contents : Input → Except ReadFailure String, options.executes = false →
      (∀ input before, (surroundings.readText input before).1 = contents input) →
        visits = options.inputs.map fun input =>
          Visit.alone resolver state input (contents input) := by
  intro resolver visited visits entries
  have apart (disabled : options.executes = false) :
      visits = List.zipWith (Visit.alone resolver state) options.inputs
        (inTurn surroundings.readText options.inputs state).1 :=
    inTurn_visit surroundings (VariableResolver.answersBy _ surroundings.run disabled) _ state
  refine ⟨?_, ?_, apart, ?_⟩
  · unfold Options.inputs
    cases options.files with
    | nil => rfl
    | cons path later => rfl
  · obtain ⟨prints, left⟩ := splitInputs_prints surroundings resolver options.inputs state
    simp only [run, parsed]
    rw [prints.outcome, left]
  · intro contents disabled fixed
    rw [apart disabled, inTurn_results fixed, List.zipWith_map_right, List.zipWith_self]

/-- A file of six lines with an open quote in the second, one that is not UTF-8, and no others. -/
def twoFiles : Input → Except ReadFailure ByteArray
  | .file "a" => .ok ":n `c`\r\n'open\n\n\"q r\" :m\n`k`\n`e`".toUTF8
  | .file "b" => .ok ⟨#[0xff]⟩
  | .file _ => .error (.file .notFound)
  | .standardInput => .ok .empty

def besideTwoFiles : Surroundings Nat where
  read input count := (twoFiles input, count)
  run invocation count :=
    let status := match invocation.command with
      | "k" => .killed ⟨9, by decide⟩ false
      | "e" => .exited 3
      | _ => .exited 0
    (.ok ⟨status, "out\n".toUTF8⟩, count + 1)

theorem run_eq_visits_two_files :
    run besideTwoFiles ["a", "-v", "n=x y", "b", "--exec", "c"] 0 =
      (⟨1, "x y\tout\n\nq r\t:m\n",
        "a:2: unterminated quoted string\n" ++
          "a:5: `k` failed: signal: 9 (SIGKILL)\n" ++
          "a:6: `e` failed: exit status: 3\n" ++
          "b: stream did not contain valid UTF-8\n" ++
          "c: No such file or directory (os error 2)\n"⟩, 3) ∧
    run besideTwoFiles ["a", "-v", "n=x y"] 0 =
      (⟨1, "x y\tc\n\nq r\t:m\nk\ne\n", "a:2: unterminated quoted string\n"⟩, 0) := by
  let store := (Store.empty.set "n" "x y").2
  have executing : Options.parse ["a", "-v", "n=x y", "b", "--exec", "c"] =
      .ok ⟨store, true, ["a", "b", "c"]⟩ := rfl
  have apart : Options.parse ["a", "-v", "n=x y"] = .ok ⟨store, false, ["a"]⟩ := rfl
  constructor
  · rw [(run_eq_visits besideTwoFiles executing 0).2.1]
    decide +kernel
  · have fixed : ∀ input before,
        (besideTwoFiles.readText input before).1 = (besideTwoFiles.readText input 0).1 := by
      intro input before
      simp only [Surroundings.readText, besideTwoFiles]
      cases twoFiles input with
      | error failure => rfl
      | ok bytes => cases decoded : String.fromUTF8? bytes <;> simp only [decoded]
    obtain ⟨_, whole, _, visits⟩ := run_eq_visits besideTwoFiles apart 0
    rw [whole, visits _ rfl fixed]
    decide +kernel

end StatementLine.CommandLine
