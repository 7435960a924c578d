import StatementLine.CommandLine.Run
import StatementLine.Proofs.Seam

/-!
What the arguments of a command line decide. `arguments_decide_run` says that the first one at fault
decides by itself, and that with none at fault a run depends on nothing but the files in their order,
on whether commands are executed, and on the last value that each name is given.
-/

universe u

namespace StatementLine.CommandLine

inductive Argument where
  | help (option : String)
  | execution
  | assignment (option text : String)
  | unfinished (option : String)
  | file (path : String)
deriving Repr, DecidableEq

def readArguments : List String → List Argument
  | [] => []
  | argument :: rest =>
      if argument = "-h" ∨ argument = "--help" then .help argument :: readArguments rest
      else if argument = "--exec" then .execution :: readArguments rest
      else if argument = "-v" ∨ argument = "--set" then
        match rest with
        | [] => [.unfinished argument]
        | text :: later => .assignment argument text :: readArguments later
      else .file argument :: readArguments rest

namespace Argument

def written : Argument → List String
  | help option => [option]
  | execution => ["--exec"]
  | assignment option text => [option, text]
  | unfinished option => [option]
  | file path => [path]

/-- What is wrong with an argument, whatever the others are. -/
inductive Faulty : Argument → UsageError → Prop
  | help {option} : Faulty (.help option) .help
  | unfinished {option} : Faulty (.unfinished option) (.missingAssignment option)
  | notAssignment {option text} : '=' ∉ text.toList →
      Faulty (.assignment option text) (.notAssignment text)
  | invalidName {option name value} : '=' ∉ name.toList → isIdentifier name = false →
      Faulty (.assignment option (name ++ "=" ++ value)) (.invalidName name)

def Proper : Argument → Prop
  | help option => option = "-h" ∨ option = "--help"
  | execution => True
  | assignment option _ => option = "-v" ∨ option = "--set"
  | unfinished _ => False
  | file path => path ∉ ["-h", "--help", "--exec", "-v", "--set"]

def file? : Argument → Option String
  | help _ => none
  | execution => none
  | assignment _ _ => none
  | unfinished _ => none
  | file path => some path

def valueFor? (name : String) : Argument → Option String
  | help _ => none
  | execution => none
  | assignment _ text =>
      if (name ++ "=").toList.isPrefixOf text.toList then
        some (String.ofList (text.toList.drop (name ++ "=").length))
      else none
  | unfinished _ => none
  | file _ => none

end Argument

def filesOf (items : List Argument) : List String :=
  items.filterMap Argument.file?

def valuesOf (name : String) (items : List Argument) : List String :=
  items.filterMap (Argument.valueFor? name)

def Faultless (items : List Argument) : Prop :=
  ∀ item ∈ items, ∀ error, ¬item.Faulty error

theorem identifier_noEquals {name : String} (identifier : isIdentifier name = true) :
    '=' ∉ name.toList := by
  intro member
  have goesOn := Reference.accepts_isContinue identifier '=' member
  revert goesOn
  decide

theorem text_cases (text : String) :
    '=' ∉ text.toList ∨ ∃ name value, text = name ++ "=" ++ value ∧ '=' ∉ name.toList := by
  by_cases member : '=' ∈ text.toList
  · obtain ⟨name, value, whole, first⟩ := List.eq_append_cons_of_mem member
    refine .inr ⟨String.ofList name, String.ofList value, ?_, by simpa using first⟩
    apply String.toList_injective
    simpa using whole
  · exact .inl member

theorem noEquals_all {text : List Char} (absent : '=' ∉ text) : text.all (· ≠ '=') = true := by
  rw [List.all_eq_true]
  intro c member
  simpa using fun same : c = '=' => absent (same ▸ member)

theorem parseAssignment_without {text : String} (absent : '=' ∉ text.toList) :
    parseAssignment text = .error (.notAssignment text) := by
  have nothing : text.toList.dropWhile (· ≠ '=') = [] := by
    rw [← List.append_nil text.toList]
    exact (RunEnds.nil _).dropWhile_append _ (noEquals_all absent)
  simp only [parseAssignment, nothing]

theorem parseAssignment_cut {name : String} (value : String) (absent : '=' ∉ name.toList) :
    parseAssignment (name ++ "=" ++ value) =
      if isIdentifier name then .ok (name, value) else .error (.invalidName name) := by
  have ends : RunEnds (· ≠ '=') ('=' :: value.toList) := RunEnds.cons_iff.mpr (by decide)
  have whole : (name ++ "=" ++ value).toList = name.toList ++ '=' :: value.toList := by simp
  simp only [parseAssignment, whole, ends.dropWhile_append _ (noEquals_all absent),
    ends.takeWhile_append _ (noEquals_all absent), String.ofList_toList]

namespace Argument

def fault? : Argument → Option UsageError
  | help _ => some .help
  | execution => none
  | assignment _ text =>
      match parseAssignment text with
      | .error error => some error
      | .ok _ => none
  | unfinished option => some (.missingAssignment option)
  | file _ => none

theorem fault?_eq_some_iff (argument : Argument) (error : UsageError) :
    argument.fault? = some error ↔ argument.Faulty error := by
  constructor
  · intro found
    cases argument with
    | help => cases found; exact .help
    | execution => cases found
    | unfinished => cases found; exact .unfinished
    | file => cases found
    | assignment option text =>
        rcases text_cases text with absent | ⟨name, value, rfl, absent⟩
        · simp only [fault?, parseAssignment_without absent] at found
          cases found
          exact .notAssignment absent
        · simp only [fault?, parseAssignment_cut value absent] at found
          cases identifier : isIdentifier name with
          | true => simp [identifier] at found
          | false =>
              simp only [identifier, Bool.false_eq_true, if_false] at found
              cases found
              exact .invalidName absent identifier
  · intro faulty
    cases faulty with
    | help => rfl
    | unfinished => rfl
    | notAssignment absent => simp only [fault?, parseAssignment_without absent]
    | invalidName absent noIdentifier =>
        simp only [fault?, parseAssignment_cut _ absent, noIdentifier, Bool.false_eq_true, if_false]

theorem fault?_eq_none_iff (argument : Argument) :
    argument.fault? = none ↔ ∀ error, ¬argument.Faulty error := by
  simp only [← fault?_eq_some_iff, Option.eq_none_iff_forall_ne_some, ne_eq]

def apply (options : Options) : Argument → Options
  | help _ => options
  | execution => { options with executes := true }
  | assignment _ text =>
      match parseAssignment text with
      | .error _ => options
      | .ok (name, value) => options.define name value
  | unfinished _ => options
  | file path => options.addFile path

end Argument

theorem faultless_iff (items : List Argument) :
    Faultless items ↔ items.findSome? Argument.fault? = none := by
  simp only [Faultless, List.findSome?_eq_none_iff, Argument.fault?_eq_none_iff]

theorem addArguments_eq (options : Options) (arguments : List String) :
    options.addArguments arguments =
      match (readArguments arguments).findSome? Argument.fault? with
      | some error => .error error
      | none => .ok ((readArguments arguments).foldl Argument.apply options) := by
  fun_induction readArguments arguments generalizing options with
  | case1 => rfl
  | case2 argument rest isHelp =>
      rw [Options.addArguments.eq_def]
      simp [isHelp, List.findSome?_cons, Argument.fault?]
  | case3 rest _ ih =>
      rw [Options.addArguments.eq_def]
      simp [ih, List.findSome?_cons, Argument.fault?, Argument.apply]
  | case4 argument noHelp noExecution takes =>
      simp [Options.addArguments, noHelp, noExecution, takes, Argument.fault?]
  | case5 argument noHelp noExecution takes text later ih =>
      simp only [Options.addArguments, noHelp, noExecution, takes, if_false, if_true,
        List.findSome?_cons, List.foldl_cons, Argument.fault?, Argument.apply]
      cases parseAssignment text with
      | error error => rfl
      | ok pair => exact ih (options.define pair.1 pair.2)
  | case6 argument rest noHelp noExecution takesNothing ih =>
      rw [Options.addArguments.eq_def]
      simp [noHelp, noExecution, takesNothing, ih, List.findSome?_cons, Argument.fault?,
        Argument.apply]

theorem parse_eq (arguments : List String) :
    Options.parse arguments =
      match (readArguments arguments).findSome? Argument.fault? with
      | some error => .error error
      | none => .ok ((readArguments arguments).foldl Argument.apply {}) :=
  addArguments_eq {} arguments

theorem parse_faultless {arguments : List String} (sound : Faultless (readArguments arguments)) :
    Options.parse arguments = .ok ((readArguments arguments).foldl Argument.apply {}) := by
  rw [parse_eq, (faultless_iff _).mp sound]

namespace Argument

theorem valueFor?_eq_some_iff (name option text value : String) :
    (assignment option text).valueFor? name = some value ↔ text = name ++ "=" ++ value := by
  simp only [valueFor?]
  constructor
  · intro found
    split at found
    · rename_i starts
      obtain ⟨rest, whole⟩ := List.isPrefixOf_iff_prefix.mp starts
      have cut : text.toList.drop (name ++ "=").length = rest := by
        rw [← whole, ← String.length_toList, List.drop_left]
      rw [cut] at found
      cases found
      apply String.toList_injective
      simp [← whole]
    · cases found
  · rintro rfl
    have whole : (name ++ "=" ++ value).toList = (name ++ "=").toList ++ value.toList :=
      String.toList_append
    have starts : (name ++ "=").toList.isPrefixOf (name ++ "=" ++ value).toList = true := by
      rw [List.isPrefixOf_iff_prefix, whole]
      exact List.prefix_append _ _
    rw [if_pos starts, whole, ← String.length_toList, List.drop_left, String.ofList_toList]

theorem exists_binding {option text : String}
    (sound : ∀ error, ¬(assignment option text).Faulty error) :
    ∃ name value, text = name ++ "=" ++ value ∧ isIdentifier name = true := by
  rcases text_cases text with absent | ⟨name, value, rfl, absent⟩
  · exact absurd (.notAssignment absent) (sound _)
  · refine ⟨name, value, rfl, ?_⟩
    cases identifier : isIdentifier name with
    | true => rfl
    | false => exact absurd (.invalidName absent identifier) (sound _)

theorem binding_sound (option value : String) {name : String}
    (identifier : isIdentifier name = true) :
    ∀ error, ¬(assignment option (name ++ "=" ++ value)).Faulty error := by
  rw [← fault?_eq_none_iff]
  simp only [fault?, parseAssignment_cut value (identifier_noEquals identifier), identifier, if_true]

theorem apply_binding (options : Options) (option value : String) {name : String}
    (identifier : isIdentifier name = true) :
    apply options (assignment option (name ++ "=" ++ value)) = options.define name value := by
  simp only [apply, parseAssignment_cut value (identifier_noEquals identifier), identifier, if_true]

theorem valueFor?_binding (option value : String) {name other : String}
    (identifier : isIdentifier name = true) (otherIdentifier : isIdentifier other = true) :
    (assignment option (name ++ "=" ++ value)).valueFor? other =
      if name = other then some value else none := by
  split
  · rename_i same
    rw [valueFor?_eq_some_iff, same]
  · rename_i different
    rw [Option.eq_none_iff_forall_ne_some]
    intro otherValue found
    -- An assignment is cut at its first equals sign, so it cannot begin with two names.
    have cut := parseAssignment_cut value (identifier_noEquals identifier)
    rw [(valueFor?_eq_some_iff other option _ otherValue).mp found,
      parseAssignment_cut otherValue (identifier_noEquals otherIdentifier)] at cut
    simp only [identifier, otherIdentifier, if_true, Except.ok.injEq, Prod.mk.injEq] at cut
    exact different cut.1.symm

end Argument

theorem foldl_apply_files (items : List Argument) (options : Options) :
    (items.foldl Argument.apply options).files = options.files ++ filesOf items := by
  induction items generalizing options with
  | nil => simp [filesOf]
  | cons item later ih =>
      rw [List.foldl_cons, ih]
      cases item with
      | help => rfl
      | execution => rfl
      | unfinished => rfl
      | file path => simp [Argument.apply, Options.addFile, filesOf, Argument.file?]
      | assignment option text =>
          simp only [Argument.apply]
          cases parseAssignment text <;> rfl

theorem foldl_apply_executes (items : List Argument) (options : Options) :
    (items.foldl Argument.apply options).executes = true ↔
      options.executes = true ∨ .execution ∈ items := by
  induction items generalizing options with
  | nil => simp
  | cons item later ih =>
      rw [List.foldl_cons, ih]
      cases item with
      | help => simp [Argument.apply]
      | execution => simp [Argument.apply]
      | unfinished => simp [Argument.apply]
      | file path => simp [Argument.apply, Options.addFile]
      | assignment option text =>
          simp only [Argument.apply]
          cases parseAssignment text <;> simp [Options.define]

theorem foldl_apply_get? {items : List Argument} (sound : Faultless items) (options : Options)
    (name : String) :
    (items.foldl Argument.apply options).store.get? name =
      if isIdentifier name then (valuesOf name items).getLast?.or (options.store.get? name)
      else options.store.get? name := by
  induction items generalizing options with
  | nil => simp [valuesOf]
  | cons item later ih =>
      have laterSound : Faultless later := fun other member => sound other (List.mem_cons_of_mem _ member)
      rw [List.foldl_cons, ih laterSound]
      cases item with
      | help => rfl
      | execution => rfl
      | unfinished => rfl
      | file path => rfl
      | assignment option text =>
          obtain ⟨given, value, rfl, identifier⟩ := Argument.exists_binding (sound _ List.mem_cons_self)
          rw [Argument.apply_binding options option value identifier]
          simp only [Options.define, Store.get?_set]
          by_cases asked : isIdentifier name = true
          · simp only [asked, if_true, valuesOf]
            have bound := Argument.valueFor?_binding option value identifier asked
            by_cases same : given = name
            · rw [if_pos same] at bound ⊢
              rw [List.filterMap_cons_some bound]
              cases last : (later.filterMap (Argument.valueFor? name)).getLast? <;>
                simp [List.getLast?_cons, last]
            · rw [if_neg same] at bound ⊢
              rw [List.filterMap_cons_none bound]
          · have different : given ≠ name := fun same => asked (same ▸ identifier)
            simp only [asked, different, Bool.false_eq_true, if_false]

theorem written_readArguments (arguments : List String) :
    (readArguments arguments).flatMap Argument.written = arguments := by
  fun_induction readArguments arguments with
  | case1 => rfl
  | case2 argument rest _ ih => simp [Argument.written, ih]
  | case3 rest _ ih => simp [Argument.written, ih]
  | case4 argument => rfl
  | case5 argument _ _ _ text later ih => simp [Argument.written, ih]
  | case6 argument rest _ _ _ ih => simp [Argument.written, ih]

theorem readArguments_written {items : List Argument} (proper : ∀ item ∈ items, item.Proper)
    (rest : List String) :
    readArguments (items.flatMap Argument.written ++ rest) = items ++ readArguments rest := by
  induction items with
  | nil => rfl
  | cons item later ih =>
      have first := proper item List.mem_cons_self
      have others := ih fun other member => proper other (List.mem_cons_of_mem _ member)
      rw [List.flatMap_cons, List.append_assoc]
      cases item with
      | help option =>
          simp only [Argument.Proper] at first
          simp [Argument.written, readArguments.eq_def (option :: _), first, others]
      | execution =>
          simp [Argument.written, readArguments.eq_def ("--exec" :: _), others]
      | assignment option text =>
          simp only [Argument.Proper] at first
          rcases first with rfl | rfl
          · simp [Argument.written, readArguments, others]
          · simp [Argument.written, readArguments, others]
      | unfinished option => exact first.elim
      | file path =>
          simp only [Argument.Proper, List.mem_cons, not_or] at first
          simp [Argument.written, readArguments.eq_def (path :: _), first, others]

theorem readArguments_proper (arguments : List String) :
    ∀ item ∈ readArguments arguments, item.Proper ∨ ∃ option, item = .unfinished option := by
  fun_induction readArguments arguments with
  | case1 => simp
  | case2 argument rest isHelp ih => simpa [Argument.Proper, isHelp] using ih
  | case3 rest _ ih => simpa [Argument.Proper] using ih
  | case4 argument => simp
  | case5 argument _ _ takes text later ih => simpa [Argument.Proper, takes] using ih
  | case6 argument rest noHelp noExecution takesNothing ih =>
      simp_all [Argument.Proper]

theorem Faultless.proper {arguments : List String} (sound : Faultless (readArguments arguments)) :
    ∀ item ∈ readArguments arguments, item.Proper := by
  intro item member
  rcases readArguments_proper arguments item member with proper | ⟨option, rfl⟩
  · exact proper
  · exact absurd .unfinished (sound _ member _)

structure SameSettings (items others : List Argument) : Prop where
  files : filesOf items = filesOf others
  execution : .execution ∈ items ↔ .execution ∈ others
  values : ∀ name, isIdentifier name = true →
    (valuesOf name items).getLast? = (valuesOf name others).getLast?

/-- Two lists of arguments lead to the same outcome and leave the same state, wherever they are run. -/
def RunAlike (first second : List String) : Prop :=
  ∀ (σ : Type u) (surroundings : Surroundings σ) (state : σ),
    run surroundings first state = run surroundings second state

namespace SameSettings

variable {items others : List Argument}

theorem foldl_apply_eq (same : SameSettings items others) (sound : Faultless items)
    (otherSound : Faultless others) :
    items.foldl Argument.apply {} = others.foldl Argument.apply {} := by
  have files := foldl_apply_files items {}
  have executes := foldl_apply_executes items {}
  rw [same.files, ← foldl_apply_files others] at files
  rw [same.execution, ← foldl_apply_executes others, ← Bool.eq_iff_iff] at executes
  have store : (items.foldl Argument.apply {}).store = (others.foldl Argument.apply {}).store := by
    apply Store.ext_get?
    intro name
    rw [foldl_apply_get? sound, foldl_apply_get? otherSound]
    by_cases identifier : isIdentifier name = true
    · simp only [identifier, if_true, same.values name identifier]
    · simp only [identifier, Bool.false_eq_true, if_false]
  -- Options have no other fields.
  cases reached : items.foldl Argument.apply {}
  simp_all

theorem run_alike {first second : List String}
    (same : SameSettings (readArguments first) (readArguments second))
    (sound : Faultless (readArguments first)) (otherSound : Faultless (readArguments second)) :
    RunAlike.{u} first second := by
  intro σ surroundings state
  have parsed := parse_faultless sound
  rw [same.foldl_apply_eq sound otherSound, ← parse_faultless otherSound] at parsed
  simp only [run, parsed]

theorem of_perm (rearranged : others.Perm items) (files : filesOf items = filesOf others)
    (values : ∀ name, isIdentifier name = true → valuesOf name items = valuesOf name others) :
    SameSettings items others where
  files := files
  execution := rearranged.mem_iff.symm
  values := fun name identifier => by rw [values name identifier]

theorem of_override {earlier later : List Argument} {option name value : String}
    (identifier : isIdentifier name = true) (overridden : valuesOf name later ≠ []) :
    SameSettings (earlier ++ .assignment option (name ++ "=" ++ value) :: later)
      (earlier ++ later) where
  files := by simp [filesOf, List.filterMap_cons, Argument.file?]
  execution := by simp
  values := by
    intro other otherIdentifier
    have bound := Argument.valueFor?_binding option value identifier otherIdentifier
    simp only [valuesOf, List.filterMap_append] at overridden ⊢
    by_cases same : name = other
    · -- The last value of this name is one of the later ones, which stay.
      subst same
      rw [if_pos rfl] at bound
      rw [List.filterMap_cons_some bound]
      cases last : (later.filterMap (Argument.valueFor? name)).getLast? with
      | none => exact absurd (List.getLast?_eq_none_iff.mp last) overridden
      | some final => simp [List.getLast?_append, List.getLast?_cons, last]
    · rw [if_neg same] at bound
      rw [List.filterMap_cons_none bound]

end SameSettings

theorem Faultless.perm {items others : List Argument} (sound : Faultless items)
    (rearranged : others.Perm items) : Faultless others :=
  fun item member => sound item (rearranged.mem_iff.mp member)

theorem Faultless.sublist {items others : List Argument} (sound : Faultless items)
    (fewer : others.Sublist items) : Faultless others :=
  fun item member => sound item (fewer.subset member)

section

variable {σ : Type u} (surroundings : Surroundings σ)

theorem run_faulty {arguments : List String} {earlier later : List Argument} {item : Argument}
    {error : UsageError} (items : readArguments arguments = earlier ++ item :: later)
    (sound : Faultless earlier) (faulty : item.Faulty error) (state : σ) :
    run surroundings arguments state = (⟨2, "", error.text⟩, state) := by
  have first : (readArguments arguments).findSome? Argument.fault? = some error := by
    rw [items, List.findSome?_append, (faultless_iff earlier).mp sound, Option.none_or,
      List.findSome?_cons, (item.fault?_eq_some_iff error).mpr faulty]
  simp only [run, parse_eq, first]

theorem run_exitCode_faultless {arguments : List String}
    (sound : Faultless (readArguments arguments)) (state : σ) :
    (run surroundings arguments state).1.exitCode = 0 ∨
      (run surroundings arguments state).1.exitCode = 1 := by
  simp only [run, parse_faultless sound, Report.outcome, Report.exitCode]
  split
  · exact .inl rfl
  · exact .inr rfl

theorem run_exitCode_iff (arguments : List String) (state : σ) :
    (run surroundings arguments state).1.exitCode = 2 ↔
      ∃ item ∈ readArguments arguments, ∃ error, item.Faulty error := by
  cases found : (readArguments arguments).findSome? Argument.fault? with
  | none =>
      have sound := (faultless_iff _).mpr found
      have accepted : (run surroundings arguments state).1.exitCode ≠ 2 := by
        rcases run_exitCode_faultless surroundings sound state with code | code <;> simp [code]
      simp only [accepted, false_iff, not_exists, not_and]
      exact sound
  | some error =>
      obtain ⟨earlier, item, later, items, fault, before⟩ := List.findSome?_eq_some_iff.mp found
      have sound : Faultless earlier := (faultless_iff _).mpr (List.findSome?_eq_none_iff.mpr before)
      have faulty := (item.fault?_eq_some_iff error).mp fault
      rw [run_faulty surroundings items sound faulty state, items]
      exact iff_of_true rfl ⟨item, by simp, error, faulty⟩

end

theorem parse_append_assignment {arguments : List String} {options : Options}
    (parsed : Options.parse arguments = .ok options) {option name : String} (value : String)
    (takes : option = "-v" ∨ option = "--set") (identifier : isIdentifier name = true) :
    Options.parse (arguments ++ [option, name ++ "=" ++ value]) = .ok (options.define name value) := by
  have sound : Faultless (readArguments arguments) := by
    rw [faultless_iff]
    rw [parse_eq] at parsed
    split at parsed
    · cases parsed
    · assumption
  have last : readArguments [option, name ++ "=" ++ value] =
      [.assignment option (name ++ "=" ++ value)] := by
    rcases takes with rfl | rfl <;> simp [readArguments]
  have items := readArguments_written sound.proper [option, name ++ "=" ++ value]
  rw [written_readArguments, last] at items
  have whole : Faultless (readArguments (arguments ++ [option, name ++ "=" ++ value])) := by
    intro item member
    rw [items] at member
    rcases List.mem_append.mp member with before | here
    · exact sound item before
    · rw [List.mem_singleton.mp here]
      exact Argument.binding_sound option value identifier
  rw [parse_faultless sound] at parsed
  cases parsed
  rw [parse_faultless whole, items, List.foldl_append, List.foldl_cons, List.foldl_nil,
    Argument.apply_binding _ option value identifier]

/-- Arguments are read from left to right, an option with the assignment that it takes. The first one
at fault ends the run with its message, before anything is read or run. With none at fault a run
depends on nothing but the files in their order, on whether execution is asked for anywhere, and on
the last value of each name, so that arguments which are moved about change nothing as long as the
files keep their order and the assignments to one name do, and neither does one that is overridden. -/
theorem arguments_decide_run (arguments : List String) :
    let items : List Argument := readArguments arguments
    items.flatMap Argument.written = arguments ∧
    (∀ groups : List Argument, (∀ group ∈ groups, group.Proper) →
      readArguments (groups.flatMap Argument.written) = groups) ∧
    (∀ earlier item later error, items = earlier ++ item :: later → Faultless earlier →
      item.Faulty error → ∀ {σ : Type u} (surroundings : Surroundings σ) (state : σ),
        run surroundings arguments state = (⟨2, "", error.text⟩, state)) ∧
    (∀ {σ : Type u} (surroundings : Surroundings σ) (state : σ),
      let exitCode := (run surroundings arguments state).1.exitCode
      (exitCode = 2 ↔ ∃ item ∈ items, ∃ error, item.Faulty error) ∧
      (Faultless items → exitCode = 0 ∨ exitCode = 1)) ∧
    (Faultless items → ∃ options, Options.parse arguments = .ok options ∧
      options.files = filesOf items ∧ (options.executes = true ↔ .execution ∈ items) ∧
      ∀ name, options.store.get? name =
        if isIdentifier name then (valuesOf name items).getLast? else none) ∧
    (Faultless items → ∀ others, Faultless (readArguments others) →
      SameSettings items (readArguments others) → RunAlike.{u} arguments others) ∧
    (Faultless items → ∀ others, (readArguments others).Perm items →
      filesOf items = filesOf (readArguments others) →
      (∀ name, isIdentifier name = true →
        valuesOf name items = valuesOf name (readArguments others)) →
      RunAlike.{u} arguments others) ∧
    (Faultless items → ∀ others earlier later option name value,
      items = earlier ++ .assignment option (name ++ "=" ++ value) :: later →
      readArguments others = earlier ++ later → isIdentifier name = true →
      valuesOf name later ≠ [] → RunAlike.{u} arguments others) ∧
    ∀ options, Options.parse arguments = .ok options → ∀ option name value,
      option = "-v" ∨ option = "--set" → isIdentifier name = true →
        Options.parse (arguments ++ [option, name ++ "=" ++ value]) =
          .ok (options.define name value) := by
  intro items
  refine ⟨written_readArguments arguments, ?_, ?_, ?_, ?_, ?_, ?_, ?_, ?_⟩
  · intro groups proper
    have read := readArguments_written proper []
    rwa [List.append_nil, readArguments, List.append_nil] at read
  · intro earlier item later error split sound faulty σ surroundings state
    exact run_faulty surroundings split sound faulty state
  · intro σ surroundings state exitCode
    exact ⟨run_exitCode_iff surroundings arguments state,
      fun sound => run_exitCode_faultless surroundings sound state⟩
  · intro sound
    refine ⟨_, parse_faultless sound, foldl_apply_files items {}, ?_, ?_⟩
    · simpa using foldl_apply_executes items {}
    · intro name
      rw [foldl_apply_get? sound, Store.get?_empty, Option.or_none]
  · intro sound others otherSound same
    exact same.run_alike sound otherSound
  · intro sound others rearranged files values
    exact (SameSettings.of_perm rearranged files values).run_alike sound (sound.perm rearranged)
  · intro sound others earlier later option name value split otherSplit identifier overridden
    have same : SameSettings items (readArguments others) := by
      rw [split, otherSplit]
      exact .of_override identifier overridden
    have fewer : (readArguments others).Sublist items := by
      rw [split, otherSplit]
      exact (List.sublist_cons_self _ later).append_left earlier
    exact same.run_alike sound (sound.sublist fewer)
  · intro options parsed option name value takes identifier
    exact parse_append_assignment parsed value takes identifier

end StatementLine.CommandLine
