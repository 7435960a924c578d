import StatementLine.Proofs.Recording
import StatementLine.Proofs.Scanner

/-!
Lines that are read on. `resumed_line` says that a reader in the middle of its line goes on as a
reader of what it has not read would, and that this is also so for a scanner, which keeps the whole
line and looks at it from a position in its middle.
-/

universe u

namespace StatementLine

variable {σ : Type u}

def Delivery.token? : Delivery → Option String
  | .next (.ok token?) => token?
  | .next (.error _) => none
  | .all _ => none
  | .take _ => none

def Reader.ofOther (reader : Reader) (line : String) : Reader :=
  { reader with line }

theorem readToken_ends (resolver : Resolver σ) (input : List Char) (state : σ) (token : String)
    (complete : (readToken resolver input state).result = .ok token) :
    AtBoundary (readToken resolver input state).unread := by
  fun_induction readToken resolver input state generalizing token with
  | case1 input state boundary => exact (Segment.read_eq_boundary_iff input).mp boundary
  | case2 => cases complete
  | case3 => cases complete
  | case4 input state segment rest found text events after added ih =>
      obtain ⟨later, complete, _⟩ := TokenReading.after_result_ok complete
      exact ih later complete

namespace Reader

theorem next_token_ends {resolver : Resolver σ} {reader : Reader} {state : σ} {token : String}
    (found : (reader.next resolver state).result = .ok (some token)) :
    AtBoundary (reader.next resolver state).reader.unread := by
  obtain ⟨line, input, finished⟩ := reader
  cases finished with
  | true =>
      rw [next_finished resolver _ state rfl] at found
      cases found
  | false =>
      cases start : input.dropWhile isBlank with
      | nil =>
          rw [next_end resolver line input state start] at found
          cases found
      | cons first rest =>
          have ends := readToken_ends resolver (first :: rest) state
          rcases reading : readToken resolver (first :: rest) state with
            ⟨error | other, unread, after, events⟩
          · rw [next_error resolver line input rest unread first state after error events start
              reading] at found
            cases found
          · rw [reading] at ends
            rw [next_token resolver line input rest unread first state after other events start
              reading]
            exact ends other rfl

theorem next_ofOther (resolver : Resolver σ) (reader : Reader) (line : String) (state : σ) :
    (reader.ofOther line).next resolver state =
      (reader.next resolver state).map (·.ofOther line) id := by
  obtain ⟨own, input, finished⟩ := reader
  cases finished with
  | true => rfl
  | false =>
      cases start : input.dropWhile isBlank with
      | nil =>
          rw [next_end resolver own input state start, ofOther, next_end resolver line input state start]
          rfl
      | cons first rest =>
          rcases reading : readToken resolver (first :: rest) state with
            ⟨error | token, unread, after, events⟩
          · rw [next_error resolver own input rest unread first state after error events start reading,
              ofOther,
              next_error resolver line input rest unread first state after error events start reading]
            rfl
          · rw [next_token resolver own input rest unread first state after token events start reading,
              ofOther,
              next_token resolver line input rest unread first state after token events start reading]
            rfl

theorem play_ofOther (turns : List (Turn σ)) (reader : Reader) (line : String) (state : σ) :
    (reader.ofOther line).play turns state =
      (reader.play turns state).map (·.ofOther line) id := by
  induction turns generalizing reader state with
  | nil => rfl
  | cons turn later ih =>
      have first : (reader.ofOther line).perform turn state =
          (reader.perform turn state).map (·.ofOther line) id :=
        perform_map (fun reader => reader.next_ofOther turn.resolver line) turn.operation reader state
      simp only [play, first]
      rcases reader.perform turn state with ⟨delivery, left, after, events⟩
      simp only [Step.map, id_eq] at ih ⊢
      rw [ih]
      rfl

theorem lookupsPlayed_ofOther (turns : List (Turn σ)) (reader : Reader) (line : String) (state : σ) :
    (reader.ofOther line).lookupsPlayed turns state = reader.lookupsPlayed turns state := by
  rw [lookupsPlayed, play_ofOther]
  rfl

theorem play_line (turns : List (Turn σ)) (reader : Reader) (state : σ) :
    (reader.play turns state).reader.line = reader.line :=
  congrArg (·.reader.line) (reader.play_ofOther turns reader.line state)

theorem play_tokens {resolvers : List (Resolver σ)} {reader : Reader} {state : σ}
    (unfinished : reader.finished = false)
    (given : ∀ delivery ∈ (reader.play (resolvers.map (Turn.mk · .next)) state).result,
      delivery.token? ≠ none) :
    let session := reader.play (resolvers.map (Turn.mk · .next)) state
    session.reader.finished = false ∧ (resolvers ≠ [] → AtBoundary session.reader.unread) := by
  -- Only the last token says where the reader stands, the others that it goes on.
  induction resolvers generalizing reader state with
  | nil => exact ⟨unfinished, fun something => absurd rfl something⟩
  | cons resolver later ih =>
      rcases found : reader.next resolver state with ⟨result, left, after, events⟩
      have first : reader.perform ⟨resolver, .next⟩ state = ⟨.next result, left, after, events⟩ := by
        simp only [perform, found, Step.after, List.nil_append]
      simp only [List.map_cons, play, first, Step.after, List.forall_mem_cons] at given ⊢
      obtain ⟨token, gives⟩ : ∃ token, result = .ok (some token) := by
        rcases result with error | (_ | token)
        · exact absurd rfl given.1
        · exact absurd rfl given.1
        · exact ⟨token, rfl⟩
      subst gives
      have ends := next_token_ends (by rw [found])
      rw [found] at ends
      obtain ⟨finished, boundary⟩ := ih (next_token_unfinished found).2 given.2
      refine ⟨finished, fun _ => ?_⟩
      cases later with
      | nil => exact ends
      | cons => exact boundary (by simp)

end Reader

/-- Behind a token stands white space or the end of the line. Whatever is done after any number of
tokens, each read with a resolver of its own, has the results, the state, the trace, the unread text
and the lookups that it has with a reader of the unread text alone. A scanner of the line reads the
same, and its position is that of a scanner of this text, raised by the position it had reached. -/
theorem resumed_line (line : String) (resolvers : List (Resolver σ)) (state : σ)
    (given : ∀ delivery ∈ ((Reader.ofLine line).play (resolvers.map (Turn.mk · .next)) state).result,
      delivery.token? ≠ none) :
    let session := (Reader.ofLine line).play (resolvers.map (Turn.mk · .next)) state
    let scanned := (Scanner.ofLine line).play (resolvers.map (Turn.mk · .next)) state
    let unread := String.ofList session.reader.unread
    (resolvers ≠ [] → AtBoundary unread.toList) ∧
    scanned.step = session ∧
    ∀ turns : List (Turn σ),
      let late := session.reader.play turns session.state
      let fresh := (Reader.ofLine unread).play turns session.state
      let lateScan := scanned.scanner.play turns scanned.state
      let freshScan := (Scanner.ofLine unread).play turns scanned.state
      late.result = fresh.result ∧ late.state = fresh.state ∧ late.events = fresh.events ∧
      late.reader.unread = fresh.reader.unread ∧ late.reader.finished = fresh.reader.finished ∧
      late.reader.line = line ∧ fresh.reader.line = unread ∧
      session.reader.lookupsPlayed turns session.state =
        (Reader.ofLine unread).lookupsPlayed turns session.state ∧
      lateScan.step = late ∧ freshScan.step = fresh ∧
      lateScan.scanner.cursor.position =
        scanned.scanner.cursor.position + freshScan.scanner.cursor.position := by
  intro session scanned unread
  obtain ⟨unfinished, boundary⟩ := Reader.play_tokens rfl given
  have sameSession : scanned.step = session :=
    (Scanner.ofLine line).play_step (resolvers.map (Turn.mk · .next)) state
  have sameState : scanned.state = session.state := congrArg Step.state sameSession
  have sameReader : scanned.scanner.reader = session.reader := congrArg Step.reader sameSession
  have sameLine : session.reader.line = line := Reader.play_line _ _ _
  have sameUnread : unread.toList = session.reader.unread := String.toList_ofList
  have resumed : session.reader = (Reader.ofLine unread).ofOther line :=
    calc session.reader
      _ = ⟨session.reader.line, session.reader.unread, session.reader.finished⟩ := rfl
      _ = ⟨line, unread.toList, false⟩ := by rw [sameLine, unfinished, sameUnread]
  refine ⟨by rwa [sameUnread], sameSession, ?_⟩
  intro turns late fresh lateScan freshScan
  have same : late = fresh.map (·.ofOther line) id := by
    simp only [late, fresh, resumed, Reader.play_ofOther]
  have lateStep : lateScan.step = late := by
    simp only [lateScan, late, Scanner.play_step, sameReader, sameState]
  have freshStep : freshScan.step = fresh := by
    simp only [freshScan, fresh, Scanner.play_step, sameState]
    rfl
  have moved : lateScan.scanner.cursor.position =
      scanned.scanner.cursor.position + freshScan.scanner.cursor.position := by
    have valid : Scanner.Valid line scanned.scanner :=
      Scanner.play_valid _ state (Scanner.ofLine_valid line)
    have lateValid : Scanner.Valid line lateScan.scanner := Scanner.play_valid turns _ valid
    have freshValid : Scanner.Valid unread freshScan.scanner :=
      Scanner.play_valid turns _ (Scanner.ofLine_valid unread)
    have start := valid.position
    have ends := lateValid.position
    have freshEnds := freshValid.position
    have lateUnread : lateScan.scanner.reader.unread = fresh.reader.unread :=
      congrArg (·.reader.unread) (lateStep.trans same)
    have freshUnread : freshScan.scanner.reader.unread = fresh.reader.unread :=
      congrArg (·.reader.unread) freshStep
    rw [sameReader, ← sameUnread] at start
    rw [lateUnread] at ends
    rw [freshUnread] at freshEnds
    omega
  have sameLookups : session.reader.lookupsPlayed turns session.state =
      (Reader.ofLine unread).lookupsPlayed turns session.state := by
    rw [resumed, Reader.lookupsPlayed_ofOther]
  refine ⟨?_, ?_, ?_, ?_, ?_, ?_, Reader.play_line _ _ _, sameLookups, lateStep, freshStep, moved⟩
  all_goals
    rw [same]
    rfl

theorem resumed_line_error :
    let rest := " :'z'\"q r\" 's"
    let resolver : Resolver (Unit × List Lookup) := Resolver.literal.recorded
    let lookups : List Lookup := [.value "y" .bare, .command "c d"]
    let turns : List (Turn (Unit × List Lookup)) := [⟨resolver, .next⟩, ⟨resolver, .all⟩]
    let session := (Reader.ofLine ("x:y`c d`" ++ rest)).play [⟨resolver, .next⟩] ((), [])
    let late := session.reader.play turns ((), lookups)
    let fresh := (Reader.ofLine rest).play turns ((), lookups)
    (∀ delivery ∈ session.result, delivery.token? ≠ none) ∧
    session.state = ((), lookups) ∧ AtBoundary rest.toList ∧
    late.result = fresh.result ∧ late.events = fresh.events ∧
    fresh.events.getLast? = some (.abandoned (.quote .unterminated) 0) := by
  intro rest resolver lookups turns session late fresh
  have given : ∀ delivery ∈ session.result, delivery.token? ≠ none := by decide +kernel
  have left : session.reader.unread = rest.toList := by decide +kernel
  have asked : session.state = ((), lookups) := by decide +kernel
  have told : fresh.events.getLast? = some (.abandoned (.quote .unterminated) 0) := by decide +kernel
  obtain ⟨boundary, _, resumes⟩ := resumed_line ("x:y`c d`" ++ rest) [resolver] ((), []) given
  have unread : String.ofList session.reader.unread = rest := by rw [left, String.ofList_toList]
  have ends : AtBoundary (String.ofList session.reader.unread).toList := boundary (by simp)
  obtain ⟨results, _, events, _⟩ := resumes turns
  have sameResult : (session.reader.play turns session.state).result =
      ((Reader.ofLine (String.ofList session.reader.unread)).play turns session.state).result :=
    results
  have sameEvents : (session.reader.play turns session.state).events =
      ((Reader.ofLine (String.ofList session.reader.unread)).play turns session.state).events :=
    events
  rw [unread] at ends sameResult sameEvents
  rw [asked] at sameResult sameEvents
  exact ⟨given, asked, ends, sameResult, sameEvents, told⟩

end StatementLine
