import StatementLine.Event
import StatementLine.Segment

/-! Tokens: segments without white space between them, joined. Every reference and backtick span
is put to the resolver as soon as it is read, and what replaces it is not read again. -/

universe u

namespace StatementLine

/-- What a segment adds to its token, what happens meanwhile, and the state that it leaves. -/
structure Contribution (σ : Type u) where
  text : Except ResolveError String
  events : List Event
  state : σ

def Segment.contribute {σ : Type u} (resolver : Resolver σ) (segment : Segment) (state : σ) :
    Contribution σ :=
  match segment.lookup? with
  | none => ⟨.ok segment.literalText, [], state⟩
  | some lookup =>
      let reply := resolver lookup state
      let running := reply.invocations.map Event.running
      match reply.answer with
      | .error error => ⟨.error error, running, reply.state⟩
      | .ok (.replaced text) => ⟨.ok text, running, reply.state⟩
      | .ok .unhandled => ⟨.ok segment.literalText, running ++ [.unresolved lookup], reply.state⟩

structure TokenReading (σ : Type u) where
  result : Except LineError String
  unread : List Char
  state : σ
  events : List Event

def TokenReading.after {σ : Type u} (later : TokenReading σ) (text : String)
    (events : List Event) : TokenReading σ where
  result := later.result.map (text ++ ·)
  unread := later.unread
  state := later.state
  events := events ++ later.events

def readToken {σ : Type u} (resolver : Resolver σ) (input : List Char) (state : σ) :
    TokenReading σ :=
  match _found : Segment.read input with
  | .boundary => ⟨.ok "", input, state, []⟩
  | .failed error unread => ⟨.error (.quote error), unread, state, []⟩
  | .segment segment rest =>
      match segment.contribute resolver state with
      | ⟨.error error, events, state⟩ => ⟨.error (.resolver error), rest, state, events⟩
      | ⟨.ok text, events, state⟩ => (readToken resolver rest state).after text events
termination_by input.length
decreasing_by exact Segment.read_shortens _ _ _ _found

theorem readToken_boundary {σ : Type u} (resolver : Resolver σ) (input : List Char) (state : σ)
    (found : Segment.read input = .boundary) :
    readToken resolver input state = ⟨.ok "", input, state, []⟩ := by
  rw [readToken]
  split <;> simp_all

theorem readToken_failed {σ : Type u} (resolver : Resolver σ) (input unread : List Char) (state : σ)
    (error : QuoteError) (found : Segment.read input = .failed error unread) :
    readToken resolver input state = ⟨.error (.quote error), unread, state, []⟩ := by
  rw [readToken]
  split <;> simp_all

theorem readToken_refused {σ : Type u} (resolver : Resolver σ) (input rest : List Char)
    (state after : σ) (segment : Segment) (error : ResolveError) (events : List Event)
    (found : Segment.read input = .segment segment rest)
    (refused : segment.contribute resolver state = ⟨.error error, events, after⟩) :
    readToken resolver input state = ⟨.error (.resolver error), rest, after, events⟩ := by
  rw [readToken]
  split <;> simp_all

theorem readToken_segment {σ : Type u} (resolver : Resolver σ) (input rest : List Char)
    (state after : σ) (segment : Segment) (text : String) (events : List Event)
    (found : Segment.read input = .segment segment rest)
    (added : segment.contribute resolver state = ⟨.ok text, events, after⟩) :
    readToken resolver input state = (readToken resolver rest after).after text events := by
  rw [readToken]
  split <;> simp_all

theorem TokenReading.after_result_ok {σ : Type u} {later : TokenReading σ} {text token : String}
    {events : List Event} (complete : (later.after text events).result = .ok token) :
    ∃ laterToken, later.result = .ok laterToken ∧ text ++ laterToken = token := by
  cases result : later.result with
  | error => simp [after, result, Except.map] at complete
  | ok laterToken => exact ⟨laterToken, rfl, by simpa [after, result, Except.map] using complete⟩

theorem readToken_unread_le {σ : Type u} (resolver : Resolver σ) (input : List Char) (state : σ)
    (token : String) (complete : (readToken resolver input state).result = .ok token) :
    (readToken resolver input state).unread.length ≤ input.length ∧
      (Segment.read input ≠ .boundary →
        (readToken resolver input state).unread.length < input.length) := by
  fun_induction readToken resolver input state generalizing token with
  | case1 _ _ boundary => exact ⟨Nat.le_refl _, fun more => absurd boundary more⟩
  | case2 => cases complete
  | case3 => cases complete
  | case4 _ _ _ _ found _ _ _ _ ih =>
      obtain ⟨later, complete, _⟩ := TokenReading.after_result_ok complete
      have shorter := Nat.lt_of_le_of_lt (ih later complete).1 (Segment.read_shortens _ _ _ found)
      exact ⟨Nat.le_of_lt shorter, fun _ => shorter⟩

theorem readToken_shortens {σ : Type u} (resolver : Resolver σ) (first : Char) (rest : List Char)
    (state : σ) (token : String) (text : isBlank first = false)
    (complete : (readToken resolver (first :: rest) state).result = .ok token) :
    (readToken resolver (first :: rest) state).unread.length < (first :: rest).length :=
  (readToken_unread_le resolver (first :: rest) state token complete).2
    (Segment.read_ne_boundary first rest text)

end StatementLine
