import StatementLine.Segmentation

/-!
Splitting in two passes. What a line asks for is known before anything is asked: its lookups are
put to the resolver in turn, and the texts of its tokens are joined from the answers afterwards.
`split_eq_outcome` says that this is what splitting comes to, for every resolver.
-/

universe u

namespace StatementLine

variable {σ : Type u}

def lookupsOf (segments : List Segment) : List Lookup :=
  segments.filterMap Segment.lookup?

namespace Segmentation

def segments (layout : Segmentation) : List Segment :=
  match layout.broken? with
  | none => layout.groups.flatten
  | some broken => layout.groups.flatten ++ broken.segments

def lookups (layout : Segmentation) : List Lookup :=
  lookupsOf layout.segments

end Segmentation

/-- What comes of putting lookups to a resolver: the resolutions, the failure that ended it if
there was one, and the state that is left. -/
structure Inquiry (σ : Type u) where
  resolutions : List Resolution
  failure? : Option ResolveError
  state : σ

def Inquiry.cons (resolution : Resolution) (later : Inquiry σ) : Inquiry σ :=
  { later with resolutions := resolution :: later.resolutions }

def inquire (resolver : Resolver σ) : List Lookup → σ → Inquiry σ
  | [], state => ⟨[], none, state⟩
  | lookup :: later, state =>
      match resolver lookup state with
      | ⟨.error error, _, after⟩ => ⟨[], some error, after⟩
      | ⟨.ok resolution, _, after⟩ => (inquire resolver later after).cons resolution

def Inquiry.asked (inquiry : Inquiry σ) : Nat :=
  inquiry.resolutions.length + inquiry.failure?.toList.length

theorem Inquiry.asked_cons (resolution : Resolution) (later : Inquiry σ) :
    (later.cons resolution).asked = later.asked + 1 := by
  simp only [asked, cons, List.length_cons]
  omega

def Segment.textFor (segment : Segment) : Resolution → String
  | .replaced text => text
  | .unhandled => segment.literalText

def joinTexts : List Segment → List Resolution → String
  | [], _ => ""
  | segment :: later, resolutions =>
      match segment.lookup?, resolutions with
      | some _, resolution :: others => segment.textFor resolution ++ joinTexts later others
      | some _, [] => segment.literalText ++ joinTexts later []
      | none, resolutions => segment.literalText ++ joinTexts later resolutions

def tokenTexts : List (List Segment) → List Resolution → List String
  | [], _ => []
  | group :: later, resolutions =>
      joinTexts group resolutions :: tokenTexts later (resolutions.drop (lookupsOf group).length)

/-- What a line comes to: the failure of a lookup comes before that of a span, since all lookups
of a line stand in front of its broken span. -/
def Segmentation.outcome (layout : Segmentation) (inquiry : Inquiry σ) :
    Except LineError (List String) :=
  match inquiry.failure?, layout.broken? with
  | some error, _ => .error (.resolver error)
  | none, some broken => .error (.quote broken.error)
  | none, none => .ok (tokenTexts layout.groups inquiry.resolutions)

def Inquiry.andThen (first : Inquiry σ) (later : σ → Inquiry σ) : Inquiry σ :=
  match first.failure? with
  | some _ => first
  | none =>
      { later first.state with resolutions := first.resolutions ++ (later first.state).resolutions }

theorem inquire_failed {resolver : Resolver σ} {lookup : Lookup} {state after : σ}
    {error : ResolveError} {invocations : List Invocation}
    (reply : resolver lookup state = ⟨.error error, invocations, after⟩) (later : List Lookup) :
    inquire resolver (lookup :: later) state = ⟨[], some error, after⟩ := by
  simp [inquire, reply]

theorem inquire_resolved {resolver : Resolver σ} {lookup : Lookup} {state after : σ}
    {resolution : Resolution} {invocations : List Invocation}
    (reply : resolver lookup state = ⟨.ok resolution, invocations, after⟩) (later : List Lookup) :
    inquire resolver (lookup :: later) state = (inquire resolver later after).cons resolution := by
  simp [inquire, reply]

theorem inquire_append (resolver : Resolver σ) (first second : List Lookup) (state : σ) :
    inquire resolver (first ++ second) state =
      (inquire resolver first state).andThen (inquire resolver second) := by
  induction first generalizing state with
  | nil => rfl
  | cons lookup later ih =>
      rw [List.cons_append]
      rcases reply : resolver lookup state with ⟨error | resolution, invocations, after⟩
      · rw [inquire_failed reply, inquire_failed reply]
        rfl
      · rw [inquire_resolved reply, inquire_resolved reply, ih]
        simp only [Inquiry.andThen, Inquiry.cons]
        split <;> rfl

theorem inquire_resolutions_length (resolver : Resolver σ) (lookups : List Lookup) (state : σ)
    (complete : (inquire resolver lookups state).failure? = none) :
    (inquire resolver lookups state).resolutions.length = lookups.length := by
  induction lookups generalizing state with
  | nil => rfl
  | cons lookup later ih =>
      rcases reply : resolver lookup state with ⟨error | resolution, invocations, after⟩
      · rw [inquire_failed reply] at complete
        cases complete
      · rw [inquire_resolved reply] at complete ⊢
        simpa [Inquiry.cons] using ih after complete

theorem inquire_asked_le (resolver : Resolver σ) (lookups : List Lookup) (state : σ) :
    (inquire resolver lookups state).asked ≤ lookups.length := by
  induction lookups generalizing state with
  | nil => exact Nat.le_refl 0
  | cons lookup later ih =>
      rcases reply : resolver lookup state with ⟨error | resolution, invocations, after⟩
      · rw [inquire_failed reply]
        exact Nat.le_add_left 1 later.length
      · rw [inquire_resolved reply, Inquiry.asked_cons]
        exact Nat.succ_le_succ (ih after)

theorem inquire_asked_pos (resolver : Resolver σ) (lookup : Lookup) (later : List Lookup)
    (state : σ) : 0 < (inquire resolver (lookup :: later) state).asked := by
  rcases reply : resolver lookup state with ⟨error | resolution, invocations, after⟩
  · rw [inquire_failed reply]
    exact Nat.lt_add_one 0
  · rw [inquire_resolved reply, Inquiry.asked_cons]
    exact Nat.succ_pos _

theorem inquire_recorded (resolver : Resolver σ) (lookups earlier : List Lookup) (state : σ) :
    inquire resolver.recorded lookups (state, earlier) =
      { inquire resolver lookups state with
        state := ((inquire resolver lookups state).state,
          earlier ++ lookups.take (inquire resolver lookups state).asked) } := by
  induction lookups generalizing state earlier with
  | nil => simp [inquire]
  | cons lookup later ih =>
      rcases reply : resolver lookup state with ⟨error | resolution, invocations, after⟩
      · have noted : resolver.recorded lookup (state, earlier) =
            ⟨.error error, invocations, (after, earlier ++ [lookup])⟩ := by
          simp [Resolver.recorded, reply]
        rw [inquire_failed reply, inquire_failed noted]
        simp [Inquiry.asked]
      · have noted : resolver.recorded lookup (state, earlier) =
            ⟨.ok resolution, invocations, (after, earlier ++ [lookup])⟩ := by
          simp [Resolver.recorded, reply]
        rw [inquire_resolved reply, inquire_resolved noted, ih, Inquiry.asked_cons]
        simp [Inquiry.cons]

theorem joinTexts_append (segments : List Segment) (resolutions others : List Resolution)
    (enough : (lookupsOf segments).length ≤ resolutions.length) :
    joinTexts segments (resolutions ++ others) = joinTexts segments resolutions := by
  induction segments generalizing resolutions with
  | nil => rfl
  | cons segment later ih =>
      simp only [lookupsOf] at ih enough
      cases found : segment.lookup? with
      | none =>
          rw [List.filterMap_cons_none found] at enough
          simp only [joinTexts, found, ih resolutions enough]
      | some lookup =>
          rw [List.filterMap_cons_some found] at enough
          cases resolutions with
          | nil => simp at enough
          | cons resolution resolutions =>
              simp only [List.cons_append, joinTexts, found]
              rw [ih resolutions (by simpa using enough)]

theorem joinTexts_row (first second : List Segment) (resolutions others : List Resolution)
    (enough : resolutions.length = (lookupsOf first).length) :
    joinTexts (first ++ second) (resolutions ++ others) =
      joinTexts first resolutions ++ joinTexts second others := by
  induction first generalizing resolutions with
  | nil =>
      have none : resolutions = [] := List.eq_nil_of_length_eq_zero enough
      simp [none, joinTexts]
  | cons segment later ih =>
      simp only [lookupsOf] at ih enough
      cases found : segment.lookup? with
      | none =>
          rw [List.filterMap_cons_none found] at enough
          simp only [List.cons_append, joinTexts, found, ih resolutions enough, String.append_assoc]
      | some lookup =>
          rw [List.filterMap_cons_some found] at enough
          cases resolutions with
          | nil => simp at enough
          | cons resolution resolutions =>
              simp only [List.cons_append, joinTexts, found]
              rw [ih resolutions (by simpa using enough), String.append_assoc]

theorem lookupsOf_append (first second : List Segment) :
    lookupsOf (first ++ second) = lookupsOf first ++ lookupsOf second :=
  List.filterMap_append

theorem tokenTexts_append (groups later : List (List Segment)) (resolutions others : List Resolution)
    (enough : resolutions.length = (lookupsOf groups.flatten).length) :
    tokenTexts (groups ++ later) (resolutions ++ others) =
      tokenTexts groups resolutions ++ tokenTexts later others := by
  induction groups generalizing resolutions with
  | nil =>
      have none : resolutions = [] := List.eq_nil_of_length_eq_zero enough
      simp [none, tokenTexts]
  | cons group groups ih =>
      rw [List.flatten_cons, lookupsOf_append, List.length_append] at enough
      have first : (lookupsOf group).length ≤ resolutions.length := by omega
      simp only [List.cons_append, tokenTexts]
      rw [joinTexts_append group resolutions others first, List.drop_append_of_le_length first,
        ih (resolutions.drop (lookupsOf group).length) (by rw [List.length_drop]; omega)]

namespace Segmentation

def precededBy (layout : Segmentation) (groups : List (List Segment)) : Segmentation :=
  { layout with groups := groups ++ layout.groups }

theorem lookups_precededBy (layout : Segmentation) (groups : List (List Segment)) :
    (layout.precededBy groups).lookups = lookupsOf groups.flatten ++ layout.lookups := by
  simp only [lookups, segments, precededBy, ← lookupsOf_append]
  split <;> simp

theorem outcome_failed {layout : Segmentation} {inquiry : Inquiry σ} {error : ResolveError}
    (failed : inquiry.failure? = some error) : layout.outcome inquiry = .error (.resolver error) := by
  simp only [outcome, failed]

theorem outcome_broken {layout : Segmentation} {inquiry : Inquiry σ} {broken : BrokenGroup}
    (complete : inquiry.failure? = none) (found : layout.broken? = some broken) :
    layout.outcome inquiry = .error (.quote broken.error) := by
  simp only [outcome, complete, found]

theorem outcome_complete {layout : Segmentation} {inquiry : Inquiry σ}
    (complete : inquiry.failure? = none) (unbroken : layout.broken? = none) :
    layout.outcome inquiry = .ok (tokenTexts layout.groups inquiry.resolutions) := by
  simp only [outcome, complete, unbroken]

theorem outcome_eq_ok {layout : Segmentation} {inquiry : Inquiry σ} {tokens : List String}
    (success : layout.outcome inquiry = .ok tokens) :
    layout.broken? = none ∧ tokens = tokenTexts layout.groups inquiry.resolutions := by
  unfold outcome at success
  split at success
  · cases success
  · cases success
  · rename_i unbroken
    exact ⟨unbroken, (Except.ok.inj success).symm⟩

theorem outcome_andThen {whole layout : Segmentation} {first : Inquiry σ} {later : σ → Inquiry σ}
    (change : List String → List String) (complete : first.failure? = none)
    (sameBroken : whole.broken?.map BrokenGroup.error = layout.broken?.map BrokenGroup.error)
    (tokens : layout.broken? = none → ∀ others, tokenTexts whole.groups (first.resolutions ++ others) =
      change (tokenTexts layout.groups others)) :
    whole.outcome (first.andThen later) = (layout.outcome (later first.state)).map change := by
  simp only [outcome, Inquiry.andThen, complete]
  cases (later first.state).failure? with
  | some error => rfl
  | none =>
      cases wholeBroken : whole.broken? with
      | some broken =>
          cases unbroken : layout.broken? with
          | some _ => simp_all [Except.map]
          | none => simp [wholeBroken, unbroken] at sameBroken
      | none =>
          cases unbroken : layout.broken? with
          | some _ => simp [wholeBroken, unbroken] at sameBroken
          | none => simp only [tokens unbroken, Except.map]

theorem outcome_precededBy (layout : Segmentation) (groups : List (List Segment))
    (first : Inquiry σ) (later : σ → Inquiry σ) (complete : first.failure? = none)
    (enough : first.resolutions.length = (lookupsOf groups.flatten).length) :
    (layout.precededBy groups).outcome (first.andThen later) =
      (layout.outcome (later first.state)).map (tokenTexts groups first.resolutions ++ ·) := by
  refine outcome_andThen _ complete ?_ ?_
  · rfl
  intro _ others
  exact tokenTexts_append groups layout.groups first.resolutions others enough

end Segmentation

theorem evaluateGroup_eq_inquire (resolver : Resolver σ) (segments : List Segment) (state : σ) :
    evaluateGroup resolver segments state =
      match inquire resolver (lookupsOf segments) state with
      | ⟨_, some error, after⟩ => (.error error, after)
      | ⟨resolutions, none, after⟩ => (.ok (joinTexts segments resolutions), after) := by
  induction segments generalizing state with
  | nil => rfl
  | cons segment later ih =>
      simp only [lookupsOf] at ih ⊢
      cases found : segment.lookup? with
      | none =>
          rw [List.filterMap_cons_none found]
          simp only [evaluateGroup, Segment.contribute, found, ih]
          split <;> simp [joinTexts, found, Except.map]
      | some lookup =>
          rw [List.filterMap_cons_some found]
          simp only [evaluateGroup, Segment.contribute, found]
          rcases reply : resolver lookup state with ⟨error | (text | _), invocations, after⟩
          · rw [inquire_failed reply]
          · rw [inquire_resolved reply]
            simp only [ih, Inquiry.cons]
            split <;> simp_all [joinTexts, Segment.textFor, Except.map]
          · rw [inquire_resolved reply]
            simp only [ih, Inquiry.cons]
            split <;> simp_all [joinTexts, Segment.textFor, Except.map]

theorem Segmentation.evaluate_cons (resolver : Resolver σ) (group : List Segment)
    (later : List (List Segment)) (broken? : Option BrokenGroup) (state : σ) :
    (Segmentation.mk (group :: later) broken?).evaluate resolver state =
      match evaluateGroup resolver group state with
      | (.error error, after) => (.error (.resolver error), after)
      | (.ok token, after) =>
          (((Segmentation.mk later broken?).evaluate resolver after).1.map (token :: ·),
            ((Segmentation.mk later broken?).evaluate resolver after).2) := by
  rcases evaluated : evaluateGroup resolver group state with ⟨_ | _, _⟩ <;>
    simp [evaluate, evaluateGroups, evaluated]

theorem Segmentation.evaluate_eq_inquire (resolver : Resolver σ) (layout : Segmentation) (state : σ) :
    layout.evaluate resolver state =
      (layout.outcome (inquire resolver layout.lookups state),
        (inquire resolver layout.lookups state).state) := by
  obtain ⟨groups, broken?⟩ := layout
  induction groups generalizing state with
  | nil =>
      cases broken? with
      | none => rfl
      | some broken =>
          simp only [evaluate, evaluateGroups, evaluateGroup_eq_inquire, lookups, segments,
            List.flatten_nil, List.nil_append, outcome]
          split <;> simp_all [groupResult, Except.map]
  | cons group later ih =>
      have whole : Segmentation.mk (group :: later) broken? =
          (Segmentation.mk later broken?).precededBy [group] := rfl
      have lookups := lookups_precededBy ⟨later, broken?⟩ [group]
      simp only [List.flatten_singleton] at lookups
      rw [evaluate_cons, evaluateGroup_eq_inquire, whole, lookups, inquire_append]
      have length := inquire_resolutions_length resolver (lookupsOf group) state
      -- The later tokens take what is left of the resolutions behind those of the group.
      rcases reached : inquire resolver (lookupsOf group) state with ⟨resolutions, _ | error, after⟩
      · rw [reached] at length
        rw [outcome_precededBy _ _ _ _ rfl (by simpa using length rfl)]
        simp only [ih]
        rfl
      · rfl

/-- The result and the state of a split, read off the lookups of the line. -/
theorem split_eq_outcome (resolver : Resolver σ) (line : String) (state : σ) :
    let layout := segmentation line.toList
    (split resolver line state).result = layout.outcome (inquire resolver layout.lookups state) ∧
      (split resolver line state).state = (inquire resolver layout.lookups state).state := by
  intro layout
  obtain ⟨result, left⟩ := all_eq_evaluate resolver line line.toList state
  rw [layout.evaluate_eq_inquire resolver state] at result left
  exact ⟨result, left⟩

def lookupsMade (resolver : Resolver σ) (line : String) (state : σ) : List Lookup :=
  (split resolver.recorded line (state, [])).state.2

theorem lookupsMade_eq_take (resolver : Resolver σ) (line : String) (state : σ) :
    let lookups := (segmentation line.toList).lookups
    lookupsMade resolver line state = lookups.take (inquire resolver lookups state).asked := by
  intro lookups
  rw [lookupsMade, (split_eq_outcome resolver.recorded line (state, [])).2, inquire_recorded]
  rfl

theorem lookupsMade_head? (resolver : Resolver σ) (line : String) (state : σ) :
    (lookupsMade resolver line state).head? = (segmentation line.toList).lookups.head? := by
  rw [lookupsMade_eq_take]
  cases found : (segmentation line.toList).lookups with
  | nil => simp
  | cons lookup later =>
      rw [List.head?_take, if_neg (Nat.ne_of_gt (inquire_asked_pos resolver lookup later state))]

end StatementLine
