import Mathlib.Data.List.Induction
import StatementLine.Proofs.TextOrder
import StatementLine.Store

/-!
Stores after operations in any order. `store_canonical` says that a store is no more than what its
names have come to: the last operation on a name decides what is given for it, the entries are listed
by name, and nothing else of the operations is left in the store.
-/

namespace StatementLine

inductive StoreOperation where
  | set (name value : String)
  | unset (name : String)
  | collect (pairs : List (String × String))
deriving Repr, DecidableEq

/-- What a name has after an operation on it. To collect is an operation on all names. -/
def StoreOperation.leaves? (name : String) : StoreOperation → Option (Option String)
  | set other value => if other = name then some (some value) else none
  | unset other => if other = name then some none else none
  | collect pairs => some (pairs.reverse.lookup name)

namespace Store

def setPair (store : Store) (pair : String × String) : Store :=
  (store.set pair.1 pair.2).2

def perform (store : Store) : StoreOperation → Store
  | .set name value => (store.set name value).2
  | .unset name => (store.unset name).2
  | .collect pairs => ofList pairs

def history (operations : List StoreOperation) : Store :=
  operations.foldl perform empty

theorem history_concat (operations : List StoreOperation) (operation : StoreOperation) :
    history (operations ++ [operation]) = (history operations).perform operation := by
  rw [history, List.foldl_append]
  rfl

theorem ofList_eq_foldl (pairs : List (String × String)) :
    ofList pairs = pairs.foldl setPair empty := by
  rw [ofList, Std.ExtTreeMap.ofList_eq_foldl]
  exact (List.foldl_hom Store.mk fun _ _ => rfl).symm

theorem get?_ofList (name : String) (pairs : List (String × String)) :
    (ofList pairs).get? name = pairs.reverse.lookup name := by
  rw [ofList_eq_foldl]
  -- The last pair is in front of the list that is looked through.
  induction pairs using List.reverseRecOn with
  | nil => exact get?_empty name
  | append_singleton earlier pair ih =>
      obtain ⟨other, value⟩ := pair
      rw [List.foldl_concat, List.reverse_concat, List.lookup_cons, ← ih, setPair, get?_set]
      by_cases same : other = name
      · simp [same]
      · have apart : (name == other) = false := by simpa using Ne.symm same
        simp [same, apart]

theorem get?_perform (store : Store) (operation : StoreOperation) (name : String) :
    (store.perform operation).get? name = (operation.leaves? name).getD (store.get? name) := by
  cases operation with
  | set other value =>
      rw [perform, get?_set, StoreOperation.leaves?]
      split <;> rfl
  | unset other =>
      rw [perform, get?_unset, StoreOperation.leaves?]
      split <;> rfl
  | collect pairs => exact get?_ofList name pairs

theorem get?_history (operations : List StoreOperation) (name : String) :
    (history operations).get? name =
      (operations.reverse.findSome? (StoreOperation.leaves? name)).getD none := by
  induction operations using List.reverseRecOn with
  | nil => exact get?_empty name
  | append_singleton earlier operation ih =>
      rw [history_concat, get?_perform, ih, List.reverse_concat, List.findSome?_cons]
      cases operation.leaves? name with
      | none => rfl
      | some left => rfl

theorem entries_ordered (store : Store) :
    store.entries.Pairwise fun entry later => bytesOf entry.1 < bytesOf later.1 := by
  have ordered := Std.ExtTreeMap.ordered_keys_toList (t := store.bindings)
  refine ordered.imp ?_
  intro entry later less
  exact (bytesOf_lt_iff entry.1 later.1).mpr ((compare_eq_lt_iff entry.1 later.1).mp less)

theorem entries_nodup (store : Store) : (store.entries.map Prod.fst).Nodup := by
  rw [List.nodup_iff_pairwise_ne, List.pairwise_map]
  refine store.entries_ordered.imp ?_
  intro entry later less same
  rw [same] at less
  exact List.lt_irrefl _ less

theorem mem_entries_iff (store : Store) (name value : String) :
    (name, value) ∈ store.entries ↔ store.get? name = some value :=
  Std.ExtTreeMap.mem_toList_iff_getElem?_eq_some

theorem size_eq_length (store : Store) : store.size = store.entries.length :=
  Std.ExtTreeMap.length_toList.symm

theorem isEmpty_iff_entries (store : Store) : store.isEmpty = true ↔ store.entries = [] := by
  rw [isEmpty, ← Std.ExtTreeMap.isEmpty_toList, List.isEmpty_iff]
  rfl

theorem ofList_entries (store : Store) : ofList store.entries = store := by
  refine ext_get? fun name => ?_
  cases found : store.get? name with
  | some value =>
      have listed : (name, value) ∈ store.entries := (store.mem_entries_iff name value).mpr found
      exact Std.ExtTreeMap.getElem?_ofList_of_mem Std.ReflCmp.compare_self
        Std.ExtTreeMap.distinct_keys_toList listed
  | none =>
      rw [get?_ofList, List.lookup_eq_none_iff]
      rintro ⟨other, value⟩ listed
      have held : store.get? other = some value :=
        (store.mem_entries_iff other value).mp (List.mem_reverse.mp listed)
      have apart : name ≠ other := by
        rintro rfl
        rw [found] at held
        cases held
      simpa using apart

end Store

/-- A store after any operations lists every name that has a value once, in the order of the names'
bytes, which is that of their code points. The last operation on a name decides what it gives for the
name, and operations on other names change nothing. To set or unset tells what was given before.
Pairs are collected by setting them in turn, entries give back their store, and two stores are equal
exactly if they give the same for every name. -/
theorem store_canonical (operations : List StoreOperation) :
    let store := Store.history operations
    let entries := store.entries
    (entries.Pairwise fun entry later => bytesOf entry.1 < bytesOf later.1) ∧
    (∀ first second, bytesOf first < bytesOf second ↔ codePointsOf first < codePointsOf second) ∧
    (entries.map Prod.fst).Nodup ∧
    (∀ name value, (name, value) ∈ entries ↔ store.get? name = some value) ∧
    (∀ name,
      store.get? name =
        (operations.reverse.findSome? (StoreOperation.leaves? name)).getD none ∧
      store.contains name = (store.get? name).isSome) ∧
    (∀ (operation : StoreOperation) (name : String), operation.leaves? name = none →
      (store.perform operation).get? name = store.get? name ∧
      (store.perform operation).contains name = store.contains name) ∧
    (∀ name value, (store.set name value).1 = store.get? name ∧
      (store.unset name).1 = store.get? name) ∧
    store.size = entries.length ∧
    (store.isEmpty = true ↔ entries = []) ∧
    (∀ pairs, Store.ofList pairs = pairs.foldl Store.setPair .empty) ∧
    Store.ofList entries = store ∧
    ∀ others, Store.history others = store ↔
      ∀ name, (Store.history others).get? name = store.get? name := by
  intro store entries
  refine ⟨store.entries_ordered, ?_, store.entries_nodup, store.mem_entries_iff, ?_, ?_, ?_,
    store.size_eq_length, store.isEmpty_iff_entries, Store.ofList_eq_foldl, store.ofList_entries, ?_⟩
  · intro first second
    rw [bytesOf_lt_iff, codePointsOf_lt_iff]
  · intro name
    exact ⟨Store.get?_history operations name, store.contains_eq name⟩
  · intro operation name elsewhere
    have same : (store.perform operation).get? name = store.get? name := by
      rw [Store.get?_perform, elsewhere]
      rfl
    exact ⟨same, by rw [Store.contains_eq, Store.contains_eq, same]⟩
  · intro name value
    exact ⟨rfl, rfl⟩
  · intro others
    constructor
    · intro same name
      rw [same]
    · exact Store.ext_get?

end StatementLine
