import Std.Data.ExtTreeMap

/-! Stores of named strings. A store is determined by what it gives for every name, and lists
its entries by name, in the order of code points. -/

namespace StatementLine

structure Store where
  bindings : Std.ExtTreeMap String String
deriving DecidableEq

namespace Store

def empty : Store := ⟨∅⟩

instance : Inhabited Store := ⟨empty⟩

def get? (store : Store) (name : String) : Option String := store.bindings[name]?

def contains (store : Store) (name : String) : Bool := store.bindings.contains name

def size (store : Store) : Nat := store.bindings.size

def isEmpty (store : Store) : Bool := store.bindings.isEmpty

def entries (store : Store) : List (String × String) := store.bindings.toList

def set (store : Store) (name value : String) : Option String × Store :=
  (store.get? name, ⟨store.bindings.insert name value⟩)

def unset (store : Store) (name : String) : Option String × Store :=
  (store.get? name, ⟨store.bindings.erase name⟩)

/-- The store of a list of pairs, where a later pair overrides an earlier one. -/
def ofList (pairs : List (String × String)) : Store := ⟨Std.ExtTreeMap.ofList pairs⟩

@[simp] theorem get?_empty (name : String) : empty.get? name = none := by
  simp [get?, empty]

@[simp] theorem get?_set (store : Store) (name value other : String) :
    (store.set name value).2.get? other = if name = other then some value else store.get? other := by
  simp [get?, set, Std.ExtTreeMap.getElem?_insert]

@[simp] theorem get?_unset (store : Store) (name other : String) :
    (store.unset name).2.get? other = if name = other then none else store.get? other := by
  simp [get?, unset, Std.ExtTreeMap.getElem?_erase]

@[simp] theorem contains_eq (store : Store) (name : String) :
    store.contains name = (store.get? name).isSome := by
  simp [contains, get?]

theorem ext_get? {first second : Store} (agree : ∀ name, first.get? name = second.get? name) :
    first = second := by
  cases first
  cases second
  exact congrArg Store.mk (Std.ExtTreeMap.ext_getElem? agree)

end Store

end StatementLine
