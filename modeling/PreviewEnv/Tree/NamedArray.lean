import PreviewEnv.Tree.Basic

/-!
Arrays of maps that each carry a name of their own, seen as a mapping from names to elements. The
elements keep the order in which their names were first set.
-/

namespace PreviewEnv

namespace Tree

/-- The name of an array element: the text under `name` of a map. -/
def name? (t : Tree) : Option String := (t.get? "name").bind str?

end Tree

/-- Elements under pairwise different names, in the order in which the names came. -/
structure NamedArray where
  entries : List (String × Tree)
  nodup : (entries.map (·.1)).Nodup

namespace NamedArray

/-- The elements under their own names, if each has one. -/
def namedItems? : List Tree → Option (List (String × Tree))
  | [] => some []
  | t :: ts => do
    let name ← t.name?
    let rest ← namedItems? ts
    return (name, t) :: rest

/-- The array as a mapping, if its elements all have names and no two share one. -/
def ofItems? (items : List Tree) : Option NamedArray :=
  match namedItems? items with
  | some entries => if h : (entries.map (·.1)).Nodup then some ⟨entries, h⟩ else none
  | none => none

def items (a : NamedArray) : List Tree := a.entries.map (·.2)

def names (a : NamedArray) : List String := a.entries.map (·.1)

def size (a : NamedArray) : Nat := a.entries.length

def isEmpty (a : NamedArray) : Bool := a.entries.isEmpty

def get? (a : NamedArray) (name : String) : Option Tree := Entries.get? name a.entries

def entryAt? (a : NamedArray) (i : Nat) : Option (String × Tree) := a.entries[i]?

/-- The entries with `v` in the place of what is under `name`, at the end if there is nothing. -/
def setEntry (name : String) (v : Tree) : List (String × Tree) → List (String × Tree)
  | [] => [(name, v)]
  | (j, w) :: rest => if j = name then (j, v) :: rest else (j, w) :: setEntry name v rest

theorem keys_setEntry (name : String) (v : Tree) (es : List (String × Tree)) :
    (setEntry name v es).map (·.1) =
      if name ∈ es.map (·.1) then es.map (·.1) else es.map (·.1) ++ [name] := by
  induction es with
  | nil => simp [setEntry]
  | cons e es ih =>
    obtain ⟨j, w⟩ := e
    simp only [setEntry]
    by_cases h : j = name
    · simp [h]
    · have h' : name ≠ j := Ne.symm h
      simp only [h, ↓reduceIte, List.map_cons, ih, List.mem_cons, h', false_or]
      split <;> simp

theorem nodup_keys_setEntry {name : String} {v : Tree} {es : List (String × Tree)}
    (h : (es.map (·.1)).Nodup) : ((setEntry name v es).map (·.1)).Nodup := by
  rw [keys_setEntry]
  split
  · exact h
  · next hn =>
    rw [List.nodup_append]
    refine ⟨h, by simp, ?_⟩
    intro a ha b hb
    simp only [List.mem_singleton] at hb
    subst hb
    exact fun he => hn (he ▸ ha)

/-- Puts `v` under `name`, in the place of the element that was there. -/
def set (a : NamedArray) (name : String) (v : Tree) : NamedArray :=
  ⟨setEntry name v a.entries, nodup_keys_setEntry a.nodup⟩

/-- Puts `v` in the place of the element under `name`, if there is one. -/
def replace? (a : NamedArray) (name : String) (v : Tree) : Option NamedArray :=
  if (a.get? name).isSome then some (a.set name v) else none

end NamedArray

end PreviewEnv
