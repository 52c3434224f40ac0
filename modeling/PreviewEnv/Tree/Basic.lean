import PreviewEnv.Binary64
import PreviewEnv.Tree.Entries

/-!
Manifest trees: null, truth values, numbers, text, arrays and maps. A number is an integer or a
float, and the two differ even where they stand for one value. The entries of a map are in the order
of their keys wherever a tree is read or built.
-/

namespace PreviewEnv

/-- A manifest or a part of one. -/
inductive Tree where
  | null
  | bool (b : Bool)
  | int (n : Int)
  | float (x : Binary64)
  | str (s : String)
  | arr (items : List Tree)
  | map (entries : List (String × Tree))
deriving Inhabited

namespace Tree

mutual

/-- Whether two trees are one and the same, their floats bit by bit. -/
def beq : Tree → Tree → Bool
  | null, null => true
  | bool a, bool b => a == b
  | int a, int b => a == b
  | float a, float b => a == b
  | str a, str b => a == b
  | arr as, arr bs => beqItems as bs
  | map as, map bs => beqEntries as bs
  | _, _ => false

def beqItems : List Tree → List Tree → Bool
  | [], [] => true
  | a :: as, b :: bs => beq a b && beqItems as bs
  | _, _ => false

def beqEntries : List (String × Tree) → List (String × Tree) → Bool
  | [], [] => true
  | (j, a) :: as, (k, b) :: bs => j == k && (beq a b && beqEntries as bs)
  | _, _ => false

end

mutual

theorem eq_of_beq : ∀ {a b : Tree}, beq a b = true → a = b
  | null, b, h => by cases b <;> simp_all [beq]
  | bool _, b, h => by cases b <;> simp_all [beq]
  | int _, b, h => by cases b <;> simp_all [beq]
  | float _, b, h => by cases b <;> simp_all [beq]
  | str _, b, h => by cases b <;> simp_all [beq]
  | arr as, b, h => by
    cases b <;> simp only [beq, Bool.false_eq_true] at h
    rw [eqItems_of_beqItems h]
  | map as, b, h => by
    cases b <;> simp only [beq, Bool.false_eq_true] at h
    rw [eqEntries_of_beqEntries h]

theorem eqItems_of_beqItems : ∀ {as bs : List Tree}, beqItems as bs = true → as = bs
  | [], [], _ => rfl
  | a :: as, b :: bs, h => by
    simp only [beqItems, Bool.and_eq_true] at h
    rw [eq_of_beq h.1, eqItems_of_beqItems h.2]
  | [], _ :: _, h => by simp [beqItems] at h
  | _ :: _, [], h => by simp [beqItems] at h

theorem eqEntries_of_beqEntries :
    ∀ {as bs : List (String × Tree)}, beqEntries as bs = true → as = bs
  | [], [], _ => rfl
  | (j, a) :: as, (k, b) :: bs, h => by
    simp only [beqEntries, Bool.and_eq_true, beq_iff_eq] at h
    rw [h.1, eq_of_beq h.2.1, eqEntries_of_beqEntries h.2.2]
  | [], _ :: _, h => by simp [beqEntries] at h
  | _ :: _, [], h => by simp [beqEntries] at h

end

mutual

theorem beq_self : ∀ a : Tree, beq a a = true
  | null => rfl
  | bool _ => by simp [beq]
  | int _ => by simp [beq]
  | float _ => by simp [beq]
  | str _ => by simp [beq]
  | arr as => by simpa [beq] using beqItems_self as
  | map as => by simpa [beq] using beqEntries_self as

theorem beqItems_self : ∀ as : List Tree, beqItems as as = true
  | [] => rfl
  | a :: as => by simp [beqItems, beq_self a, beqItems_self as]

theorem beqEntries_self : ∀ as : List (String × Tree), beqEntries as as = true
  | [] => rfl
  | (k, a) :: as => by simp [beqEntries, beq_self a, beqEntries_self as]

end

instance : DecidableEq Tree := fun a b =>
  decidable_of_iff (beq a b = true) ⟨eq_of_beq, fun h => h ▸ beq_self a⟩

/-- The empty map. -/
def empty : Tree := map []

def isNull : Tree → Bool
  | null => true
  | _ => false

/-- The value under a key of a map. -/
def get? (key : String) : Tree → Option Tree
  | map es => Entries.get? key es
  | _ => none

def str? : Tree → Option String
  | str s => some s
  | _ => none

def int? : Tree → Option Int
  | int n => some n
  | _ => none

def items? : Tree → Option (List Tree)
  | arr items => some items
  | _ => none

/-- The value at the end of a path of map keys. -/
def at? : List String → Tree → Option Tree
  | [], t => some t
  | k :: ks, t => (t.get? k).bind (at? ks)

/-- The text at the end of a path of map keys, empty if there is none. -/
def textAt (keys : List String) (t : Tree) : String :=
  ((t.at? keys).bind str?).getD ""

/-- A map with the given entries. -/
def ofEntries (pairs : List (String × Tree)) : Tree := map (Entries.ofList pairs)

mutual

/-- How deep containers are nested; an empty container and anything else but a container has
depth 0. -/
def depth : Tree → Nat
  | arr items => depthItems items
  | map es => depthEntries es
  | _ => 0

def depthItems : List Tree → Nat
  | [] => 0
  | t :: ts => max (depth t + 1) (depthItems ts)

def depthEntries : List (String × Tree) → Nat
  | [] => 0
  | (_, t) :: es => max (depth t + 1) (depthEntries es)

end

mutual

/-- The keys of every map in the tree are in ascending order. -/
def Ordered : Tree → Prop
  | arr items => OrderedItems items
  | map es => Entries.Ordered es ∧ OrderedEntries es
  | _ => True

def OrderedItems : List Tree → Prop
  | [] => True
  | t :: ts => Ordered t ∧ OrderedItems ts

def OrderedEntries : List (String × Tree) → Prop
  | [] => True
  | (_, t) :: es => Ordered t ∧ OrderedEntries es

end

end Tree

end PreviewEnv
