/-!
The entries of a map: a list of keys with values, kept in the order of the keys. Texts are ordered
by their code points, which is also the order of their UTF-8 bytes. Look-up after insertion and
after erasure is as expected of any list of entries, in order or not.
-/

namespace PreviewEnv.Entries

variable {κ α : Type} [DecidableEq κ] {k j : κ} {v : α} {es : List (κ × α)}

/-- The value under a key. -/
def get? (k : κ) : List (κ × α) → Option α
  | [] => none
  | (j, v) :: rest => if j = k then some v else get? k rest

/-- The entries with `v` under `k`, in place of what was there. -/
def insert [LT κ] [DecidableLT κ] (k : κ) (v : α) : List (κ × α) → List (κ × α)
  | [] => [(k, v)]
  | (j, w) :: rest =>
    if j = k then (k, v) :: rest
    else if k < j then (k, v) :: (j, w) :: rest
    else (j, w) :: insert k v rest

/-- The entries without the key. -/
def erase (k : κ) (es : List (κ × α)) : List (κ × α) :=
  es.filter fun e => e.1 ≠ k

/-- The entries of a list of pairs, a later pair replacing an earlier one of the same key. -/
def ofList [LT κ] [DecidableLT κ] (pairs : List (κ × α)) : List (κ × α) :=
  pairs.foldl (fun es e => insert e.1 e.2 es) []

/-- The keys are in strictly ascending order. -/
def Ordered [LT κ] (es : List (κ × α)) : Prop := es.Pairwise fun a b => a.1 < b.1

@[simp] theorem get?_nil : get? k ([] : List (κ × α)) = none := rfl

theorem get?_cons : get? k ((j, v) :: es) = if j = k then some v else get? k es := rfl

theorem get?_insert [LT κ] [DecidableLT κ] :
    get? j (insert k v es) = if k = j then some v else get? j es := by
  induction es with
  | nil => simp [insert, get?_cons]
  | cons e es ih =>
    obtain ⟨i, w⟩ := e
    simp only [insert]
    split
    · subst i; simp only [get?_cons]; split <;> rfl
    · next hi =>
      split
      · simp [get?_cons]
      · simp only [get?_cons, ih]
        split
        · next h => simp [← h, Ne.symm hi]
        · rfl

theorem get?_erase : get? j (erase k es) = if k = j then none else get? j es := by
  induction es with
  | nil => simp [erase]
  | cons e es ih =>
    obtain ⟨i, w⟩ := e
    simp only [erase, List.filter_cons]
    by_cases hi : i = k
    · subst hi
      simp only [ne_eq, not_true, decide_false, Bool.false_eq_true, ↓reduceIte]
      have := ih
      simp only [erase] at this
      rw [this, get?_cons]
      split <;> rfl
    · simp only [ne_eq, hi, not_false_eq_true, decide_true, ↓reduceIte, get?_cons]
      have := ih
      simp only [erase] at this
      rw [this]
      split
      · next h => simp [← h, Ne.symm hi]
      · rfl

end PreviewEnv.Entries
