import PreviewEnv.Proofs.Tree.Lookup
import PreviewEnv.Reduce.Error

/-!
Values are visited depth first, the keys of a map and the positions of an array in
their order. `Earlier` says which of two paths comes first on such a visit;
`ReduceError.along` is the error of a visit that stops at the end of a path.
-/

namespace PreviewEnv

open PreviewEnv.Tree (Step)

/-- The error with the steps that lead to it around it, the first of them outermost. -/
def ReduceError.along : List Step → ReduceError → ReduceError
  | [], e => e
  | .key k :: path, e => .atKey k (e.along path)
  | .index i :: path, e => .atIndex i (e.along path)

theorem ReduceError.along_cons (step : Step) (path : List Step) (e : ReduceError) :
    e.along (step :: path) = (e.along path).along [step] := by
  cases step <;> rfl

namespace Tree

variable {p q c : Tree} {step other : Step} {path path' : List Step}

/-- Which of two steps out of one value comes first. -/
def Step.Before : Step → Step → Prop
  | .key j, .key k => j < k
  | .index i, .index j => i < j
  | _, _ => False

/-- Which of two paths comes first when values are visited depth first. -/
def Earlier : List Step → List Step → Prop := List.Lex Step.Before

theorem Step.not_before_self (step : Step) : ¬ step.Before step := by
  cases step with
  | key k => exact irrefl (r := (· < ·)) k
  | index i => exact Nat.lt_irrefl i

theorem Step.not_before_of_before (h : step.Before other) : ¬ other.Before step := by
  cases step <;> cases other <;> simp only [Before] at h ⊢
  · exact asymm h
  · exact asymm h

theorem Step.not_before_zero : ¬ other.Before (.index 0) := by
  cases other with
  | key k => exact id
  | index i => exact Nat.not_lt_zero i

/-- Of two steps out of one value, one comes first. -/
theorem Step.before_or_eq (h : p.part? step = some q) (h' : p.part? other = some c) :
    other.Before step ∨ other = step ∨ step.Before other := by
  cases step with
  | key k =>
    obtain ⟨es, rfl⟩ := exists_map_of_part? h
    cases other with
    | key j =>
      rcases trichotomous_of (· < ·) j k with hlt | rfl | hgt
      · exact .inl hlt
      · exact .inr (.inl rfl)
      · exact .inr (.inr hgt)
    | index j => cases h'
  | index i =>
    obtain ⟨ts, rfl⟩ := exists_arr_of_part? h
    cases other with
    | key j => cases h'
    | index j =>
      rcases Nat.lt_trichotomy j i with hlt | rfl | hgt
      · exact .inl hlt
      · exact .inr (.inl rfl)
      · exact .inr (.inr hgt)

theorem not_earlier_of_earlier (h : Earlier path path') : ¬ Earlier path' path := by
  induction h with
  | nil => exact List.not_lex_nil
  | cons _ ih =>
    intro h'
    cases h' with
    | cons h' => exact ih h'
    | rel h' => exact Step.not_before_self _ h'
  | rel h =>
    intro h'
    cases h' with
    | cons => exact Step.not_before_self _ h
    | rel h' => exact Step.not_before_of_before h h'

end Tree

end PreviewEnv
