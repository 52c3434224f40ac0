import PreviewEnv.Proofs.Tree.Lookup
import PreviewEnv.Reduce.Nested
import PreviewEnv.Reduce.Pipeline

namespace PreviewEnv

/-- Outcomes can be compared, so that runs on given trees can be evaluated. -/
instance decidableEqOutcome {ε α : Type} [DecidableEq ε] [DecidableEq α] :
    DecidableEq (Except ε α)
  | .ok a, .ok b => decidable_of_iff (a = b) (by simp)
  | .error d, .error e => decidable_of_iff (d = e) (by simp)
  | .ok _, .error _ | .error _, .ok _ => .isFalse (by simp)

section
variable {ε ε' α β : Type} {x : Except ε α} {a : α} {b : β}

theorem bind_eq_ok_iff {f : α → Except ε β} :
    (x >>= f) = .ok b ↔ ∃ a, x = .ok a ∧ f a = .ok b := by
  cases x <;> simp [bind, Except.bind]

theorem map_eq_ok_iff {g : α → β} : g <$> x = .ok b ↔ ∃ a, x = .ok a ∧ g a = b := by
  cases x <;> simp [Functor.map, Except.map]

theorem toOption_eq_some_iff : x.toOption = some a ↔ x = .ok a := by
  cases x <;> simp [Except.toOption]

theorem mapError_eq_ok_iff {place : ε → ε'} : x.mapError place = .ok a ↔ x = .ok a := by
  cases x <;> simp [Except.mapError]

end

namespace Traced

variable {α β : Type} {x y : Traced α} {f : α → Traced β} {a : α} {b : β} {e : ReduceError}
  {place : ReduceError → ReduceError}

@[simp] theorem outcome_pure : (pure a : Traced α).outcome = .ok a := rfl

@[simp] theorem outcome_ofExcept {r : Except ReduceError α} : (ofExcept r).outcome = r := rfl

theorem outcome_bind : (x >>= f).outcome = x.outcome >>= fun a => (f a).outcome := by
  obtain ⟨events, outcome⟩ := x
  cases outcome <;> rfl

theorem outcome_map {g : α → β} : (g <$> x).outcome = g <$> x.outcome := by
  obtain ⟨events, outcome⟩ := x
  cases outcome <;> rfl

theorem bind_of_ok (h : x.outcome = .ok a) :
    x >>= f = ⟨x.events ++ (f a).events, (f a).outcome⟩ := by
  obtain ⟨events, outcome⟩ := x
  cases h
  rfl

theorem bind_of_error (h : x.outcome = .error e) : x >>= f = ⟨x.events, .error e⟩ := by
  obtain ⟨events, outcome⟩ := x
  cases h
  rfl

theorem map_eq_mk {g : α → β} : g <$> x = ⟨x.events, g <$> x.outcome⟩ := by
  obtain ⟨events, outcome⟩ := x
  cases outcome with
  | ok a => exact congrArg (Traced.mk · _) (List.append_nil events)
  | error e => rfl

theorem outcome_locate : (x.locate place).outcome = x.outcome.mapError place := rfl

/-- A computation in two parts succeeds when both do. -/
theorem bind_eq_ok_iff :
    (x >>= f).outcome = .ok b ↔ ∃ a, x.outcome = .ok a ∧ (f a).outcome = .ok b := by
  rw [outcome_bind, PreviewEnv.bind_eq_ok_iff]

@[simp] theorem locate_eq_ok_iff : (x.locate place).outcome = .ok a ↔ x.outcome = .ok a := by
  rw [outcome_locate, mapError_eq_ok_iff]

theorem ext_of_parts (hevents : x.events = y.events) (houtcome : x.outcome = y.outcome) :
    x = y := by
  cases x
  cases y
  cases hevents
  cases houtcome
  rfl

instance : LawfulMonad Traced := LawfulMonad.mk' Traced
  (fun x => by
    obtain ⟨events, outcome⟩ := x
    cases outcome
    · rfl
    · exact ext_of_parts (List.append_nil _) rfl)
  (fun _ _ => rfl)
  (fun x f g => by
    obtain ⟨events, outcome⟩ := x
    cases outcome with
    | error e => rfl
    | ok a =>
      simp only [bind]
      cases (f a).outcome with
      | error e => rfl
      | ok b => exact ext_of_parts (List.append_assoc _ _ _) rfl)

theorem locate_id : x.locate id = x := by
  obtain ⟨events, outcome⟩ := x
  cases outcome <;> rfl

theorem locate_map {g : α → β} : (g <$> x).locate place = g <$> x.locate place := by
  obtain ⟨events, outcome⟩ := x
  cases outcome <;> rfl

end Traced

namespace Pipeline

variable {r : Reducer} {rs ss : List Reducer} {t u v : Tree} {n : Nat}

/-- The stages lead from the one tree to the other. -/
def Leads : List Reducer → Tree → Tree → Prop
  | [], t, u => t = u
  | r :: rs, t, u => ∃ v, (r t).outcome = .ok v ∧ Leads rs v u

theorem leads_append : Leads (rs ++ ss) t u ↔ ∃ v, Leads rs t v ∧ Leads ss v u := by
  induction rs generalizing t with
  | nil => simp [Leads]
  | cons r rs ih =>
    simp only [List.cons_append, Leads, ih]
    constructor
    · rintro ⟨v, hv, w, hw, hu⟩
      exact ⟨w, ⟨v, hv, hw⟩, hu⟩
    · rintro ⟨w, ⟨v, hv, hw⟩, hu⟩
      exact ⟨v, hv, w, hw, hu⟩

theorem reduceFrom_eq_ok_iff : (reduceFrom n rs t).outcome = .ok u ↔ Leads rs t u := by
  induction rs generalizing n t with
  | nil => simp [reduceFrom, Leads]
  | cons r rs ih => simp [reduceFrom, Leads, Traced.bind_eq_ok_iff, ih]

/-- A pipeline succeeds when its stages lead from the input to the result. -/
theorem reduce_eq_ok_iff {p : Pipeline} : (p.reduce t).outcome = .ok u ↔ Leads p.stages t u :=
  reduceFrom_eq_ok_iff

end Pipeline

namespace Tree

variable {t : Tree} {k : String} {ks : List String}

/-- Whether the values on the way to the end of the path, that end left out, are maps or null. -/
def openTo : List String → Tree → Bool
  | [], _ => true
  | k :: ks, t => t.isOpen && openTo ks (t.child k)

end Tree

namespace Reducer

open PreviewEnv.Tree

variable {r : Reducer} {t u v : Tree} {k : String} {ks : List String} {input output : Option Tree}

/-- What becomes of a map, or of null, when a value in it has been reduced. -/
def replaced (k : String) (t : Tree) : Option Tree → Option Tree
  | some v => some (.map (Entries.insert k v t.entries))
  | none => if t = null then none else some (.map (Entries.erase k t.entries))

theorem reducePath_nil_eq_ok_iff :
    (reducePath r [] input).outcome = .ok output ↔
      ∃ u, (r (input.getD .null)).outcome = .ok u ∧
        output = if input.isNone && u.isNull then none else some u := by
  rw [reducePath, Traced.bind_eq_ok_iff]
  simp only [Traced.outcome_pure, Except.ok.injEq, eq_comm]

/-- One key down the path: a map, or null, gets what the value under the key becomes. -/
theorem reducePath_cons :
    reducePath r (k :: ks) input =
      if (input.getD .null).isOpen = true then
        replaced k (input.getD .null) <$> reducePath r ks ((input.getD .null).get? k)
      else .fail .notMap := by
  rw [map_eq_pure_bind]
  cases input with
  | none => exact congrArg (reducePath r ks none >>= ·) (funext fun o => by cases o <;> rfl)
  | some t =>
    cases t with
    | null => exact congrArg (reducePath r ks none >>= ·) (funext fun o => by cases o <;> rfl)
    | map es =>
      exact congrArg (reducePath r ks (Entries.get? k es) >>= ·)
        (funext fun o => by cases o <;> rfl)
    | _ => rfl

theorem reducePath_cons_eq_ok_iff :
    (reducePath r (k :: ks) input).outcome = .ok output ↔
      (input.getD .null).isOpen = true ∧ ∃ inner,
        (reducePath r ks ((input.getD .null).get? k)).outcome = .ok inner ∧
          output = replaced k (input.getD .null) inner := by
  rw [reducePath_cons]
  cases (input.getD .null).isOpen with
  | true =>
    rw [if_pos rfl, Traced.outcome_map, map_eq_ok_iff]
    simp only [true_and, eq_comm (a := output)]
  | false => simp [Traced.fail]

/-- Under no keys there is the value itself. -/
theorem reduceNested_nil : reduceNested [] r t = r t := by
  have hrun : reduceNested [] r t =
      ((fun v => some v) <$> r t).locate id >>= fun output => pure (output.getD .null) := rfl
  rw [hrun, Traced.locate_map, Traced.locate_id, map_eq_pure_bind, bind_assoc]
  exact bind_pure _

/-- The stage that reduces what is under the keys succeeds when the reducer does. -/
theorem reduceNested_eq_ok_iff :
    (reduceNested ks r t).outcome = .ok u ↔
      ∃ output, (reducePath r ks (some t)).outcome = .ok output ∧ u = output.getD .null := by
  rw [reduceNested, Traced.bind_eq_ok_iff]
  apply exists_congr
  intro output
  rw [Traced.locate_eq_ok_iff, Traced.outcome_pure, Except.ok.injEq, eq_comm (a := u)]

theorem reducePath_const_eq_ok_iff (hv : v ≠ .null) :
    (reducePath (fun _ => pure v) ks input).outcome = .ok output ↔
      openTo ks (input.getD .null) = true ∧ output = some ((input.getD .null).put ks v) := by
  induction ks generalizing input output with
  | nil =>
    rw [reducePath_nil_eq_ok_iff]
    simp [openTo, isNull_eq_false.2 hv, Tree.put]
  | cons k ks ih =>
    rw [reducePath_cons_eq_ok_iff, openTo, put_cons, Bool.and_eq_true]
    simp only [ih, child]
    constructor
    · rintro ⟨ho, _, ⟨hks, rfl⟩, rfl⟩
      exact ⟨⟨ho, hks⟩, rfl⟩
    · rintro ⟨⟨ho, hks⟩, rfl⟩
      exact ⟨ho, _, ⟨hks, rfl⟩, rfl⟩

/-- A value can be set where the values on the way are maps or null, and is then put there. -/
theorem setNested_eq_ok_iff (hv : v ≠ .null) :
    (setNested ks v t).outcome = .ok u ↔ openTo ks t = true ∧ u = t.put ks v := by
  rw [setNested, reduceNested_eq_ok_iff]
  simp only [reducePath_const_eq_ok_iff hv, Option.getD_some]
  constructor
  · rintro ⟨_, ⟨ho, rfl⟩, rfl⟩
    exact ⟨ho, rfl⟩
  · rintro ⟨ho, rfl⟩
    exact ⟨_, ⟨ho, rfl⟩, rfl⟩

end Reducer

end PreviewEnv
