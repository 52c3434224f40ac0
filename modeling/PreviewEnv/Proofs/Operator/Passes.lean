import PreviewEnv.Operator.Reconcile
import PreviewEnv.Proofs.Apply.Calls

namespace PreviewEnv

/-- The store, for programs that keep a state of their own. -/
def ObjectStore.withState (σ : Type) (store : ObjectStore (StateM Memory)) :
    ObjectStore (StateT σ (StateM Memory)) where
  get kind ns name := StateT.lift (store.get kind ns name)
  create kind ns object := StateT.lift (store.create kind ns object)
  update kind ns object := StateT.lift (store.update kind ns object)

section
variable {σ α β ε : Type}

/-- The computation in a program that keeps a state of its own, which it leaves alone. -/
def withState (σ : Type) (x : ExceptT ε (StateM Memory) α) :
    ExceptT ε (StateT σ (StateM Memory)) α :=
  ExceptT.mk (StateT.lift x.run)

theorem withState_bind (x : ExceptT ε (StateM Memory) α) (f : α → ExceptT ε (StateM Memory) β) :
    withState σ (x >>= f) = withState σ x >>= fun a => withState σ (f a) := by
  funext u s
  change ((((x >>= f).run s).1, u), ((x >>= f).run s).2) =
    ExceptT.bindCont (fun a => withState σ (f a)) (x.run s).1 u (x.run s).2
  rcases h : x.run s with ⟨e | a, s'⟩
  · rw [run_bind_of_error h]
    rfl
  · rw [run_bind_of_ok h]
    rfl

theorem run_bind_withState {x : StateT σ (StateM Memory) α} {f : α → StateT σ (StateM Memory) β}
    {a : α} {u u' : σ} {s s' : Memory} (h : (x.run u).run s = ((a, u'), s')) :
    ((x >>= f).run u).run s = ((f a).run u').run s' := by
  change ((f ((x.run u).run s).1.1).run ((x.run u).run s).1.2).run ((x.run u).run s).2 = _
  rw [h]

end

section
variable {σ : Type} {store : ObjectStore (StateM Memory)} {kind : GroupVersionKind} {ns : String}
  {engine : Template.Engine} {target : Target} {context declaration rendered object : Tree}
  {applied : Option Tree}

theorem getOriginal_withState :
    getOriginal (store.withState σ) kind ns rendered =
      withState σ (getOriginal store kind ns rendered) := by
  simp only [getOriginal]
  split
  · rfl
  · rfl

theorem writeObject_withState :
    writeObject (store.withState σ) kind ns object applied =
      withState σ (writeObject store kind ns object applied) := by
  cases applied with
  | none =>
    rw [writeObject, writeObject, withState_bind]
    rfl
  | some found =>
    rw [writeObject, writeObject]
    split
    · rfl
    · rw [withState_bind]
      rfl

/-- The state of the program has no part in applying a declaration. -/
theorem apply_withState :
    apply (store.withState σ) engine target context declaration =
      StateT.lift (apply store engine target context declaration) := by
  unfold apply
  change ExceptT.run _ = ExceptT.run (withState σ _)
  simp only [withState_bind, getOriginal_withState, writeObject_withState]
  rfl

end

/-- Recording an event does nothing to the cluster. -/
def EventRecorder.LeavesCluster {σ : Type} (recorder : EventRecorder (StateT σ (StateM Memory))) :
    Prop :=
  ∀ regarding event u s, (((recorder.record regarding event).run u).run s).2 = s

section
variable {σ : Type} {failures : Memory.Schedule}
  {recorder : EventRecorder (StateT σ (StateM Memory))} {target : Target} {engine : Template.Engine}
  {context declaration : Tree} {regarding : ObjectReference} {index : Nat}
  {declarations : List Tree} {u u' v : σ} {s s' s'' : Memory} {reasons : List Reason}
  {outcome : Outcome} {answer : Except ClusterError Unit}
  {result : Except OperatorError (List Reason)}

/-- A pass over declarations, from a state of the program and of the cluster. -/
abbrev runPass (failures : Memory.Schedule) (recorder : EventRecorder (StateT σ (StateM Memory)))
    (engine : Template.Engine) (target : Target) (context : Tree) (regarding : ObjectReference)
    (index : Nat)
    (declarations : List Tree) (u : σ) (s : Memory) :
    (Except OperatorError (List Reason) × σ) × Memory :=
  ((applyAll ((Memory.store failures).withState σ) recorder engine target context regarding index
    declarations).run u).run s

/-- A pass whose first declaration has been applied and reported on. -/
theorem runPass_cons_of_run
    (hrun : (apply (Memory.store failures) engine target context declaration).run s = (outcome, s'))
    (hrecord : ((recorder.record regarding outcome.event).run u).run s' = ((answer, v), s'')) :
    runPass failures recorder engine target context regarding index (declaration :: declarations)
        u s =
      match outcome with
      | .error e => ((.error (.apply index e), v), s'')
      | .ok applied =>
        let rest :=
          runPass failures recorder engine target context regarding (index + 1) declarations v s''
        ((rest.1.1.map (applied.reason :: ·), rest.1.2), rest.2) := by
  have hfirst : ((apply ((Memory.store failures).withState σ) engine target context declaration).run
      u).run s = ((outcome, u), s') := by
    rw [apply_withState]
    change ((((apply (Memory.store failures) engine target context declaration).run s).1, u),
      ((apply (Memory.store failures) engine target context declaration).run s).2) = _
    rw [hrun]
  rw [runPass, applyAll, run_bind_withState hfirst, run_bind_withState hrecord]
  cases outcome with
  | error e => rfl
  | ok applied =>
    rcases hrest : runPass failures recorder engine target context regarding (index + 1)
      declarations v s''
      with ⟨⟨rest, w⟩, t⟩
    simp only
    rw [run_bind_withState hrest]
    rfl

/-- What a pass does with its first declaration: it stops there, or goes on with the others. -/
theorem runPass_cons (hrecorder : recorder.LeavesCluster)
    (h : runPass failures recorder engine target context regarding index
      (declaration :: declarations) u
      s = ((result, u'), s'')) :
    ∃ outcome s', Applies failures engine target context declaration s outcome s' ∧
      ((∃ e, outcome = .error e ∧ result = .error (.apply index e) ∧ s'' = s') ∨
        ∃ applied v rest, outcome = .ok applied ∧
          runPass failures recorder engine target context regarding (index + 1) declarations v s' =
            ((rest, u'), s'') ∧
          result = rest.map (applied.reason :: ·)) := by
  rcases hrun : (apply (Memory.store failures) engine target context declaration).run s with
    ⟨outcome, s'⟩
  rcases hrecord : ((recorder.record regarding outcome.event).run u).run s' with ⟨⟨answer, v⟩, t⟩
  have ht : t = s' := by
    have := hrecorder regarding outcome.event u s'
    rwa [hrecord] at this
  subst ht
  refine ⟨outcome, t, applies_of_run hrun, ?_⟩
  rw [runPass_cons_of_run hrun hrecord] at h
  cases outcome with
  | error e =>
    cases h
    exact .inl ⟨e, rfl, rfl, rfl⟩
  | ok applied =>
    cases h
    exact .inr ⟨applied, v, _, rfl, rfl, rfl⟩

/-- Declarations have been applied one after the other, each with success. -/
inductive Passes (failures : Memory.Schedule) (engine : Template.Engine) (target : Target)
    (context : Tree) :
    List Tree → Memory → Memory → Prop
  | nil {s : Memory} : Passes failures engine target context [] s s
  | cons {declaration : Tree} {declarations : List Tree} {s s' s'' : Memory} {applied : Applied}
      (h : Applies failures engine target context declaration s (.ok applied) s')
      (hrest : Passes failures engine target context declarations s' s'') :
      Passes failures engine target context (declaration :: declarations) s s''

/-- A pass that succeeds applies every declaration. -/
theorem passes_of_runPass (hrecorder : recorder.LeavesCluster)
    (h : runPass failures recorder engine target context regarding index declarations u s =
      ((.ok reasons, u'), s')) :
    Passes failures engine target context declarations s s' := by
  induction declarations generalizing index u s reasons with
  | nil =>
    cases h
    exact .nil
  | cons declaration declarations ih =>
    obtain ⟨outcome, s₁, happlies, hcases⟩ := runPass_cons hrecorder h
    rcases hcases with ⟨e, -, hresult, -⟩ | ⟨applied, v, rest, rfl, hrest, hresult⟩
    · cases hresult
    · cases rest with
      | error e => cases hresult
      | ok reasons => exact .cons happlies (ih hrest)

/-- Calls are only ever added to those made so far. -/
theorem length_calls_le (h : Applies failures engine target context declaration s outcome s') :
    s.calls.length ≤ s'.calls.length := by
  cases h with
  | unfit | unrendered => exact Nat.le_refl _
  | _ => simp [Memory.logged]

theorem length_calls_le_runPass (hrecorder : recorder.LeavesCluster)
    (h : runPass failures recorder engine target context regarding index declarations u s =
      ((result, u'), s')) :
    s.calls.length ≤ s'.calls.length := by
  induction declarations generalizing index u s result with
  | nil =>
    cases h
    exact Nat.le_refl _
  | cons declaration declarations ih =>
    obtain ⟨outcome, s₁, happlies, hcases⟩ := runPass_cons hrecorder h
    have hle := length_calls_le happlies
    rcases hcases with ⟨e, -, -, rfl⟩ | ⟨applied, v, rest, -, hrest, -⟩
    · exact hle
    · exact Nat.le_trans hle (ih hrest)

end

end PreviewEnv
