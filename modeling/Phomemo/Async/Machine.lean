import Phomemo.Async.History

/-!
# Runs of a state machine

A machine whose steps may be refused, and the rules that carry an invariant along its runs.  The
invariant may speak about the actions taken so far.
-/

namespace Phomemo.Async

variable {σ α : Type}

/-- The state after a run, unless one of the actions was refused. -/
def runs (step : σ → α → Option σ) (start : σ) (actions : List α) : Option σ :=
  actions.foldlM step start

variable {step : σ → α → Option σ} {start : σ} {condition : σ → α → Prop}

@[simp]
theorem runs_nil : runs step start [] = some start := rfl

theorem runs_concat (actions : List α) (action : α) :
    runs step start (actions ++ [action]) =
      (runs step start actions).bind fun state => step state action := by
  simp [runs, List.foldlM_append]

/-- What the start has and every step keeps, every run ends with. -/
theorem runs_induction {inv : List α → σ → Prop} (initial : inv [] start)
    (kept : ∀ past state action next, inv past state → step state action = some next →
      inv (past ++ [action]) next)
    {actions : List α} {final : σ} (ran : runs step start actions = some final) :
    inv actions final := by
  induction actions using List.reverseRecOn generalizing final with
  | nil =>
      obtain rfl := Option.some.inj ran
      exact initial
  | append_singleton actions action ih =>
      rw [runs_concat] at ran
      obtain ⟨state, before, stepped⟩ := Option.bind_eq_some_iff.mp ran
      exact kept actions state action final (ih before) stepped

/-- The rule of induction where the invariant's step knows that its state was reached. -/
theorem runs_induction_reached {inv : List α → σ → Prop} (initial : inv [] start)
    (kept : ∀ past state action next, runs step start past = some state → inv past state →
      step state action = some next → inv (past ++ [action]) next)
    {actions : List α} {final : σ} (ran : runs step start actions = some final) :
    inv actions final := by
  have both : runs step start actions = some final ∧ inv actions final := by
    apply @runs_induction σ α step start
      (fun past state => runs step start past = some state ∧ inv past state)
    · exact ⟨rfl, initial⟩
    · intro past state action next before stepped
      refine ⟨?_, kept past state action next before.1 before.2 stepped⟩
      rw [runs_concat, before.1]
      exact stepped
    · exact ran
  exact both.2

/-- An action meets a condition in the state the run before it has reached. -/
def Meets (step : σ → α → Option σ) (start : σ) (condition : σ → α → Prop) (past : List α)
    (action : α) : Prop :=
  ∀ state ∈ runs step start past, condition state action

instance [∀ state, DecidablePred (condition state)] (past : List α) :
    DecidablePred (Meets step start condition past) :=
  fun action => inferInstanceAs (Decidable (∀ state ∈ runs step start past, condition state action))

/-- What the start has, and every step that meets the condition keeps, the runs whose actions all
meet it end with. -/
theorem runs_induction_meeting {inv : σ → Prop} (initial : inv start)
    (kept : ∀ state action next, inv state → condition state action →
      step state action = some next → inv next)
    {actions : List α} {final : σ} (ran : runs step start actions = some final)
    (throughout : Throughout (Meets step start condition) actions) : inv final := by
  induction actions using List.reverseRecOn generalizing final with
  | nil =>
      obtain rfl := Option.some.inj ran
      exact initial
  | append_singleton actions action ih =>
      rw [runs_concat] at ran
      obtain ⟨state, before, stepped⟩ := Option.bind_eq_some_iff.mp ran
      exact kept state action final (ih before throughout.of_concat)
        (throughout.last state before) stepped

/-- Where an invariant of the runs makes a condition imply another, every action of the runs meets
the other too. -/
theorem meets_of_invariant {inv : σ → Prop} {other : σ → α → Prop} (initial : inv start)
    (kept : ∀ state action next, inv state → condition state action →
      step state action = some next → inv next)
    (implied : ∀ state action, inv state → condition state action → other state action)
    {actions : List α} (throughout : Throughout (Meets step start condition) actions) :
    Throughout (Meets step start other) actions := by
  rintro before action after rfl state reached
  have holds : Throughout (Meets step start condition) before := throughout.of_append
  apply implied state action (runs_induction_meeting initial kept reached holds)
  exact throughout before action after rfl state reached

/-- Some action of the run was of a kind, judged in the state it was taken in. -/
def Occurred (step : σ → α → Option σ) (start : σ) (kind : σ → α → Prop) (past : List α) : Prop :=
  ∃ before action after, past = before ++ action :: after ∧
    ∃ state, runs step start before = some state ∧ kind state action

theorem not_occurred_nil : ¬Occurred step start condition [] := by
  rintro ⟨before, action, after, split, -⟩
  simp at split

theorem occurred_concat {past : List α} {state : σ} (reached : runs step start past = some state)
    (action : α) :
    Occurred step start condition (past ++ [action]) ↔
      Occurred step start condition past ∨ condition state action := by
  constructor
  · rintro ⟨before, other, after, split, found, reachedThere, isKind⟩
    rcases List.eq_nil_or_concat after with rfl | ⟨rest, last, rfl⟩
    · obtain ⟨rfl, same⟩ := List.append_inj' split rfl
      obtain rfl := (List.cons.inj same).1
      obtain rfl := Option.some.inj (reached.symm.trans reachedThere)
      exact .inr isKind
    · rw [List.concat_eq_append, ← List.cons_append, ← List.append_assoc] at split
      obtain ⟨same, -⟩ := List.append_inj' split rfl
      exact .inl ⟨before, other, rest, same, found, reachedThere, isKind⟩
  · rintro (⟨before, other, after, rfl, found⟩ | here)
    · exact ⟨before, other, after ++ [action], by simp, found⟩
    · exact ⟨past, action, [], rfl, state, reached, here⟩

end Phomemo.Async
