import Phomemo.Async.Program

/-!
# Answers a coroutine uses

`Uses` bounds the answers a run takes from its script from below.  A loop whose rounds take at
least one satisfies its own equation.  `Within` bounds them from above, so a script that is long
enough is never used up, and `EndsWithin` says so of one run.
-/

namespace Phomemo.Async

variable {ε σ ρ τ α β γ : Type}

/-- A run takes at least so many answers, depending on what it returns, and never gives any back. -/
def Uses (count : α → Nat) (program : Coroutine ε σ ρ τ α) : Prop :=
  ∀ state script,
    match (program state script).ending with
    | .returned value _ rest => rest.length + count value ≤ script.length
    | .raised _ _ rest => rest.length ≤ script.length
    | .waiting _ => True

namespace Uses

open Coroutine

variable {count : α → Nat}

theorem pure {value : α} (none : count value = 0) :
    Uses count (Pure.pure value : Coroutine ε σ ρ τ α) := by
  intro state script
  change script.length + count value ≤ script.length
  omega

theorem raise (error : ε) : Uses count (Coroutine.raise error : Coroutine ε σ ρ τ α) :=
  fun _ _ => Nat.le_refl _

theorem read : Uses (fun _ => 0) (Coroutine.read : Coroutine ε σ ρ τ σ) :=
  fun _ _ => Nat.le_refl _

theorem modify (change : σ → σ) :
    Uses (fun _ => 0) (Coroutine.modify change : Coroutine ε σ ρ τ Unit) :=
  fun _ _ => Nat.le_refl _

theorem emit (event : τ) : Uses (fun _ => 0) (Coroutine.emit event : Coroutine ε σ ρ τ Unit) :=
  fun _ _ => Nat.le_refl _

theorem emitAll (events : List τ) :
    Uses (fun _ => 0) (Coroutine.emitAll events : Coroutine ε σ ρ τ Unit) :=
  fun _ _ => Nat.le_refl _

theorem suspend : Uses (fun _ => 1) (Coroutine.suspend : Coroutine ε σ ρ τ ρ) := by
  intro state script
  cases script with
  | nil => trivial
  | cons answer rest => exact Nat.le_refl _

/-- The answers of both parts add up. -/
theorem bind {least : Nat} {later : β → Nat} {first : Coroutine ε σ ρ τ α}
    {next : α → Coroutine ε σ ρ τ β} (uses : Uses (fun _ => least) first)
    (rest : ∀ value, Uses (fun result => later result - least) (next value)) :
    Uses later (first >>= next) := by
  intro state script
  have taken := uses state script
  change match (Coroutine.bind first next state script).ending with
    | .returned value _ rest => rest.length + later value ≤ script.length
    | .raised _ _ rest => rest.length ≤ script.length
    | .waiting _ => True
  unfold Coroutine.bind
  generalize first state script = outcome at taken ⊢
  obtain ⟨trace, ⟨value, middle, left⟩ | ⟨error, final, left⟩ | ⟨final⟩⟩ := outcome
  · have more := rest value middle left
    simp only [Run.after_ending] at more taken ⊢
    generalize (next value middle left).ending = ending at more ⊢
    cases ending with
    | returned result final left' =>
        dsimp only at more ⊢
        omega
    | raised error final left' =>
        dsimp only at more ⊢
        omega
    | waiting final => trivial
  · exact taken
  · trivial

/-- A handler takes no answers back. -/
theorem handle {body : Coroutine ε σ ρ τ α} {handler : ε → Coroutine ε σ ρ τ α}
    (uses : Uses (fun _ => 0) body) (handles : ∀ error, Uses (fun _ => 0) (handler error)) :
    Uses (fun _ => 0) (Coroutine.handle body handler) := by
  intro state script
  have taken := uses state script
  unfold Coroutine.handle
  generalize body state script = outcome at taken ⊢
  obtain ⟨trace, ⟨value, middle, left⟩ | ⟨error, middle, left⟩ | ⟨final⟩⟩ := outcome
  · exact taken
  · have more := handles error middle left
    simp only [Run.after_ending] at more taken ⊢
    generalize (handler error middle left).ending = ending at more ⊢
    cases ending with
    | returned result final left' =>
        dsimp only at more ⊢
        omega
    | raised error final left' =>
        dsimp only at more ⊢
        omega
    | waiting final => trivial
  · trivial

theorem ite {condition : Prop} [Decidable condition] {yes no : Coroutine ε σ ρ τ α}
    (whenYes : Uses count yes) (whenNo : Uses count no) :
    Uses count (if condition then yes else no) := by
  split
  · exact whenYes
  · exact whenNo

theorem mono {fewer : α → Nat} {program : Coroutine ε σ ρ τ α} (uses : Uses count program)
    (le : ∀ value, fewer value ≤ count value) : Uses fewer program := by
  intro state script
  have taken := uses state script
  cases ending : (program state script).ending with
  | returned value final rest =>
      rw [ending] at taken
      have le := le value
      dsimp only at taken ⊢
      omega
  | raised error final rest =>
      rw [ending] at taken
      exact taken
  | waiting final => trivial

end Uses

/-- A run takes at most so many answers, and with that many it does not stop waiting. -/
def Within (count : Nat) (program : Coroutine ε σ ρ τ α) : Prop :=
  ∀ state script,
    match (program state script).ending with
    | .returned _ _ rest => script.length ≤ rest.length + count
    | .raised _ _ rest => script.length ≤ rest.length + count
    | .waiting _ => script.length < count

namespace Within

open Coroutine

theorem pure (value : α) : Within 0 (Pure.pure value : Coroutine ε σ ρ τ α) :=
  fun _ _ => Nat.le_refl _

theorem raise (error : ε) : Within 0 (Coroutine.raise error : Coroutine ε σ ρ τ α) :=
  fun _ _ => Nat.le_refl _

theorem read : Within 0 (Coroutine.read : Coroutine ε σ ρ τ σ) :=
  fun _ _ => Nat.le_refl _

theorem modify (change : σ → σ) : Within 0 (Coroutine.modify change : Coroutine ε σ ρ τ Unit) :=
  fun _ _ => Nat.le_refl _

theorem emit (event : τ) : Within 0 (Coroutine.emit event : Coroutine ε σ ρ τ Unit) :=
  fun _ _ => Nat.le_refl _

theorem emitAll (events : List τ) : Within 0 (Coroutine.emitAll events : Coroutine ε σ ρ τ Unit) :=
  fun _ _ => Nat.le_refl _

theorem suspend : Within 1 (Coroutine.suspend : Coroutine ε σ ρ τ ρ) := by
  intro state script
  cases script with
  | nil => exact Nat.zero_lt_one
  | cons answer rest => exact Nat.le_refl _

/-- The answers of both parts add up. -/
theorem bind {first more : Nat} {program : Coroutine ε σ ρ τ α} {next : α → Coroutine ε σ ρ τ β}
    (within : Within first program) (rest : ∀ value, Within more (next value)) :
    Within (first + more) (program >>= next) := by
  intro state script
  have taken := within state script
  change match (Coroutine.bind program next state script).ending with
    | .returned _ _ rest => script.length ≤ rest.length + (first + more)
    | .raised _ _ rest => script.length ≤ rest.length + (first + more)
    | .waiting _ => script.length < first + more
  unfold Coroutine.bind
  generalize program state script = outcome at taken ⊢
  obtain ⟨trace, ⟨value, middle, left⟩ | ⟨error, final, left⟩ | ⟨final⟩⟩ := outcome
  · have later := rest value middle left
    simp only [Run.after_ending] at later taken ⊢
    generalize (next value middle left).ending = ending at later ⊢
    cases ending with
    | returned result final left' =>
        dsimp only at later ⊢
        omega
    | raised error final left' =>
        dsimp only at later ⊢
        omega
    | waiting final =>
        dsimp only at later ⊢
        omega
  · dsimp only at taken ⊢
    omega
  · dsimp only at taken ⊢
    omega

theorem handle {first more : Nat} {body : Coroutine ε σ ρ τ α} {handler : ε → Coroutine ε σ ρ τ α}
    (within : Within first body) (handles : ∀ error, Within more (handler error)) :
    Within (first + more) (Coroutine.handle body handler) := by
  intro state script
  have taken := within state script
  unfold Coroutine.handle
  generalize body state script = outcome at taken ⊢
  obtain ⟨trace, ⟨value, middle, left⟩ | ⟨error, middle, left⟩ | ⟨final⟩⟩ := outcome
  · dsimp only at taken ⊢
    omega
  · have later := handles error middle left
    simp only [Run.after_ending] at later taken ⊢
    generalize (handler error middle left).ending = ending at later ⊢
    cases ending with
    | returned result final left' =>
        dsimp only at later ⊢
        omega
    | raised error final left' =>
        dsimp only at later ⊢
        omega
    | waiting final =>
        dsimp only at later ⊢
        omega
  · dsimp only at taken ⊢
    omega

theorem mono {less more : Nat} {program : Coroutine ε σ ρ τ α} (within : Within less program)
    (le : less ≤ more) : Within more program := by
  intro state script
  have taken := within state script
  cases ending : (program state script).ending with
  | returned value final rest =>
      rw [ending] at taken
      dsimp only at taken ⊢
      omega
  | raised error final rest =>
      rw [ending] at taken
      dsimp only at taken ⊢
      omega
  | waiting final =>
      rw [ending] at taken
      dsimp only at taken ⊢
      omega

/-- A part that takes no answers. -/
theorem free_bind {count : Nat} {program : Coroutine ε σ ρ τ α} {next : α → Coroutine ε σ ρ τ β}
    (free : Within 0 program) (rest : ∀ value, Within count (next value)) :
    Within count (program >>= next) :=
  (bind free rest).mono (Nat.le_of_eq (Nat.zero_add count))

theorem ite {count : Nat} {condition : Prop} [Decidable condition] {yes no : Coroutine ε σ ρ τ α}
    (whenYes : Within count yes) (whenNo : Within count no) :
    Within count (if condition then yes else no) := by
  split
  · exact whenYes
  · exact whenNo

/-- The cleanup counts for both ways the body may end. -/
theorem andFinally {count more : Nat} {body : Coroutine ε σ ρ τ α}
    {cleanup : Coroutine ε σ ρ τ Unit} (within : Within count body) (cleans : Within more cleanup) :
    Within (count + more + more) (Coroutine.andFinally body cleanup) := by
  have handled : Within (count + (more + 0))
      (Coroutine.handle body fun error => cleanup >>= fun _ => Coroutine.raise error) :=
    handle within fun error => bind cleans fun _ => Within.raise error
  exact bind handled fun value => bind cleans fun _ => Within.pure value

theorem times {once : Nat} {body : Coroutine ε σ ρ τ Unit} (within : Within once body)
    (count : Nat) : Within (count * once) (Coroutine.times count body) := by
  induction count with
  | zero =>
      rw [Nat.zero_mul]
      exact Within.pure ()
  | succ count ih =>
      rw [Nat.succ_mul, Nat.add_comm]
      exact bind within fun _ => ih

end Within

/-- A run has ended within so many answers of its script. -/
def EndsWithin (count : Nat) (script : List ρ) (run : Run ε σ ρ τ α) : Prop :=
  match run.ending with
  | .returned _ _ rest => script.length ≤ rest.length + count
  | .raised _ _ rest => script.length ≤ rest.length + count
  | .waiting _ => False

theorem Within.ends {count : Nat} {program : Coroutine ε σ ρ τ α} (within : Within count program)
    (state : σ) {script : List ρ} (enough : count ≤ script.length) :
    EndsWithin count script (program state script) := by
  have taken := within state script
  unfold EndsWithin
  cases ending : (program state script).ending with
  | returned value final rest =>
      rw [ending] at taken
      exact taken
  | raised error final rest =>
      rw [ending] at taken
      exact taken
  | waiting final =>
      rw [ending] at taken
      exact absurd taken (Nat.not_lt.mpr enough)

namespace EndsWithin

theorem mono {less more : Nat} {script : List ρ} {run : Run ε σ ρ τ α}
    (ends : EndsWithin less script run) (le : less ≤ more) : EndsWithin more script run := by
  unfold EndsWithin at ends ⊢
  cases ending : run.ending with
  | returned value final rest =>
      rw [ending] at ends
      dsimp only at ends ⊢
      omega
  | raised error final rest =>
      rw [ending] at ends
      dsimp only at ends ⊢
      omega
  | waiting final =>
      rw [ending] at ends
      exact ends

/-- The second part has the answers the first one left. -/
theorem bind {first more : Nat} {program : Coroutine ε σ ρ τ α} {next : α → Coroutine ε σ ρ τ β}
    {state : σ} {script : List ρ} (ends : EndsWithin first script (program state script))
    (rest : ∀ value middle left, (program state script).ending = .returned value middle left →
      EndsWithin more left (next value middle left)) :
    EndsWithin (first + more) script ((program >>= next) state script) := by
  change EndsWithin _ _ (Coroutine.bind program next state script)
  unfold Coroutine.bind
  generalize program state script = outcome at ends rest ⊢
  obtain ⟨trace, ⟨value, middle, left⟩ | ⟨error, middle, left⟩ | ⟨middle⟩⟩ := outcome
  · have later := rest value middle left rfl
    unfold EndsWithin at ends later ⊢
    rw [Run.after_ending]
    generalize (next value middle left).ending = ending at later ⊢
    cases ending with
    | returned result final left' =>
        dsimp only at ends later ⊢
        omega
    | raised error final left' =>
        dsimp only at ends later ⊢
        omega
    | waiting final => exact later
  · unfold EndsWithin at ends ⊢
    dsimp only at ends ⊢
    omega
  · exact ends

end EndsWithin

/-! ## Regrouping -/

namespace Coroutine

theorem bind_assoc (first : Coroutine ε σ ρ τ α) (second : α → Coroutine ε σ ρ τ β)
    (third : β → Coroutine ε σ ρ τ γ) :
    first >>= second >>= third = first >>= fun value => second value >>= third := by
  funext state script
  change Coroutine.bind (Coroutine.bind first second) third state script =
    Coroutine.bind first (fun value => Coroutine.bind (second value) third) state script
  unfold Coroutine.bind
  generalize first state script = outcome
  obtain ⟨trace, ⟨value, middle, left⟩ | ⟨error, final, left⟩ | ⟨final⟩⟩ := outcome
  · simp only [Run.after]
    generalize second value middle left = outcome
    obtain ⟨more, ⟨result, middle, left⟩ | ⟨error, final, left⟩ | ⟨final⟩⟩ := outcome
    · simp only [List.append_assoc]
    · rfl
    · rfl
  · rfl
  · rfl

theorem read_bind (next : σ → Coroutine ε σ ρ τ α) (state : σ) (script : List ρ) :
    (read >>= next) state script = next state state script := rfl

/-- A sequence goes on from where its first part returned. -/
theorem bind_eq_of_returned {first : Coroutine ε σ ρ τ α} {next : α → Coroutine ε σ ρ τ β}
    {state middle : σ} {script left : List ρ} {trace : List τ} {value : α}
    (returned : first state script = ⟨trace, .returned value middle left⟩) :
    (first >>= next) state script = (next value middle left).after trace := by
  change Coroutine.bind first next state script = _
  unfold Coroutine.bind
  rw [returned]

/-- What would follow does not matter to a first part that has not returned. -/
theorem bind_congr_of_unreturned {first : Coroutine ε σ ρ τ α}
    {next other : α → Coroutine ε σ ρ τ β} {state : σ} {script : List ρ}
    (unreturned : ¬(first state script).hasReturned = true) :
    (first >>= next) state script = (first >>= other) state script := by
  change Coroutine.bind first next state script = Coroutine.bind first other state script
  unfold Coroutine.bind
  generalize first state script = outcome at unreturned
  obtain ⟨early, ⟨value, middle, left⟩ | ⟨error, middle, left⟩ | ⟨middle⟩⟩ := outcome
  · exact absurd rfl unreturned
  · rfl
  · rfl

/-- A sequence returns when both parts do. -/
theorem bind_returned_iff {first : Coroutine ε σ ρ τ α} {next : α → Coroutine ε σ ρ τ β}
    {state final : σ} {script rest : List ρ} {trace : List τ} {result : β} :
    (first >>= next) state script = ⟨trace, .returned result final rest⟩ ↔
      ∃ early value middle left later,
        first state script = ⟨early, .returned value middle left⟩ ∧
        next value middle left = ⟨later, .returned result final rest⟩ ∧ trace = early ++ later := by
  change Coroutine.bind first next state script = _ ↔ _
  unfold Coroutine.bind
  generalize first state script = outcome
  obtain ⟨early, ⟨value, middle, left⟩ | ⟨error, middle, left⟩ | ⟨middle⟩⟩ := outcome
  · dsimp only
    generalize whole : next value middle left = outcome
    obtain ⟨later, ending⟩ := outcome
    constructor
    · intro same
      obtain ⟨rfl, rfl⟩ := Run.mk.inj same
      exact ⟨early, value, middle, left, later, rfl, whole, rfl⟩
    · rintro ⟨_, _, _, _, _, same, returned, rfl⟩
      obtain ⟨rfl, ended⟩ := Run.mk.inj same
      obtain ⟨rfl, rfl, rfl⟩ := Ending.returned.inj ended
      obtain ⟨rfl, rfl⟩ := Run.mk.inj (whole.symm.trans returned)
      rfl
  · constructor
    · intro same
      cases (Run.mk.inj same).2
    · rintro ⟨_, _, _, _, _, same, -⟩
      cases (Run.mk.inj same).2
  · constructor
    · intro same
      cases (Run.mk.inj same).2
    · rintro ⟨_, _, _, _, _, same, -⟩
      cases (Run.mk.inj same).2

end Coroutine

/-! ## The equation of a loop -/

/-- A round that goes on takes an answer. -/
abbrev Advances (body : Coroutine ε σ ρ τ (β ⊕ α)) : Prop :=
  Uses (Sum.elim (fun _ => 1) fun _ => 0) body

namespace Coroutine

variable {body : β → Coroutine ε σ ρ τ (β ⊕ α)}

/-- More fuel than answers makes no difference. -/
theorem iterateFuel_enough (advances : ∀ seed, Advances (body seed)) (fuel extra : Nat)
    (seed : β) (state : σ) (script : List ρ) (enough : script.length < fuel) :
    iterateFuel body (fuel + extra) seed state script =
      iterateFuel body fuel seed state script := by
  induction fuel generalizing seed state script with
  | zero => exact absurd enough (Nat.not_lt_zero _)
  | succ fuel ih =>
      rw [Nat.succ_add]
      change Coroutine.bind (body seed) _ state script = Coroutine.bind (body seed) _ state script
      have taken := advances seed state script
      unfold Coroutine.bind
      generalize body seed state script = outcome at taken ⊢
      obtain ⟨trace, ⟨next | value, middle, left⟩ | ⟨error, final, left⟩ | ⟨final⟩⟩ := outcome
      · have shorter : left.length + 1 ≤ script.length := taken
        dsimp only
        rw [ih next middle left (by omega)]
      · rfl
      · rfl
      · rfl

/-- A loop is its first round and, if that goes on, the loop from there. -/
theorem iterate_unfold (advances : ∀ seed, Advances (body seed)) (seed : β) :
    iterate body seed = body seed >>= fun
      | .inl next => iterate body next
      | .inr value => pure value := by
  funext state script
  change Coroutine.bind (body seed) _ state script = Coroutine.bind (body seed) _ state script
  have taken := advances seed state script
  unfold Coroutine.bind
  generalize body seed state script = outcome at taken ⊢
  obtain ⟨trace, ⟨next | value, middle, left⟩ | ⟨error, final, left⟩ | ⟨final⟩⟩ := outcome
  · have shorter : left.length + 1 ≤ script.length := taken
    dsimp only
    unfold iterate
    have same := iterateFuel_enough advances (left.length + 1)
      (script.length - (left.length + 1)) next middle left (by omega)
    rw [Nat.add_sub_cancel' shorter] at same
    rw [same]
  · rfl
  · rfl
  · rfl

end Coroutine

end Phomemo.Async
