import Phomemo.Async.History
import Phomemo.Async.Program

/-!
# Postconditions of coroutines

`Ensures` states what holds when a run returns, raises or is still waiting, for every script
whose events satisfy a rely condition.  Postconditions see the whole trace since some earlier
moment, so a property of the history is carried like one of the state.  `Upholds` is the special
case of an invariant together with a bound on the exceptions.
-/

namespace Phomemo.Async

variable {ε σ ρ τ α β γ : Type}

/-- What is claimed of the three ways a run can stand. -/
structure Post (ε σ τ α : Type) where
  /-- Holds when the run returned. -/
  returned : α → σ → List τ → Prop
  /-- Holds when the run raised. -/
  raised : ε → σ → List τ → Prop
  /-- Holds while the run waits. -/
  waiting : σ → List τ → Prop

/-- The postcondition of one round of a loop: `inv` for the next round, or the result. -/
def Post.round (inv : β → σ → List τ → Prop) (post : Post ε σ τ α) : Post ε σ τ (β ⊕ α) where
  returned := fun step state past =>
    match step with
    | .inl next => inv next state past
    | .inr value => post.returned value state past
  raised := post.raised
  waiting := post.waiting

/-- A run that follows the events `past` meets a postcondition. -/
def Run.Meets (past : List τ) (post : Post ε σ τ α) (run : Run ε σ ρ τ α) : Prop :=
  match run.ending with
  | .returned value state _ => post.returned value state (past ++ run.trace)
  | .raised error state _ => post.raised error state (past ++ run.trace)
  | .waiting state => post.waiting state (past ++ run.trace)

theorem Run.meets_after {past trace : List τ} {post : Post ε σ τ α} {run : Run ε σ ρ τ α}
    (meets : run.Meets (past ++ trace) post) : (run.after trace).Meets past post := by
  obtain ⟨events, ending⟩ := run
  cases ending <;> simpa [Run.Meets, Run.after] using meets

theorem Run.Meets.returned {past : List τ} {post : Post ε σ τ α} {run : Run ε σ ρ τ α} {value : α}
    {state : σ} {rest : List ρ} (meets : run.Meets past post)
    (ended : run.ending = .returned value state rest) :
    post.returned value state (past ++ run.trace) := by
  unfold Run.Meets at meets
  rw [ended] at meets
  exact meets

theorem Run.Meets.raised {past : List τ} {post : Post ε σ τ α} {run : Run ε σ ρ τ α} {error : ε}
    {state : σ} {rest : List ρ} (meets : run.Meets past post)
    (ended : run.ending = .raised error state rest) :
    post.raised error state (past ++ run.trace) := by
  unfold Run.Meets at meets
  rw [ended] at meets
  exact meets

/-- Every run whose events satisfy `rely` meets `post`. -/
def Ensures (rely : τ → Prop) (program : Coroutine ε σ ρ τ α) (post : Post ε σ τ α)
    (state : σ) (past : List τ) : Prop :=
  ∀ script, (∀ event ∈ (program state script).trace, rely event) →
    (program state script).Meets past post

/-- The program keeps `inv` at every wait and every end, and raises only what `fails` allows. -/
def Upholds (rely : τ → Prop) (inv : σ → List τ → Prop) (fails : ε → Prop)
    (program : Coroutine ε σ ρ τ α) : Prop :=
  ∀ state past, inv state past →
    Ensures rely program
      ⟨fun _ => inv, fun error state past => inv state past ∧ fails error, inv⟩ state past

namespace Ensures

variable {rely : τ → Prop} {post : Post ε σ τ α} {state : σ} {past : List τ}

/-- Weaken a postcondition. -/
theorem mono {program : Coroutine ε σ ρ τ α} {weaker : Post ε σ τ α}
    (ensures : Ensures rely program post state past)
    (returned : ∀ value state past, post.returned value state past →
      weaker.returned value state past)
    (raised : ∀ error state past, post.raised error state past →
      weaker.raised error state past)
    (waiting : ∀ state past, post.waiting state past → weaker.waiting state past) :
    Ensures rely program weaker state past := by
  intro script relied
  have meets := ensures script relied
  unfold Run.Meets at meets ⊢
  cases ending : (program state script).ending with
  | returned value final rest =>
      rw [ending] at meets
      exact returned _ _ _ meets
  | raised error final rest =>
      rw [ending] at meets
      exact raised _ _ _ meets
  | waiting final =>
      rw [ending] at meets
      exact waiting _ _ meets

/-- Two postconditions at once. -/
theorem and {program : Coroutine ε σ ρ τ α} {other : Post ε σ τ α}
    (ensures : Ensures rely program post state past)
    (also : Ensures rely program other state past) :
    Ensures rely program
      ⟨fun value state past => post.returned value state past ∧ other.returned value state past,
        fun error state past => post.raised error state past ∧ other.raised error state past,
        fun state past => post.waiting state past ∧ other.waiting state past⟩ state past := by
  intro script relied
  have meets := ensures script relied
  have meets' := also script relied
  unfold Run.Meets at meets meets' ⊢
  generalize program state script = outcome at meets meets' ⊢
  obtain ⟨trace, ⟨value, final, rest⟩ | ⟨error, final, rest⟩ | ⟨final⟩⟩ := outcome <;>
    exact ⟨meets, meets'⟩

/-- What the trace so far implies of every longer one, any program ensures. -/
theorem of_past {program : Coroutine ε σ ρ τ α} {holds : List τ → Prop}
    (all : ∀ later, holds (past ++ later)) :
    Ensures rely program ⟨fun _ _ => holds, fun _ _ => holds, fun _ => holds⟩ state past := by
  intro script _
  unfold Run.Meets
  cases (program state script).ending <;> exact all _

theorem pure {value : α} (holds : post.returned value state past) :
    Ensures (ρ := ρ) rely (Pure.pure value) post state past := by
  intro script _
  change post.returned value state (past ++ [])
  rwa [List.append_nil]

theorem raise {error : ε} (holds : post.raised error state past) :
    Ensures (ρ := ρ) rely (Coroutine.raise error) post state past := by
  intro script _
  change post.raised error state (past ++ [])
  rwa [List.append_nil]

theorem diverge (holds : post.waiting state past) :
    Ensures (ρ := ρ) rely Coroutine.diverge post state past := by
  intro script _
  change post.waiting state (past ++ [])
  rwa [List.append_nil]

theorem read {post : Post ε σ τ σ} (holds : post.returned state state past) :
    Ensures (ρ := ρ) rely Coroutine.read post state past := by
  intro script _
  change post.returned state state (past ++ [])
  rwa [List.append_nil]

theorem modify {post : Post ε σ τ Unit} {change : σ → σ}
    (holds : post.returned () (change state) past) :
    Ensures (ρ := ρ) rely (Coroutine.modify change) post state past := by
  intro script _
  change post.returned () (_ : σ) (past ++ [])
  rwa [List.append_nil]

theorem emit {post : Post ε σ τ Unit} {event : τ}
    (holds : rely event → post.returned () state (past ++ [event])) :
    Ensures (ρ := ρ) rely (Coroutine.emit event) post state past := by
  intro script relied
  exact holds (relied event List.mem_cons_self)

theorem emitAll {post : Post ε σ τ Unit} {events : List τ}
    (holds : (∀ event ∈ events, rely event) → post.returned () state (past ++ events)) :
    Ensures (ρ := ρ) rely (Coroutine.emitAll events) post state past := by
  intro script relied
  exact holds relied

theorem suspend {post : Post ε σ τ ρ} (waits : post.waiting state past)
    (answers : ∀ answer, post.returned answer state past) :
    Ensures rely Coroutine.suspend post state past := by
  intro script _
  cases script with
  | nil =>
      change post.waiting state (past ++ [])
      rwa [List.append_nil]
  | cons answer rest =>
      change post.returned answer state (past ++ [])
      rw [List.append_nil]
      exact answers answer

/-- Sequencing: the first part ensures that the second ensures the postcondition. -/
theorem bind {first : Coroutine ε σ ρ τ β} {next : β → Coroutine ε σ ρ τ α}
    (ensures : Ensures rely first
      ⟨fun value state past => Ensures rely (next value) post state past,
        post.raised, post.waiting⟩ state past) :
    Ensures rely (first >>= next) post state past := by
  intro script relied
  have meets := ensures script
  change Run.Meets past post (Coroutine.bind first next state script)
  change ∀ event ∈ (Coroutine.bind first next state script).trace, rely event at relied
  unfold Coroutine.bind at relied ⊢
  generalize first state script = outcome at meets relied ⊢
  obtain ⟨trace, ⟨value, final, rest⟩ | ⟨error, final, rest⟩ | ⟨final⟩⟩ := outcome
  · apply Run.meets_after
    apply meets (fun event member => relied event (by simp [member]))
    exact fun event member => relied event (by simp [member])
  · exact meets relied
  · exact meets relied

/-- Sequencing after a read. -/
theorem read_bind {next : σ → Coroutine ε σ ρ τ α}
    (ensures : Ensures rely (next state) post state past) :
    Ensures rely (Coroutine.read >>= next) post state past :=
  Ensures.bind (Ensures.read ensures)

/-- Sequencing after a change of the state. -/
theorem modify_bind {change : σ → σ} {next : Unit → Coroutine ε σ ρ τ α}
    (ensures : Ensures rely (next ()) post (change state) past) :
    Ensures rely (Coroutine.modify change >>= next) post state past :=
  Ensures.bind (Ensures.modify ensures)

/-- What is ensured of a program that starts with a change of the state is ensured of the rest. -/
theorem of_modify_bind {change : σ → σ} {next : Unit → Coroutine ε σ ρ τ α}
    (ensures : Ensures rely (Coroutine.modify change >>= next) post state past) :
    Ensures rely (next ()) post (change state) past :=
  fun script relied => ensures script relied

/-- Sequencing after an event. -/
theorem emit_bind {event : τ} {next : Unit → Coroutine ε σ ρ τ α}
    (ensures : rely event → Ensures rely (next ()) post state (past ++ [event])) :
    Ensures rely (Coroutine.emit event >>= next) post state past :=
  Ensures.bind (Ensures.emit ensures)

/-- Sequencing after something known to ensure a stronger postcondition. -/
theorem seq {first : Coroutine ε σ ρ τ β} {next : β → Coroutine ε σ ρ τ α}
    {known : Post ε σ τ β} (ensures : Ensures rely first known state past)
    (returned : ∀ value state past, known.returned value state past →
      Ensures rely (next value) post state past)
    (raised : ∀ error state past, known.raised error state past → post.raised error state past)
    (waiting : ∀ state past, known.waiting state past → post.waiting state past) :
    Ensures rely (first >>= next) post state past :=
  Ensures.bind (ensures.mono returned raised waiting)

/-- Handling: what the body raises, the handler turns into the postcondition. -/
theorem handle {body : Coroutine ε σ ρ τ α} {handler : ε → Coroutine ε σ ρ τ α}
    (ensures : Ensures rely body
      ⟨post.returned,
        fun error state past => Ensures rely (handler error) post state past,
        post.waiting⟩ state past) :
    Ensures rely (Coroutine.handle body handler) post state past := by
  intro script relied
  have meets := ensures script
  unfold Coroutine.handle at relied ⊢
  generalize body state script = outcome at meets relied ⊢
  obtain ⟨trace, ⟨value, final, rest⟩ | ⟨error, final, rest⟩ | ⟨final⟩⟩ := outcome
  · exact meets relied
  · apply Run.meets_after
    apply meets (fun event member => relied event (by simp [member]))
    exact fun event member => relied event (by simp [member])
  · exact meets relied

/-- Cleanup runs after a result and after an exception. -/
theorem andFinally {body : Coroutine ε σ ρ τ α} {cleanup : Coroutine ε σ ρ τ Unit}
    (ensures : Ensures rely body
      ⟨fun value state past => Ensures rely cleanup
          ⟨fun _ => post.returned value, post.raised, post.waiting⟩ state past,
        fun error state past => Ensures rely cleanup
          ⟨fun _ => post.raised error, post.raised, post.waiting⟩ state past,
        post.waiting⟩ state past) :
    Ensures rely (Coroutine.andFinally body cleanup) post state past := by
  apply Ensures.bind
  apply Ensures.handle
  apply ensures.mono
  · intro value state past cleaned
    apply Ensures.bind
    apply cleaned.mono
    · exact fun _ state past holds => Ensures.pure holds
    · exact fun _ _ _ => id
    · exact fun _ _ => id
  · intro error state past cleaned
    apply Ensures.bind
    apply cleaned.mono
    · exact fun _ state past holds => Ensures.raise holds
    · exact fun _ _ _ => id
    · exact fun _ _ => id
  · exact fun _ _ => id

/-- The loop rule: `inv` holds at the start of every round. -/
theorem iterate {body : β → Coroutine ε σ ρ τ (β ⊕ α)} (inv : β → σ → List τ → Prop)
    (waits : ∀ seed state past, inv seed state past → post.waiting state past)
    (round : ∀ seed state past, inv seed state past →
      Ensures rely (body seed) (post.round inv) state past)
    {seed : β} (start : inv seed state past) :
    Ensures rely (Coroutine.iterate body seed) post state past := by
  have bounded : ∀ (fuel : Nat) (seed : β) (state : σ) (past : List τ), inv seed state past →
      Ensures rely (Coroutine.iterateFuel body fuel seed) post state past := by
    intro fuel
    induction fuel with
    | zero => exact fun seed state past holds => Ensures.diverge (waits _ _ _ holds)
    | succ fuel ih =>
        intro seed state past holds
        apply Ensures.bind
        apply (round seed state past holds).mono
        · rintro (next | value) state past step
          · exact ih next state past step
          · exact Ensures.pure step
        · exact fun _ _ _ => id
        · exact fun _ _ => id
  intro script
  exact bounded (script.length + 1) seed state past start script

/-- The loop rule for a loop without carried values. -/
theorem forever {body : Coroutine ε σ ρ τ (Option α)} (inv : σ → List τ → Prop)
    (waits : ∀ state past, inv state past → post.waiting state past)
    (round : ∀ state past, inv state past →
      Ensures rely body
        ⟨fun step state past =>
            match step with
            | none => inv state past
            | some value => post.returned value state past,
          post.raised, post.waiting⟩ state past)
    (start : inv state past) :
    Ensures rely (Coroutine.forever body) post state past := by
  apply Ensures.iterate (fun _ => inv) (fun _ => waits) _ start
  intro _ state past holds
  apply Ensures.bind
  apply (round state past holds).mono
  · rintro (_ | value) state past step
    · exact Ensures.pure step
    · exact Ensures.pure step
  · exact fun _ _ _ => id
  · exact fun _ _ => id

/-- The rule for a pass over a list: `inv` holds before each element. -/
theorem forEach {items : List γ} {body : γ → Coroutine ε σ ρ τ Unit} {post : Post ε σ τ Unit}
    (inv : σ → List τ → Prop) (done : ∀ state past, inv state past → post.returned () state past)
    (each : ∀ item state past, inv state past →
      Ensures rely (body item) ⟨fun _ => inv, post.raised, post.waiting⟩ state past)
    (start : inv state past) : Ensures rely (Coroutine.forEach items body) post state past := by
  induction items generalizing state past with
  | nil => exact Ensures.pure (done state past start)
  | cons item items ih =>
      apply Ensures.bind
      apply (each item state past start).mono
      · exact fun _ _ _ holds => ih holds
      · exact fun _ _ _ => id
      · exact fun _ _ => id

/-- The rule for a counted loop: `inv` holds after so many rounds. -/
theorem times {count : Nat} {body : Coroutine ε σ ρ τ Unit} {post : Post ε σ τ Unit}
    (inv : Nat → σ → List τ → Prop) (done : ∀ state past, inv count state past →
      post.returned () state past)
    (round : ∀ index < count, ∀ state past, inv index state past →
      Ensures rely body ⟨fun _ => inv (index + 1), post.raised, post.waiting⟩ state past)
    (start : inv 0 state past) : Ensures rely (Coroutine.times count body) post state past := by
  have rest : ∀ left index, index + left = count → ∀ state past, inv index state past →
      Ensures rely (Coroutine.times left body) post state past := by
    intro left
    induction left with
    | zero =>
        rintro index rfl state past holds
        exact Ensures.pure (done state past holds)
    | succ left ih =>
        intro index whole state past holds
        apply Ensures.bind
        apply (round index (by omega) state past holds).mono
        · exact fun _ state past holds => ih (index + 1) (by omega) state past holds
        · exact fun _ _ _ => id
        · exact fun _ _ => id
  exact rest count 0 (Nat.zero_add count) state past start

/-- A branch is checked on both sides. -/
theorem ite {condition : Prop} [Decidable condition] {yes no : Coroutine ε σ ρ τ α}
    (whenYes : condition → Ensures rely yes post state past)
    (whenNo : ¬condition → Ensures rely no post state past) :
    Ensures rely (if condition then yes else no) post state past := by
  split
  · exact whenYes ‹_›
  · exact whenNo ‹_›

/-- A property of the history that holds however a run stands holds of its trace. -/
theorem always {program : Coroutine ε σ ρ τ α} {holds : List τ → Prop}
    (ensures : Ensures rely program
      ⟨fun _ _ => holds, fun _ _ => holds, fun _ => holds⟩ state [])
    {script : List ρ} (relied : ∀ event ∈ (program state script).trace, rely event) :
    holds (program state script).trace := by
  have meets := ensures script relied
  generalize program state script = outcome at meets
  obtain ⟨trace, ⟨value, final, rest⟩ | ⟨error, final, rest⟩ | ⟨final⟩⟩ := outcome <;>
    exact meets

end Ensures

namespace Upholds

variable {rely : τ → Prop} {inv : σ → List τ → Prop} {fails : ε → Prop}

/-- A run that upholds this raises nothing else. -/
theorem raised_of_run {program : Coroutine ε σ ρ τ α}
    (upholds : Upholds (fun _ => True) (fun _ _ => True) fails program) {state final : σ}
    {script rest : List ρ} {past : List τ} {error : ε}
    (raised : program state script = ⟨past, .raised error final rest⟩) : fails error := by
  have meets := upholds state [] trivial script fun _ _ => trivial
  rw [raised] at meets
  exact meets.2

/-- Use an upheld invariant inside a postcondition that needs no more than it. -/
theorem ensures {program : Coroutine ε σ ρ τ α} (upholds : Upholds rely inv fails program)
    {post : Post ε σ τ α} {state : σ} {past : List τ} (holds : inv state past)
    (returned : ∀ value state past, inv state past → post.returned value state past)
    (raised : ∀ error state past, inv state past → fails error → post.raised error state past)
    (waiting : ∀ state past, inv state past → post.waiting state past) :
    Ensures rely program post state past :=
  (upholds state past holds).mono returned (fun _ _ _ both => raised _ _ _ both.1 both.2) waiting

/-- Sequencing after a part that upholds an invariant. -/
theorem seq {first : Coroutine ε σ ρ τ β} (upholds : Upholds rely inv fails first)
    {next : β → Coroutine ε σ ρ τ α} {post : Post ε σ τ α} {state : σ} {past : List τ}
    (holds : inv state past)
    (rest : ∀ value state past, inv state past → Ensures rely (next value) post state past)
    (raised : ∀ error state past, inv state past → fails error → post.raised error state past)
    (waiting : ∀ state past, inv state past → post.waiting state past) :
    Ensures rely (first >>= next) post state past :=
  Ensures.bind (upholds.ensures holds rest raised waiting)

theorem pure (value : α) : Upholds (ρ := ρ) rely inv fails (Pure.pure value) :=
  fun _ _ holds => Ensures.pure holds

theorem raise {error : ε} (allowed : fails error) :
    Upholds (ρ := ρ) (α := α) rely inv fails (Coroutine.raise error) :=
  fun _ _ holds => Ensures.raise ⟨holds, allowed⟩

theorem diverge : Upholds (ρ := ρ) (α := α) rely inv fails Coroutine.diverge :=
  fun _ _ holds => Ensures.diverge holds

theorem read : Upholds (ρ := ρ) rely inv fails (Coroutine.read : Coroutine ε σ ρ τ σ) :=
  fun _ _ holds => Ensures.read holds

theorem modify {change : σ → σ} (kept : ∀ state past, inv state past → inv (change state) past) :
    Upholds (ρ := ρ) rely inv fails (Coroutine.modify change) :=
  fun _ _ holds => Ensures.modify (kept _ _ holds)

theorem emit {event : τ}
    (kept : ∀ state past, inv state past → rely event → inv state (past ++ [event])) :
    Upholds (ρ := ρ) rely inv fails (Coroutine.emit event) :=
  fun _ _ holds => Ensures.emit (kept _ _ holds)

theorem bind {first : Coroutine ε σ ρ τ β} {next : β → Coroutine ε σ ρ τ α}
    (firstUpholds : Upholds rely inv fails first)
    (nextUpholds : ∀ value, Upholds rely inv fails (next value)) :
    Upholds rely inv fails (first >>= next) := by
  intro state past holds
  apply Ensures.bind
  exact firstUpholds.ensures holds (fun value state past => nextUpholds value state past)
    (fun _ _ _ holds allowed => ⟨holds, allowed⟩) (fun _ _ => id)

/-- Sequencing after a read, where the rest may depend on the state being the one read. -/
theorem read_bind {next : σ → Coroutine ε σ ρ τ α}
    (nextUpholds : ∀ state past, inv state past → Ensures rely (next state)
      ⟨fun _ => inv, fun error state past => inv state past ∧ fails error, inv⟩ state past) :
    Upholds rely inv fails (Coroutine.read >>= next) := by
  intro state past holds
  apply Ensures.bind
  exact Ensures.read (nextUpholds state past holds)

theorem handle {body : Coroutine ε σ ρ τ α} {handler : ε → Coroutine ε σ ρ τ α}
    {bodyFails : ε → Prop} (bodyUpholds : Upholds rely inv bodyFails body)
    (handlerUpholds : ∀ error, bodyFails error → Upholds rely inv fails (handler error)) :
    Upholds rely inv fails (Coroutine.handle body handler) := by
  intro state past holds
  apply Ensures.handle
  exact bodyUpholds.ensures holds (fun _ _ _ => id)
    (fun error state past holds allowed => handlerUpholds error allowed state past holds)
    (fun _ _ => id)

theorem andFinally {body : Coroutine ε σ ρ τ α} {cleanup : Coroutine ε σ ρ τ Unit}
    (bodyUpholds : Upholds rely inv fails body)
    (cleanupUpholds : Upholds rely inv fails cleanup) :
    Upholds rely inv fails (Coroutine.andFinally body cleanup) := by
  apply Upholds.bind
  · apply Upholds.handle bodyUpholds
    exact fun error allowed => Upholds.bind cleanupUpholds fun _ => Upholds.raise allowed
  · exact fun value => Upholds.bind cleanupUpholds fun _ => Upholds.pure value

theorem iterate {body : β → Coroutine ε σ ρ τ (β ⊕ α)}
    (round : ∀ seed, Upholds rely inv fails (body seed)) (seed : β) :
    Upholds rely inv fails (Coroutine.iterate body seed) := by
  intro state past holds
  apply Ensures.iterate (fun _ => inv) (fun _ _ _ => id) _ holds
  intro seed state past holds
  apply (round seed).ensures holds
  · rintro (next | value) state past holds <;> exact holds
  · exact fun _ _ _ holds allowed => ⟨holds, allowed⟩
  · exact fun _ _ => id

theorem forever {body : Coroutine ε σ ρ τ (Option α)} (round : Upholds rely inv fails body) :
    Upholds rely inv fails (Coroutine.forever body) := by
  apply Upholds.iterate
  intro _
  apply Upholds.bind round
  rintro (_ | value)
  · exact Upholds.pure _
  · exact Upholds.pure _

theorem times {body : Coroutine ε σ ρ τ Unit} (once : Upholds rely inv fails body)
    (count : Nat) : Upholds rely inv fails (Coroutine.times count body) := by
  induction count with
  | zero => exact Upholds.pure ()
  | succ count ih => exact Upholds.bind once fun _ => ih

theorem forEach {body : γ → Coroutine ε σ ρ τ Unit} (items : List γ)
    (each : ∀ item ∈ items, Upholds rely inv fails (body item)) :
    Upholds rely inv fails (Coroutine.forEach items body) := by
  induction items with
  | nil => exact Upholds.pure ()
  | cons item items ih =>
      apply Upholds.bind (each item List.mem_cons_self)
      exact fun _ => ih fun other member => each other (List.mem_cons_of_mem item member)

theorem ite {condition : Prop} [Decidable condition] {yes no : Coroutine ε σ ρ τ α}
    (whenYes : condition → Upholds rely inv fails yes)
    (whenNo : ¬condition → Upholds rely inv fails no) :
    Upholds rely inv fails (if condition then yes else no) := by
  split
  · exact whenYes ‹_›
  · exact whenNo ‹_›

end Upholds

/-! ## Results -/

/-- What holds of everything a run may end with holds after every run. -/
theorem Ensures.of_forall {rely : τ → Prop} {program : Coroutine ε σ ρ τ α} {post : Post ε σ τ α}
    {state : σ} {past : List τ} (returned : ∀ value state past, post.returned value state past)
    (raised : ∀ error state past, post.raised error state past)
    (waiting : ∀ state past, post.waiting state past) :
    Ensures rely program post state past := by
  intro script _
  unfold Run.Meets
  split
  · exact returned _ _ _
  · exact raised _ _ _
  · exact waiting _ _

/-- Whatever the program returns has the property. -/
def Yields (property : α → Prop) (program : Coroutine ε σ ρ τ α) : Prop :=
  ∀ state past, Ensures (fun _ => True) program
    ⟨fun value _ _ => property value, fun _ _ _ => True, fun _ _ => True⟩ state past

namespace Yields

variable {property : α → Prop}

theorem pure {value : α} (holds : property value) :
    Yields property (Pure.pure value : Coroutine ε σ ρ τ α) :=
  fun _ _ => Ensures.pure holds

theorem raise (error : ε) : Yields property (Coroutine.raise error : Coroutine ε σ ρ τ α) :=
  fun _ _ => Ensures.raise trivial

theorem bind {first : Coroutine ε σ ρ τ β} {next : β → Coroutine ε σ ρ τ α}
    (yields : ∀ value, Yields property (next value)) : Yields property (first >>= next) :=
  fun _ _ => Ensures.bind (Ensures.of_forall (fun value state past => yields value state past)
    (fun _ _ _ => trivial) fun _ _ => trivial)

/-- What the first part returns may be used. -/
theorem seq {known : β → Prop} {first : Coroutine ε σ ρ τ β} {next : β → Coroutine ε σ ρ τ α}
    (found : Yields known first) (yields : ∀ value, known value → Yields property (next value)) :
    Yields property (first >>= next) :=
  fun state past => Ensures.bind ((found state past).mono
    (fun value state past holds => yields value holds state past) (fun _ _ _ => id) fun _ _ => id)

theorem handle {body : Coroutine ε σ ρ τ α} {handler : ε → Coroutine ε σ ρ τ α}
    (yields : Yields property body) (handled : ∀ error, Yields property (handler error)) :
    Yields property (Coroutine.handle body handler) :=
  fun state past => Ensures.handle ((yields state past).mono (fun _ _ _ => id)
    (fun error state past _ => handled error state past) fun _ _ => id)

theorem andFinally {body : Coroutine ε σ ρ τ α} {cleanup : Coroutine ε σ ρ τ Unit}
    (yields : Yields property body) : Yields property (Coroutine.andFinally body cleanup) := by
  intro state past
  apply Ensures.andFinally
  apply (yields state past).mono
  · exact fun _ _ _ holds => Ensures.of_forall (fun _ _ _ => holds) (fun _ _ _ => trivial)
      fun _ _ => trivial
  · exact fun _ _ _ _ => Ensures.of_forall (fun _ _ _ => trivial) (fun _ _ _ => trivial)
      fun _ _ => trivial
  · exact fun _ _ => id

theorem ite {condition : Prop} [Decidable condition] {yes no : Coroutine ε σ ρ τ α}
    (whenYes : Yields property yes) (whenNo : Yields property no) :
    Yields property (if condition then yes else no) := by
  split
  · exact whenYes
  · exact whenNo

end Yields

/-! ## Conditions on the history -/

/-- What holds as long as all events so far meet a condition. -/
abbrev AsLongAs (condition : List τ → τ → Prop) (holds : σ → List τ → Prop) (state : σ)
    (past : List τ) : Prop :=
  Throughout condition past → holds state past

section AsLongAs

variable {rely : τ → Prop} {condition : List τ → τ → Prop} {holds : σ → List τ → Prop}
  {state : σ} {past : List τ} {program : Coroutine ε σ ρ τ α}

/-- Nothing is claimed of a program once an event did not meet the condition. -/
theorem Ensures.of_broken {post : Post ε σ τ α} (broken : ¬Throughout condition past)
    (returned : ∀ value state past, ¬Throughout condition past → post.returned value state past)
    (raised : ∀ error state past, ¬Throughout condition past → post.raised error state past)
    (waiting : ∀ state past, ¬Throughout condition past → post.waiting state past) :
    Ensures rely program post state past := by
  have never : ∀ later, ¬Throughout condition (past ++ later) :=
    fun later all => broken all.of_append
  have ends := @Ensures.of_past _ _ _ _ _ rely state past program
    (fun past => ¬Throughout condition past) never
  exact ends.mono returned raised waiting

/-- All events have met the condition where a program starts. -/
theorem Ensures.asLongAs
    (ensures : Throughout condition past → Ensures rely program
      ⟨fun _ => AsLongAs condition holds,
        fun _ state past => AsLongAs condition holds state past ∧ True,
        AsLongAs condition holds⟩ state past) :
    Ensures rely program
      ⟨fun _ => AsLongAs condition holds,
        fun _ state past => AsLongAs condition holds state past ∧ True,
        AsLongAs condition holds⟩ state past := by
  by_cases met : Throughout condition past
  · exact ensures met
  · apply Ensures.of_broken met
    · exact fun _ _ _ broken all => absurd all broken
    · exact fun _ _ _ broken => ⟨fun all => absurd all broken, trivial⟩
    · exact fun _ _ broken all => absurd all broken

end AsLongAs

end Phomemo.Async
