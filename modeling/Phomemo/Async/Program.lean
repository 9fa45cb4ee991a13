import Mathlib.Logic.Basic

/-!
# Coroutines against a finite script

A coroutine owns a state and waits for its environment at explicit points.  A run is driven by a
script, the list of answers the environment gives, one at each wait.  A run whose script is used
up is still waiting there, so the runs over all scripts are exactly the finite prefixes of every
execution, those that never end included.  Each run also records a trace of events.
-/

namespace Phomemo.Async

variable {ε σ ρ τ α β γ : Type}

/-- What one run against a finite script came to. -/
inductive Ending (ε σ ρ α : Type) where
  /-- The coroutine returned, leaving the rest of the script. -/
  | returned (value : α) (state : σ) (rest : List ρ)
  /-- The coroutine ended with an exception. -/
  | raised (error : ε) (state : σ) (rest : List ρ)
  /-- The coroutine has not ended when the script is used up. -/
  | waiting (state : σ)

/-- The state a run left behind. -/
def Ending.state : Ending ε σ ρ α → σ
  | .returned _ state _ => state
  | .raised _ state _ => state
  | .waiting state => state

/-- One run: the events it recorded and how it ended. -/
structure Run (ε σ ρ τ α : Type) where
  /-- Recorded events, oldest first. -/
  trace : List τ
  /-- How the run ended. -/
  ending : Ending ε σ ρ α

/-- Put earlier events before those of a run. -/
def Run.after (past : List τ) (run : Run ε σ ρ τ α) : Run ε σ ρ τ α :=
  { run with trace := past ++ run.trace }

@[simp]
theorem Run.after_trace (past : List τ) (run : Run ε σ ρ τ α) :
    (run.after past).trace = past ++ run.trace := rfl

@[simp]
theorem Run.after_ending (past : List τ) (run : Run ε σ ρ τ α) :
    (run.after past).ending = run.ending := rfl

/-- Whether the run returned. -/
def Run.hasReturned (run : Run ε σ ρ τ α) : Bool :=
  match run.ending with
  | .returned _ _ _ => true
  | _ => false

theorem Run.exists_of_hasReturned {run : Run ε σ ρ τ α} (returned : run.hasReturned = true) :
    ∃ trace value state rest, run = ⟨trace, .returned value state rest⟩ := by
  obtain ⟨trace, ⟨value, state, rest⟩ | ⟨error, state, rest⟩ | ⟨state⟩⟩ := run
  · exact ⟨trace, value, state, rest, rfl⟩
  · exact absurd returned Bool.false_ne_true
  · exact absurd returned Bool.false_ne_true

/-- Whether the run returned this value and used the whole script. -/
def Run.hasReturnedOnly [DecidableEq α] (run : Run ε σ ρ τ α) (value : α) : Bool :=
  match run.ending with
  | .returned result _ [] => result = value
  | _ => false

theorem Run.exists_of_hasReturnedOnly [DecidableEq α] {run : Run ε σ ρ τ α} {value : α}
    (returned : run.hasReturnedOnly value = true) :
    ∃ trace state, run = ⟨trace, .returned value state []⟩ := by
  obtain ⟨trace, ⟨result, state, _ | ⟨answer, rest⟩⟩ | ⟨error, state, rest⟩ | ⟨state⟩⟩ := run
  · obtain rfl : result = value := of_decide_eq_true returned
    exact ⟨trace, state, rfl⟩
  · exact absurd returned Bool.false_ne_true
  · exact absurd returned Bool.false_ne_true
  · exact absurd returned Bool.false_ne_true

/-- A coroutine with exceptions `ε`, state `σ`, answers `ρ` and events `τ`. -/
def Coroutine (ε σ ρ τ α : Type) : Type := σ → List ρ → Run ε σ ρ τ α

namespace Coroutine

/-- Return at once. -/
protected def pure (value : α) : Coroutine ε σ ρ τ α :=
  fun state script => ⟨[], .returned value state script⟩

/-- Run `next` on the result; an exception or an unfinished wait ends the whole. -/
protected def bind (first : Coroutine ε σ ρ τ α) (next : α → Coroutine ε σ ρ τ β) :
    Coroutine ε σ ρ τ β :=
  fun state script =>
    match first state script with
    | ⟨trace, .returned value state rest⟩ => (next value state rest).after trace
    | ⟨trace, .raised error state rest⟩ => ⟨trace, .raised error state rest⟩
    | ⟨trace, .waiting state⟩ => ⟨trace, .waiting state⟩

instance : Monad (Coroutine ε σ ρ τ) where
  pure := Coroutine.pure
  bind := Coroutine.bind

theorem pure_bind (value : α) (next : α → Coroutine ε σ ρ τ β) :
    (pure value : Coroutine ε σ ρ τ α) >>= next = next value := rfl

/-- End with an exception. -/
def raise (error : ε) : Coroutine ε σ ρ τ α :=
  fun state script => ⟨[], .raised error state script⟩

/-- Read the state. -/
def read : Coroutine ε σ ρ τ σ :=
  fun state script => ⟨[], .returned state state script⟩

/-- Change the state. -/
def modify (change : σ → σ) : Coroutine ε σ ρ τ Unit :=
  fun state script => ⟨[], .returned () (change state) script⟩

/-- Record one event. -/
def emit (event : τ) : Coroutine ε σ ρ τ Unit :=
  fun state script => ⟨[event], .returned () state script⟩

/-- Record several events. -/
def emitAll (events : List τ) : Coroutine ε σ ρ τ Unit :=
  fun state script => ⟨events, .returned () state script⟩

/-- Wait for the next answer of the environment. -/
def suspend : Coroutine ε σ ρ τ ρ :=
  fun state script =>
    match script with
    | [] => ⟨[], .waiting state⟩
    | answer :: rest => ⟨[], .returned answer state rest⟩

/-- Never end. -/
def diverge : Coroutine ε σ ρ τ α :=
  fun state _ => ⟨[], .waiting state⟩

/-- Run `handler` on an exception of `body`. -/
def handle (body : Coroutine ε σ ρ τ α) (handler : ε → Coroutine ε σ ρ τ α) :
    Coroutine ε σ ρ τ α :=
  fun state script =>
    match body state script with
    | ⟨trace, .returned value state rest⟩ => ⟨trace, .returned value state rest⟩
    | ⟨trace, .raised error state rest⟩ => (handler error state rest).after trace
    | ⟨trace, .waiting state⟩ => ⟨trace, .waiting state⟩

/-- Run `cleanup` after `body`, whether it returned or raised. -/
def andFinally (body : Coroutine ε σ ρ τ α) (cleanup : Coroutine ε σ ρ τ Unit) :
    Coroutine ε σ ρ τ α :=
  handle body (fun error => cleanup >>= fun _ => raise error) >>= fun value =>
    cleanup >>= fun _ => pure value

/-- At most `fuel` rounds of a loop. -/
def iterateFuel (body : β → Coroutine ε σ ρ τ (β ⊕ α)) : Nat → β → Coroutine ε σ ρ τ α
  | 0, _ => diverge
  | fuel + 1, seed => body seed >>= fun
      | .inl next => iterateFuel body fuel next
      | .inr value => pure value

/-- A loop that carries `seed` from round to round until a round delivers the result.  A round
that waits uses up script, so one more round than the script is long exhausts it. -/
def iterate (body : β → Coroutine ε σ ρ τ (β ⊕ α)) (seed : β) : Coroutine ε σ ρ τ α :=
  fun state script => iterateFuel body (script.length + 1) seed state script

/-- A loop without carried values, left by the first round that delivers a result. -/
def forever (body : Coroutine ε σ ρ τ (Option α)) : Coroutine ε σ ρ τ α :=
  iterate (fun _ => body >>= fun
    | none => pure (.inl ())
    | some value => pure (.inr value)) ()

/-- Run `body` a fixed number of times. -/
def times : Nat → Coroutine ε σ ρ τ Unit → Coroutine ε σ ρ τ Unit
  | 0, _ => pure ()
  | count + 1, body => body >>= fun _ => times count body

/-- Run a coroutine for each element of a list, in order. -/
def forEach : List γ → (γ → Coroutine ε σ ρ τ Unit) → Coroutine ε σ ρ τ Unit
  | [], _ => pure ()
  | item :: items, body => body item >>= fun _ => forEach items body

end Coroutine

end Phomemo.Async
