import Phomemo.Async.Logic

/-!
# Effects of coroutines

What a run may have done is a relation between the state it started in, what it recorded and the
state it stands in.  Where the relation composes, a program whose steps have the effect has it.
-/

namespace Phomemo.Async

variable {ε σ ρ τ α β γ : Type}

/-- What a run may have done: when it has ended, and while it waits. -/
structure Effect (σ τ : Type) where
  ended : σ → List τ → σ → Prop
  waits : σ → List τ → σ → Prop
  refl : ∀ state, ended state [] state
  idle : ∀ state, waits state [] state
  trans : ∀ {before middle after first later},
    ended before first middle → ended middle later after → ended before (first ++ later) after
  during : ∀ {before middle after first later},
    ended before first middle → waits middle later after → waits before (first ++ later) after

namespace Effect

/-- What a run that stands here has done. -/
def Done (effect : Effect σ τ) (state : σ) (run : Run ε σ ρ τ α) : Prop :=
  match run.ending with
  | .returned _ final _ => effect.ended state run.trace final
  | .raised _ final _ => effect.ended state run.trace final
  | .waiting final => effect.waits state run.trace final

/-- Every run of the program has the effect. -/
def Has (effect : Effect σ τ) (program : Coroutine ε σ ρ τ α) : Prop :=
  ∀ state script, effect.Done state (program state script)

namespace Has

open Coroutine

variable {effect : Effect σ τ}

theorem pure (value : α) : effect.Has (Pure.pure value : Coroutine ε σ ρ τ α) :=
  fun state _ => effect.refl state

theorem raise (error : ε) : effect.Has (Coroutine.raise error : Coroutine ε σ ρ τ α) :=
  fun state _ => effect.refl state

theorem read : effect.Has (Coroutine.read : Coroutine ε σ ρ τ σ) :=
  fun state _ => effect.refl state

theorem diverge : effect.Has (Coroutine.diverge : Coroutine ε σ ρ τ α) :=
  fun state _ => effect.idle state

theorem modify {change : σ → σ} (changes : ∀ state, effect.ended state [] (change state)) :
    effect.Has (Coroutine.modify change : Coroutine ε σ ρ τ Unit) :=
  fun state _ => changes state

theorem emit {event : τ} (records : ∀ state, effect.ended state [event] state) :
    effect.Has (Coroutine.emit event : Coroutine ε σ ρ τ Unit) :=
  fun state _ => records state

/-- Effects of parts compose. -/
theorem after {before middle : σ} {first : List τ} {run : Run ε σ ρ τ α}
    (ended : effect.ended before first middle) (done : effect.Done middle run) :
    effect.Done before (run.after first) := by
  obtain ⟨later, ⟨value, final, rest⟩ | ⟨error, final, rest⟩ | ⟨final⟩⟩ := run
  · exact effect.trans ended done
  · exact effect.trans ended done
  · exact effect.during ended done

theorem bind {first : Coroutine ε σ ρ τ α} {next : α → Coroutine ε σ ρ τ β}
    (has : effect.Has first) (rest : ∀ value, effect.Has (next value)) :
    effect.Has (first >>= next) := by
  intro state script
  have done := has state script
  change effect.Done state (Coroutine.bind first next state script)
  unfold Coroutine.bind
  generalize first state script = outcome at done ⊢
  obtain ⟨trace, ⟨value, middle, left⟩ | ⟨error, final, left⟩ | ⟨final⟩⟩ := outcome
  · exact after done (rest value middle left)
  · exact done
  · exact done

theorem handle {body : Coroutine ε σ ρ τ α} {handler : ε → Coroutine ε σ ρ τ α}
    (has : effect.Has body) (handles : ∀ error, effect.Has (handler error)) :
    effect.Has (Coroutine.handle body handler) := by
  intro state script
  have done := has state script
  unfold Coroutine.handle
  generalize body state script = outcome at done ⊢
  obtain ⟨trace, ⟨value, middle, left⟩ | ⟨error, middle, left⟩ | ⟨final⟩⟩ := outcome
  · exact done
  · exact after done (handles error middle left)
  · exact done

theorem andFinally {body : Coroutine ε σ ρ τ α} {cleanup : Coroutine ε σ ρ τ Unit}
    (has : effect.Has body) (cleans : effect.Has cleanup) :
    effect.Has (Coroutine.andFinally body cleanup) :=
  bind (handle has fun error => bind cleans fun _ => raise error) fun value =>
    bind cleans fun _ => Has.pure value

theorem ite {condition : Prop} [Decidable condition] {yes no : Coroutine ε σ ρ τ α}
    (whenYes : effect.Has yes) (whenNo : effect.Has no) :
    effect.Has (if condition then yes else no) := by
  split
  · exact whenYes
  · exact whenNo

/-- Each round of a loop has the effect. -/
theorem iterate {body : β → Coroutine ε σ ρ τ (β ⊕ α)} (round : ∀ seed, effect.Has (body seed))
    (seed : β) : effect.Has (Coroutine.iterate body seed) := by
  have rounds : ∀ fuel seed, effect.Has (iterateFuel body fuel seed) := by
    intro fuel
    induction fuel with
    | zero => exact fun _ => diverge
    | succ fuel ih =>
        intro seed
        apply bind (round seed)
        rintro (next | value)
        · exact ih next
        · exact Has.pure value
  exact fun state script => rounds _ seed state script

theorem forever {body : Coroutine ε σ ρ τ (Option α)} (has : effect.Has body) :
    effect.Has (Coroutine.forever body) := by
  apply iterate
  intro _
  apply bind has
  rintro (_ | value)
  · exact Has.pure _
  · exact Has.pure _

theorem times {body : Coroutine ε σ ρ τ Unit} (has : effect.Has body) (count : Nat) :
    effect.Has (Coroutine.times count body) := by
  induction count with
  | zero => exact Has.pure ()
  | succ count ih => exact bind has fun _ => ih

theorem forEach {body : γ → Coroutine ε σ ρ τ Unit} (has : ∀ item, effect.Has (body item))
    (items : List γ) : effect.Has (Coroutine.forEach items body) := by
  induction items with
  | nil => exact Has.pure ()
  | cons item items ih => exact bind (has item) fun _ => ih

/-- What an effect keeps, the program upholds. -/
theorem upholds {program : Coroutine ε σ ρ τ α} (has : effect.Has program) {rely : τ → Prop}
    {inv : σ → List τ → Prop}
    (ends : ∀ before trace after past, effect.ended before trace after → inv before past →
      inv after (past ++ trace))
    (waits : ∀ before trace after past, effect.waits before trace after → inv before past →
      inv after (past ++ trace)) : Upholds rely inv (fun _ => True) program := by
  intro state past holds script _
  have done := has state script
  unfold Run.Meets
  generalize program state script = run at done ⊢
  obtain ⟨trace, ⟨value, final, left⟩ | ⟨error, final, left⟩ | ⟨final⟩⟩ := run
  · exact ends state trace final past done holds
  · exact ⟨ends state trace final past done holds, trivial⟩
  · exact waits state trace final past done holds

end Has

/-- What is set up before a body is taken down after it, whichever way it ends. -/
theorem has_bracket {inner outer : Effect σ τ} {arm : Coroutine ε σ ρ τ β}
    {body : β → Coroutine ε σ ρ τ α} {disarm : β → Coroutine ε σ ρ τ Unit} (set : σ → σ)
    (place : σ → β) (reset : β → σ → σ)
    (arms : ∀ state script, arm state script = ⟨[], .returned (place state) (set state) script⟩)
    (disarms : ∀ place state script,
      disarm place state script = ⟨[], .returned () (reset place state) script⟩)
    (waits : ∀ {state trace final}, inner.waits (set state) trace final →
      outer.waits state trace final)
    (closes : ∀ {state trace final}, inner.ended (set state) trace final →
      outer.ended state trace (reset (place state) final))
    (has : ∀ place, inner.Has (body place)) :
    outer.Has (arm >>= fun place => Coroutine.andFinally (body place) (disarm place)) := by
  intro state script
  have done := has (place state) (set state) script
  have run : (arm >>= fun place => Coroutine.andFinally (body place) (disarm place)) state script =
      Coroutine.andFinally (body (place state)) (disarm (place state)) (set state) script := by
    change Coroutine.bind arm _ state script = _
    unfold Coroutine.bind
    rw [arms]
    rfl
  rw [run]
  rcases ran : body (place state) (set state) script with
    ⟨trace, ⟨value, middle, left⟩ | ⟨error, middle, left⟩ | ⟨final⟩⟩
  · have ended : Coroutine.andFinally (body (place state)) (disarm (place state)) (set state)
        script = ⟨trace, .returned value (reset (place state) middle) left⟩ := by
      simp [Coroutine.andFinally, Bind.bind, Coroutine.bind, Coroutine.handle, ran, disarms,
        Pure.pure, Coroutine.pure, Run.after]
    rw [ran] at done
    rw [ended]
    exact closes done
  · have ended : Coroutine.andFinally (body (place state)) (disarm (place state)) (set state)
        script = ⟨trace, .raised error (reset (place state) middle) left⟩ := by
      simp [Coroutine.andFinally, Bind.bind, Coroutine.bind, Coroutine.handle, ran, disarms,
        Coroutine.raise, Run.after]
    rw [ran] at done
    rw [ended]
    exact closes done
  · have ended : Coroutine.andFinally (body (place state)) (disarm (place state)) (set state)
        script = ⟨trace, .waiting final⟩ := by
      simp [Coroutine.andFinally, Bind.bind, Coroutine.bind, Coroutine.handle, ran]
    rw [ran] at done
    rw [ended]
    exact waits done

end Effect

end Phomemo.Async
