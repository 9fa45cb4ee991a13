import Phomemo.Clients
import Phomemo.PageEnd.Reply

/-!
# One session and one handler at a time

The flag that a session is active is a lock: one session holds it from its check until its handler
has ended.  An abort reaches the handler that is pending when it is received, and no later one.
-/

namespace Phomemo

open Async

/-- The session is past the check and has not returned. -/
def RunStage.engaged : RunStage → Bool
  | .reading | .sending _ | .gathering _ => true
  | _ => false

/-- The handler has not ended. -/
def CommandStage.unfinished : CommandStage → Bool
  | .created | .running => true
  | _ => false

namespace ClientSession

/-- A step that requests an abort: an abort is received, or the loop ends. -/
def Aborts (s : ClientSession) : Action → Prop
  | .receive message => s.stage = .reading ∧ message.isAbort = true
  | .hangUp | .crash _ => s.stage = .reading
  | .drained => s.stage = .sending true
  | _ => False

/-- A step that asks the handler of a task to stop: its command is pending, and the handler has not
ended. -/
def Asks (t : Nat) (s : ClientSession) (action : Action) : Prop :=
  s.Aborts action ∧ s.pending = some t ∧
    ∃ task : CommandTask, s.tasks[t]? = some task ∧ task.stage.unfinished = true

/-- What holds of the pending task: its handler has read its own event alone, and that is set if
the handler has been asked to stop. -/
structure Pends (abort : Nat) (events : List Bool) (asked : Prop) (task : CommandTask) : Prop where
  unreleased : task.stage ≠ .released
  taken : task.stage.unfinished = true → ∀ event ∈ task.taken, event = abort
  event : task.stage.unfinished = true → (events[abort]? = some true ↔ asked)

/-- The invariant of a session, some of whose tasks have been asked to stop. -/
structure Sound (asked : Nat → Prop) (s : ClientSession) : Prop where
  released : ∀ (t : Nat) (task : CommandTask), s.tasks[t]? = some task → s.pending ≠ some t →
    task.stage = .released
  pends : ∀ t, s.pending = some t →
    ∃ task, s.tasks[t]? = some task ∧ Pends s.abort s.events (asked t) task
  finished : s.stage.engaged = false → ∀ (t : Nat) (task : CommandTask), s.tasks[t]? = some task →
    task.stage.unfinished = false
  gathers : ∀ t, s.stage = .gathering t → s.pending = none ∨ s.pending = some t
  current : s.abort < s.events.length
  stopped : ∀ (t : Nat) (task : CommandTask), s.tasks[t]? = some task → task.stopped = true →
    asked t
  made : ∀ t, asked t → t < s.tasks.length

@[simp]
theorem task_eq_some {s : ClientSession} {stage : CommandStage} {t : Nat} {task : CommandTask} :
    s.task stage t = some task ↔ s.tasks[t]? = some task ∧ task.stage = stage := by
  simp [ClientSession.task, Option.filter_eq_some_iff]

theorem leave_of_pending {s : ClientSession} {t : Nat} (active : Bool)
    (held : s.pending = some t) :
    s.leave active = (active, { s.requestAbort with stage := .gathering t }) := by
  simp [leave, held]

theorem leave_of_idle {s : ClientSession} (active : Bool) (idle : s.pending = none) :
    s.leave active = (false, { s with stage := .returned }) := by
  simp [leave, idle]

theorem getElem?_setTask {s : ClientSession} {t other : Nat} {after task : CommandTask}
    (found : (s.setTask t after).tasks[other]? = some task) :
    other = t ∧ task = after ∨ other ≠ t ∧ s.tasks[other]? = some task := by
  unfold setTask at found
  dsimp only at found
  rw [List.getElem?_set] at found
  split_ifs at found with same
  · exact .inl ⟨same.symm, (Option.some.inj found).symm⟩
  · exact .inr ⟨Ne.symm same, found⟩

namespace Sound

variable {env : Env} {active : Bool} {s next : ClientSession} {asked asks : Nat → Prop}

theorem initial : Sound (fun _ => False) {} where
  released := by simp
  pends := nofun
  finished := by simp
  gathers := nofun
  current := Nat.zero_lt_one
  stopped := by simp
  made := fun _ => False.elim

/-- Nothing but the stage of `run`, and what it has read and written, changes. -/
theorem same (sound : Sound asked s) (tasks : next.tasks = s.tasks)
    (pending : next.pending = s.pending) (abort : next.abort = s.abort)
    (events : next.events = s.events)
    (engaged : next.stage.engaged = false → s.stage.engaged = false)
    (gathers : ∀ t, next.stage = .gathering t → s.stage = .gathering t) : Sound asked next := by
  obtain ⟨stage, pending', abort', tasks', events', failed, received, out⟩ := next
  obtain rfl : pending' = s.pending := pending
  obtain rfl : abort' = s.abort := abort
  obtain rfl : tasks' = s.tasks := tasks
  obtain rfl : events' = s.events := events
  exact {
    released := sound.released
    pends := by
      intro t held
      obtain ⟨task, found, pends⟩ := sound.pends t held
      exact ⟨task, found, pends.unreleased, pends.taken, pends.event⟩
    finished := fun free => sound.finished (engaged free)
    gathers := fun t gathering => sound.gathers t (gathers t gathering)
    current := sound.current
    stopped := sound.stopped
    made := sound.made }

/-- An abort is requested. -/
theorem requestAbort (sound : Sound asked s)
    (asks_iff : ∀ t, asks t ↔ asked t ∨ s.pending = some t ∧
      ∃ task : CommandTask, s.tasks[t]? = some task ∧ task.stage.unfinished = true) :
    Sound asks s.requestAbort where
  released := sound.released
  pends := by
    intro t held
    obtain ⟨task, found, pends⟩ := sound.pends t held
    refine ⟨task, found, pends.unreleased, pends.taken, fun unfinished => ?_⟩
    have isSet : s.requestAbort.events[s.requestAbort.abort]? = some true := by
      simp [ClientSession.requestAbort, sound.current]
    exact iff_of_true isSet ((asks_iff t).mpr (.inr ⟨held, task, found, unfinished⟩))
  finished := sound.finished
  gathers := sound.gathers
  current := by simpa [ClientSession.requestAbort] using sound.current
  stopped := by
    intro t task found stopped
    exact (asks_iff t).mpr (.inl (sound.stopped t task found stopped))
  made := by
    intro t asks
    rcases (asks_iff t).mp asks with asked | ⟨-, task, found, -⟩
    · exact sound.made t asked
    · exact (List.getElem?_eq_some_iff.mp found).1

/-- The loop ends. -/
theorem leave (sound : Sound asked s)
    (asks_iff : ∀ t, asks t ↔ asked t ∨ s.pending = some t ∧
      ∃ task, s.tasks[t]? = some task ∧ task.stage.unfinished = true) :
    Sound asks (s.leave active).2 := by
  have requested := sound.requestAbort asks_iff
  cases held : s.pending with
  | some t =>
      rw [leave_of_pending active held]
      exact { requested with
        finished := nofun
        gathers := fun other gathering => .inr (held.trans (congrArg some
          (RunStage.gathering.inj gathering))) }
  | none =>
      rw [leave_of_idle active held]
      have idle : ∀ t, asks t ↔ asked t := by simp [asks_iff, held]
      obtain rfl : asks = asked := funext fun t => propext (idle t)
      have released : ∀ (t : Nat) (task : CommandTask), s.tasks[t]? = some task →
          task.stage = .released :=
        fun t task found => sound.released t task found (by simp [held])
      exact { sound with
        finished := by
          intro _ t task found
          rw [released t task found]
          rfl
        gathers := nofun
        pends := fun t pending => nomatch held.symm.trans pending }

/-- A command is accepted. -/
theorem accept (sound : Sound asked s) (reading : s.stage = .reading) (idle : s.pending = none)
    (message : Nat) (name : CommandName) (received : List Receipt) :
    Sound asked { s with
      received := received
      abort := s.events.length
      events := s.events ++ [false]
      pending := some s.tasks.length
      tasks := s.tasks ++ [{ message, name }] } where
  released := by
    intro t task found other
    rcases getElem?_concat.mp found with before | ⟨rfl, rfl⟩
    · exact sound.released t task before (by simp [idle])
    · exact absurd rfl other
  pends := by
    intro t held
    obtain rfl := Option.some.inj held
    refine ⟨_, getElem?_concat.mpr (.inr ⟨rfl, rfl⟩), nofun, nofun, fun _ => ?_⟩
    have unasked : ¬asked s.tasks.length := fun asked => lt_irrefl _ (sound.made _ asked)
    simp [unasked]
  finished := fun free => by simp [reading, RunStage.engaged] at free
  gathers := fun t gathering => nomatch reading.symm.trans gathering
  current := by simp
  stopped := by
    intro t task found stopped
    rcases getElem?_concat.mp found with before | ⟨rfl, rfl⟩
    · exact sound.stopped t task before stopped
    · cases stopped
  made := by
    intro t asked
    have inside := sound.made t asked
    simp only [List.length_append, List.length_singleton]
    omega

/-- A task that is not released is the pending one. -/
theorem pending_of_unreleased (sound : Sound asked s) {t : Nat} {task : CommandTask}
    (found : s.tasks[t]? = some task) (unreleased : task.stage ≠ .released) :
    s.pending = some t ∧ Pends s.abort s.events (asked t) task := by
  have held : s.pending = some t := by
    by_contra other
    exact unreleased (sound.released t task found other)
  obtain ⟨same, found', pends⟩ := sound.pends t held
  obtain rfl := Option.some.inj (found.symm.trans found')
  exact ⟨held, pends⟩

/-- The pending task goes on. -/
theorem setTask (sound : Sound asked s) {t : Nat} {task after : CommandTask}
    (found : s.tasks[t]? = some task) (unreleased : task.stage ≠ .released)
    (pends : Pends s.abort s.events (asked t) after)
    (finished : after.stage.unfinished = true → task.stage.unfinished = true)
    (stopped : after.stopped = true → asked t) : Sound asked (s.setTask t after) := by
  have held := (sound.pending_of_unreleased found unreleased).1
  have inside := (List.getElem?_eq_some_iff.mp found).1
  exact {
    released := by
      intro other task there apart
      rcases getElem?_setTask there with ⟨rfl, rfl⟩ | ⟨-, before⟩
      · exact absurd held apart
      · exact sound.released other task before apart
    pends := by
      intro other pending
      obtain rfl := Option.some.inj (held.symm.trans pending)
      refine ⟨after, ?_, pends.unreleased, pends.taken, pends.event⟩
      simp [ClientSession.setTask, inside]
    finished := by
      intro free other task there
      rcases getElem?_setTask there with ⟨rfl, rfl⟩ | ⟨-, before⟩
      · by_contra unfinished
        have ended := sound.finished free _ _ found
        rw [finished (Bool.eq_true_of_not_eq_false unfinished)] at ended
        cases ended
      · exact sound.finished free other task before
    gathers := sound.gathers
    current := sound.current
    stopped := by
      intro other task there isStopped
      rcases getElem?_setTask there with ⟨rfl, rfl⟩ | ⟨-, before⟩
      · exact stopped isStopped
      · exact sound.stopped other task before isStopped
    made := by
      intro other asked
      simpa [ClientSession.setTask] using sound.made other asked }

/-- The done callback of the pending task. -/
theorem release (sound : Sound asked s) {t : Nat} {task : CommandTask}
    (found : s.tasks[t]? = some task) (done : task.stage = .done) :
    Sound asked { s.setTask t { task with stage := .released } with pending := none } := by
  have held : s.pending = some t :=
    (sound.pending_of_unreleased found (by simp [done])).1
  exact {
    released := by
      intro other task there _
      rcases getElem?_setTask there with ⟨rfl, rfl⟩ | ⟨apart, before⟩
      · rfl
      · apply sound.released other task before
        rw [held]
        exact fun same => apart (Option.some.inj same).symm
    pends := nofun
    finished := by
      intro free other task there
      rcases getElem?_setTask there with ⟨rfl, rfl⟩ | ⟨-, before⟩
      · rfl
      · exact sound.finished free other task before
    gathers := fun _ _ => .inl rfl
    current := sound.current
    stopped := by
      intro other task there stopped
      rcases getElem?_setTask there with ⟨rfl, rfl⟩ | ⟨-, before⟩
      · exact sound.stopped _ _ found stopped
      · exact sound.stopped other task before stopped
    made := by
      intro other asked
      simpa [ClientSession.setTask] using sound.made other asked }

/-- What the loop does with a message. -/
theorem take (sound : Sound asked s) (reading : s.stage = .reading) (message : Message)
    (asks_iff : ∀ t, asks t ↔ asked t ∨ s.Asks t (.receive message)) :
    Sound asks (s.take env active message).2 := by
  unfold ClientSession.take
  dsimp only
  split
  · next abort =>
      have requested : Sound asks s.requestAbort := by
        apply sound.requestAbort
        intro t
        rw [asks_iff]
        simp [Asks, Aborts, reading, abort]
      exact requested.same rfl rfl rfl rfl nofun nofun
  · next other =>
      have unasked : ∀ t, asks t ↔ asked t := by
        intro t
        rw [asks_iff]
        simp [Asks, Aborts, other]
      obtain rfl : asks = asked := funext fun t => propext (unasked t)
      split
      · exact sound.same rfl rfl rfl rfl nofun nofun
      · next idle =>
          have idle : s.pending = none := by simpa using idle
          split
          · next exc fails =>
              have read : Sound asks { s with
                  received := s.received ++ [{ message, busy := s.pending.isSome }]
                  failed := some exc } :=
                sound.same rfl rfl rfl rfl id fun _ => id
              apply read.leave
              intro t
              simp [idle]
          · exact sound.same rfl rfl rfl rfl nofun nofun
          · exact sound.accept reading idle _ _ _

theorem step {now : Bool} {action : Action} (sound : Sound asked s)
    (stepped : s.step env active action = some (now, next))
    (asks_iff : ∀ t, asks t ↔ asked t ∨ s.Asks t action) : Sound asks next := by
  have calm : (¬s.Aborts action) → asks = asked := by
    intro quiet
    funext t
    simp [asks_iff, Asks, quiet]
  cases action with
  | enter =>
      obtain rfl := calm id
      simp only [ClientSession.step, Option.ite_none_right_eq_some] at stepped
      obtain ⟨connected, stepped⟩ := stepped
      have free : s.stage.engaged = false := by rw [connected]; rfl
      split at stepped
      · obtain ⟨rfl, rfl⟩ := Prod.mk.inj (Option.some.inj stepped)
        exact sound.same rfl rfl rfl rfl (fun _ => free) nofun
      · obtain ⟨rfl, rfl⟩ := Prod.mk.inj (Option.some.inj stepped)
        exact sound.same rfl rfl rfl rfl nofun nofun
  | receive message =>
      simp only [ClientSession.step, Option.ite_none_right_eq_some, Option.some.injEq] at stepped
      obtain ⟨reading, taken⟩ := stepped
      have after := @take env active s asked asks sound reading message asks_iff
      rw [taken] at after
      exact after
  | violate text =>
      obtain rfl := calm id
      simp only [ClientSession.step, Option.ite_none_right_eq_some, Option.some.injEq,
        Prod.mk.injEq] at stepped
      obtain ⟨reading, -, rfl⟩ := stepped
      exact sound.same rfl rfl rfl rfl nofun nofun
  | hangUp =>
      simp only [ClientSession.step, Option.ite_none_right_eq_some, Option.some.injEq] at stepped
      obtain ⟨reading, left⟩ := stepped
      have after : Sound asks (s.leave active).2 := by
        apply sound.leave
        simpa [Asks, Aborts, reading] using asks_iff
      rw [left] at after
      exact after
  | crash exc =>
      simp only [ClientSession.step, Option.ite_none_right_eq_some, Option.some.injEq] at stepped
      obtain ⟨reading, left⟩ := stepped
      have failed : Sound asked { s with failed := some exc } :=
        sound.same rfl rfl rfl rfl id fun _ => id
      have after : Sound asks (ClientSession.leave active { s with failed := some exc }).2 := by
        apply failed.leave
        simpa [Asks, Aborts, reading] using asks_iff
      rw [left] at after
      exact after
  | drained =>
      simp only [ClientSession.step] at stepped
      split at stepped
      · next refusing =>
          obtain rfl := calm (by simp [Aborts, refusing])
          obtain ⟨rfl, rfl⟩ := Prod.mk.inj (Option.some.inj stepped)
          have free : s.stage.engaged = false := by rw [refusing]; rfl
          exact sound.same rfl rfl rfl rfl (fun _ => free) nofun
      · next sending =>
          obtain rfl := calm (by simp [Aborts, sending])
          obtain ⟨rfl, rfl⟩ := Prod.mk.inj (Option.some.inj stepped)
          exact sound.same rfl rfl rfl rfl nofun nofun
      · next last =>
          have left := Option.some.inj stepped
          have after : Sound asks (s.leave active).2 := by
            apply sound.leave
            simpa [Asks, Aborts, last] using asks_iff
          rw [left] at after
          exact after
      · cases stepped
  | gathered =>
      obtain rfl := calm id
      simp only [ClientSession.step] at stepped
      split at stepped
      · next t gathering =>
          simp only [Option.ite_none_right_eq_some, Option.some.injEq, Prod.mk.injEq] at stepped
          obtain ⟨ended, -, rfl⟩ := stepped
          exact { sound with
            gathers := nofun
            finished := by
              intro _ other task found
              by_cases held : s.pending = some other
              · rcases sound.gathers t gathering with none | same
                · exact nomatch held.symm.trans none
                · obtain rfl := Option.some.inj (held.symm.trans same)
                  simp only [Option.isSome_iff_exists, task_eq_some, found, Option.some.injEq,
                    exists_eq_left'] at ended
                  rcases ended with ended | ended <;> rw [ended] <;> rfl
              · rw [sound.released other task found held]
                rfl }
      · cases stepped
  | start t =>
      obtain rfl := calm id
      obtain ⟨task, created, same⟩ := Option.map_eq_some_iff.mp stepped
      obtain ⟨rfl, rfl⟩ := Prod.mk.inj same
      obtain ⟨found, stage⟩ := task_eq_some.mp created
      have unreleased : task.stage ≠ .released := by simp [stage]
      obtain ⟨-, pends⟩ := sound.pending_of_unreleased found unreleased
      have unfinished : task.stage.unfinished = true := by rw [stage]; rfl
      refine sound.setTask found unreleased ?_ (fun _ => unfinished) ?_
      · exact ⟨nofun, fun _ => pends.taken unfinished, fun _ => pends.event unfinished⟩
      · exact sound.stopped t task found
  | watch t =>
      obtain rfl := calm id
      obtain ⟨task, running, same⟩ := Option.map_eq_some_iff.mp stepped
      obtain ⟨rfl, rfl⟩ := Prod.mk.inj same
      obtain ⟨found, stage⟩ := task_eq_some.mp running
      have unreleased : task.stage ≠ .released := by simp [stage]
      obtain ⟨-, pends⟩ := sound.pending_of_unreleased found unreleased
      refine sound.setTask found unreleased ?_ id ?_
      · refine ⟨unreleased, fun unfinished event member => ?_, pends.event⟩
        rcases List.mem_cons.mp member with here | before
        · exact here
        · exact pends.taken unfinished event before
      · exact sound.stopped t task found
  | stop t event =>
      obtain rfl := calm id
      obtain ⟨task, running, stepped⟩ := Option.bind_eq_some_iff.mp stepped
      obtain ⟨found, stage⟩ := task_eq_some.mp running
      obtain ⟨⟨taken, isSet⟩, same⟩ := Option.ite_none_right_eq_some.mp stepped
      obtain ⟨rfl, rfl⟩ := Prod.mk.inj (Option.some.inj same)
      have unreleased : task.stage ≠ .released := by simp [stage]
      obtain ⟨-, pends⟩ := sound.pending_of_unreleased found unreleased
      have unfinished : task.stage.unfinished = true := by rw [stage]; rfl
      obtain rfl := pends.taken unfinished event taken
      refine sound.setTask found unreleased ?_ id ?_
      · exact ⟨unreleased, pends.taken, pends.event⟩
      · exact fun _ => (pends.event unfinished).mp isSet
  | push t event =>
      obtain rfl := calm id
      obtain ⟨task, running, same⟩ := Option.map_eq_some_iff.mp stepped
      obtain ⟨rfl, rfl⟩ := Prod.mk.inj same
      exact sound.same rfl rfl rfl rfl id fun _ => id
  | finish t outcome =>
      obtain rfl := calm id
      obtain ⟨task, running, same⟩ := Option.map_eq_some_iff.mp stepped
      obtain ⟨rfl, rfl⟩ := Prod.mk.inj same
      obtain ⟨found, stage⟩ := task_eq_some.mp running
      have unreleased : task.stage ≠ .released := by simp [stage]
      have replying : Sound asks (s.setTask t { task with stage := .replying }) := by
        refine sound.setTask found unreleased ?_ nofun ?_
        · exact ⟨nofun, nofun, nofun⟩
        · exact sound.stopped t task found
      exact replying.same rfl rfl rfl rfl id fun _ => id
  | replied t =>
      obtain rfl := calm id
      obtain ⟨task, replying, same⟩ := Option.map_eq_some_iff.mp stepped
      obtain ⟨rfl, rfl⟩ := Prod.mk.inj same
      obtain ⟨found, stage⟩ := task_eq_some.mp replying
      refine sound.setTask found (by simp [stage]) ?_ nofun ?_
      · exact ⟨nofun, nofun, nofun⟩
      · exact sound.stopped t task found
  | release t =>
      obtain rfl := calm id
      obtain ⟨task, done, same⟩ := Option.map_eq_some_iff.mp stepped
      obtain ⟨rfl, rfl⟩ := Prod.mk.inj same
      obtain ⟨found, stage⟩ := task_eq_some.mp done
      exact sound.release found stage

end Sound

/-! ## The lock -/

/-- What a step does to the lock: nothing, or its session gives it up or takes it. -/
inductive Turn (active : Bool) (before : RunStage) (now : Bool) (after : RunStage) : Prop where
  | keeps (same : after.engaged = before.engaged) (flag : now = active)
  | gives (held : before.engaged = true) (free : after.engaged = false) (flag : now = false)
  | takes (free : before.engaged = false) (held : after.engaged = true) (was : active = false)
      (flag : now = true)

section

variable {env : Env} {active : Bool} {s : ClientSession}

theorem leave_turn (engaged : s.stage.engaged = true) :
    Turn active s.stage (s.leave active).1 (s.leave active).2.stage := by
  cases held : s.pending with
  | some t =>
      rw [leave_of_pending active held]
      exact .keeps engaged.symm rfl
  | none =>
      rw [leave_of_idle active held]
      exact .gives engaged rfl rfl

theorem take_turn (reading : s.stage = .reading) (message : Message) :
    Turn active s.stage (s.take env active message).1 (s.take env active message).2.stage := by
  have engaged : s.stage.engaged = true := by rw [reading]; rfl
  unfold take
  dsimp only
  split
  · exact .keeps engaged.symm rfl
  · split
    · exact .keeps engaged.symm rfl
    · split
      · next exc fails =>
          exact @leave_turn active
            { s with
              received := s.received ++ [{ message, busy := s.pending.isSome }]
              failed := some exc } engaged
      · exact .keeps engaged.symm rfl
      · exact .keeps rfl rfl

theorem step_turn {now : Bool} {next : ClientSession} {action : Action}
    (stepped : s.step env active action = some (now, next)) :
    Turn active s.stage now next.stage := by
  cases action with
  | enter =>
      simp only [step, Option.ite_none_right_eq_some] at stepped
      obtain ⟨connected, stepped⟩ := stepped
      rw [connected]
      split at stepped
      · obtain ⟨rfl, rfl⟩ := Prod.mk.inj (Option.some.inj stepped)
        exact .keeps rfl rfl
      · next inactive =>
          obtain ⟨rfl, rfl⟩ := Prod.mk.inj (Option.some.inj stepped)
          exact .takes rfl rfl (Bool.eq_false_of_not_eq_true inactive) rfl
  | receive message =>
      simp only [step, Option.ite_none_right_eq_some, Option.some.injEq] at stepped
      obtain ⟨reading, taken⟩ := stepped
      have turn := @take_turn env active s reading message
      rw [taken] at turn
      exact turn
  | violate text =>
      simp only [step, Option.ite_none_right_eq_some, Option.some.injEq, Prod.mk.injEq] at stepped
      obtain ⟨reading, rfl, rfl⟩ := stepped
      rw [reading]
      exact .keeps rfl rfl
  | hangUp =>
      simp only [step, Option.ite_none_right_eq_some, Option.some.injEq] at stepped
      obtain ⟨reading, left⟩ := stepped
      have turn : Turn active s.stage (s.leave active).1 (s.leave active).2.stage :=
        leave_turn (by rw [reading]; rfl)
      rw [left] at turn
      exact turn
  | crash exc =>
      simp only [step, Option.ite_none_right_eq_some, Option.some.injEq] at stepped
      obtain ⟨reading, left⟩ := stepped
      have engaged : s.stage.engaged = true := by rw [reading]; rfl
      have turn := @leave_turn active { s with failed := some exc } engaged
      rw [left] at turn
      exact turn
  | drained =>
      simp only [step] at stepped
      split at stepped
      · next refusing =>
          obtain ⟨rfl, rfl⟩ := Prod.mk.inj (Option.some.inj stepped)
          rw [refusing]
          exact .keeps rfl rfl
      · next sending =>
          obtain ⟨rfl, rfl⟩ := Prod.mk.inj (Option.some.inj stepped)
          rw [sending]
          exact .keeps rfl rfl
      · next last =>
          have turn : Turn active s.stage (s.leave active).1 (s.leave active).2.stage :=
            leave_turn (by rw [last]; rfl)
          rw [Option.some.inj stepped] at turn
          exact turn
      · cases stepped
  | gathered =>
      simp only [step] at stepped
      split at stepped
      · next t gathering =>
          simp only [Option.ite_none_right_eq_some, Option.some.injEq, Prod.mk.injEq] at stepped
          obtain ⟨-, rfl, rfl⟩ := stepped
          rw [gathering]
          exact .gives rfl rfl rfl
      · cases stepped
  | stop t event =>
      obtain ⟨task, running, stepped⟩ := Option.bind_eq_some_iff.mp stepped
      obtain ⟨-, same⟩ := Option.ite_none_right_eq_some.mp stepped
      obtain ⟨rfl, rfl⟩ := Prod.mk.inj (Option.some.inj same)
      exact .keeps rfl rfl
  | start t | watch t | push t event | finish t outcome | replied t | release t =>
      obtain ⟨task, -, same⟩ := Option.map_eq_some_iff.mp stepped
      obtain ⟨rfl, rfl⟩ := Prod.mk.inj same
      exact .keeps rfl rfl

end

end ClientSession

/-! ## The bridge -/

namespace Clients

/-- The session that holds the lock, if one does. -/
structure Held (c : Clients) (holder : Option Nat) : Prop where
  active : c.active = holder.isSome
  engaged : ∀ (i : Nat) (s : ClientSession), c.sessions[i]? = some s →
    (s.stage.engaged = true ↔ holder = some i)
  inside : ∀ i, holder = some i → i < c.sessions.length

/-- A step of a session that asks the handler of its task `t` to stop. -/
def Asks (i t : Nat) (c : Clients) : Action → Prop
  | .connect => False
  | .session j action => j = i ∧ ∃ s, c.sessions[i]? = some s ∧ s.Asks t action

/-- In some step of the run, session `i` asked the handler of its task `t` to stop. -/
def Asked (env : Env) (past : List Action) (i t : Nat) : Prop :=
  Occurred (step env) {} (Asks i t) past

/-- The invariant of the bridge. -/
structure Sound (env : Env) (past : List Action) (c : Clients) : Prop where
  held : ∃ holder, c.Held holder
  sessions : ∀ (i : Nat) (s : ClientSession), c.sessions[i]? = some s →
    s.Sound (Asked env past i)
  known : ∀ i t, Asked env past i t → i < c.sessions.length

namespace Sound

variable {env : Env} {past : List Action} {c next : Clients}

theorem initial (env : Env) : Sound env [] {} where
  held := ⟨none, rfl, by simp, nofun⟩
  sessions := by simp
  known := fun _ _ asked => absurd asked not_occurred_nil

/-- A client connects. -/
theorem connect (reached : run env past = some c) (sound : Sound env past c) :
    Sound env (past ++ [.connect]) { c with sessions := c.sessions ++ [{}] } := by
  have same : ∀ i t, Asked env (past ++ [.connect]) i t ↔ Asked env past i t := by
    intro i t
    rw [Asked, occurred_concat reached]
    exact or_iff_left id
  have asks : ∀ i, Asked env (past ++ [.connect]) i = Asked env past i :=
    fun i => funext fun t => propext (same i t)
  obtain ⟨holder, held⟩ := sound.held
  exact {
    held := by
      refine ⟨holder, held.active, ?_, ?_⟩
      · intro i s found
        rcases getElem?_concat.mp found with before | ⟨rfl, rfl⟩
        · exact held.engaged i s before
        · refine ⟨nofun, fun same => ?_⟩
          exact absurd (held.inside _ same) (lt_irrefl _)
      · intro i same
        have inside := held.inside i same
        simp only [List.length_append, List.length_singleton]
        omega
    sessions := by
      intro i s found
      rw [asks]
      rcases getElem?_concat.mp found with before | ⟨rfl, rfl⟩
      · exact sound.sessions i s before
      · have none : Asked env past c.sessions.length = fun _ => False := by
          funext t
          exact eq_false fun asked => lt_irrefl _ (sound.known _ t asked)
        rw [none]
        exact .initial
    known := by
      intro i t asked
      have inside := sound.known i t ((same i t).mp asked)
      simp only [List.length_append, List.length_singleton]
      omega }

/-- The lock after a step of a session. -/
theorem turn {holder : Option Nat} (held : c.Held holder) {i : Nat} {s after : ClientSession}
    {now : Bool} (found : c.sessions[i]? = some s)
    (turn : ClientSession.Turn c.active s.stage now after.stage) :
    ∃ holder, Held { active := now, sessions := c.sessions.set i after } holder := by
  have inside : i < c.sessions.length := (List.getElem?_eq_some_iff.mp found).1
  have others : ∀ {j : Nat} {other : ClientSession}, j ≠ i →
      (c.sessions.set i after)[j]? = some other →
        (other.stage.engaged = true ↔ holder = some j) := by
    intro j other apart there
    rw [List.getElem?_set_ne (Ne.symm apart)] at there
    exact held.engaged j other there
  have here : ∀ {other : ClientSession}, (c.sessions.set i after)[i]? = some other →
      other = after := by
    intro other there
    rw [List.getElem?_set_self inside] at there
    exact (Option.some.inj there).symm
  cases turn with
  | keeps same flag =>
      refine ⟨holder, flag.trans held.active, ?_, ?_⟩
      · intro j other there
        by_cases apart : j = i
        · subst apart
          rw [here there, same]
          exact held.engaged j s found
        · exact others apart there
      · simpa using held.inside
  | gives was free flag =>
      have holds : holder = some i := (held.engaged i s found).mp was
      refine ⟨none, flag, ?_, nofun⟩
      intro j other there
      by_cases apart : j = i
      · subst apart
        simp [here there, free]
      · rw [others apart there, holds]
        simp [Ne.symm apart]
  | takes free holds was flag =>
      have unheld : holder = none := by
        rw [held.active] at was
        exact Option.isNone_iff_eq_none.mp (by simpa using was)
      refine ⟨some i, flag, ?_, by simpa using inside⟩
      intro j other there
      by_cases apart : j = i
      · subst apart
        simp [here there, holds]
      · rw [others apart there, unheld]
        simp [Ne.symm apart]

/-- A task of a session takes a step. -/
theorem session (reached : run env past = some c) (sound : Sound env past c) {i : Nat}
    {s after : ClientSession} {now : Bool} {action : ClientSession.Action}
    (found : c.sessions[i]? = some s) (stepped : s.step env c.active action = some (now, after)) :
    Sound env (past ++ [.session i action])
      { active := now, sessions := c.sessions.set i after } := by
  have inside : i < c.sessions.length := (List.getElem?_eq_some_iff.mp found).1
  have asked : ∀ j t, Asked env (past ++ [.session i action]) j t ↔
      Asked env past j t ∨ i = j ∧ ∃ s, c.sessions[j]? = some s ∧ s.Asks t action :=
    fun j t => occurred_concat reached _
  obtain ⟨holder, held⟩ := sound.held
  exact {
    held := turn held found (ClientSession.step_turn stepped)
    sessions := by
      intro j other there
      by_cases apart : j = i
      · subst apart
        rw [List.getElem?_set_self inside] at there
        obtain rfl := Option.some.inj there
        apply (sound.sessions j s found).step stepped
        intro t
        rw [asked]
        simp [found]
      · rw [List.getElem?_set_ne (Ne.symm apart)] at there
        have same : Asked env (past ++ [.session i action]) j = Asked env past j := by
          funext t
          simp [asked, Ne.symm apart]
        rw [same]
        exact sound.sessions j other there
    known := by
      intro j t asks
      rw [List.length_set]
      rcases (asked j t).mp asks with before | ⟨rfl, -⟩
      · exact sound.known j t before
      · exact inside }

theorem runs {actions : List Action} (ran : run env actions = some c) : Sound env actions c := by
  apply runs_induction_reached (initial env) _ ran
  intro past c action next reached sound stepped
  cases action with
  | connect =>
      obtain rfl := Option.some.inj stepped
      exact sound.connect reached
  | session i action =>
      obtain ⟨s, found, moves⟩ := Option.bind_eq_some_iff.mp stepped
      obtain ⟨⟨now, after⟩, moved, rfl⟩ := Option.map_eq_some_iff.mp moves
      exact sound.session reached found moved

end Sound

/-- One session and one handler at a time, and aborts that reach the pending handler alone. -/
structure Exclusive (env : Env) (past : List Action) (c : Clients) : Prop where
  one_session : ∀ (i j : Nat) (s other : ClientSession),
    c.sessions[i]? = some s → s.stage.engaged = true →
    c.sessions[j]? = some other → other.stage.engaged = true → i = j
  one_handler : ∀ (i j t u : Nat) (s other : ClientSession) (task later : CommandTask),
    c.sessions[i]? = some s → s.tasks[t]? = some task → task.stage.unfinished = true →
    c.sessions[j]? = some other → other.tasks[u]? = some later → later.stage.unfinished = true →
    i = j ∧ t = u
  returned : ∀ s ∈ c.sessions, s.stage = .returned →
    ∀ task ∈ s.tasks, task.stage.unfinished = false
  active : c.active = true ↔ ∃ s ∈ c.sessions, s.stage.engaged = true
  /-- Once no session holds the bridge, the next client is served. -/
  served : ∀ (i : Nat) (s : ClientSession), c.sessions[i]? = some s → s.stage = .connected →
    (∀ other ∈ c.sessions, other.stage.engaged = false) →
    ∃ next, c.step env (.session i .enter) = some next ∧
      next.sessions[i]? = some { s with stage := .reading }
  /-- A handler that found an abort was asked to stop while it was pending. -/
  stopped : ∀ (i t : Nat) (s : ClientSession) (task : CommandTask),
    c.sessions[i]? = some s → s.tasks[t]? = some task → task.stopped = true → Asked env past i t
  /-- What a handler watches is set as soon as it was asked to stop, and not before. -/
  watched : ∀ (i t : Nat) (s : ClientSession) (task : CommandTask),
    c.sessions[i]? = some s → s.tasks[t]? = some task → task.stage.unfinished = true →
    ∀ event ∈ task.taken, s.events[event]? = some true ↔ Asked env past i t

/-- The clients of a bridge are served one after the other, each with one handler at a time, and an
abort stops the handler that is pending when it is received. -/
theorem clients_exclusive (env : Env) (actions : List Action) (c : Clients)
    (ran : run env actions = some c) : c.Exclusive env actions := by
  have sound := Sound.runs ran
  obtain ⟨holder, held⟩ := sound.held
  have one : ∀ (i j : Nat) (s other : ClientSession),
      c.sessions[i]? = some s → s.stage.engaged = true →
      c.sessions[j]? = some other → other.stage.engaged = true → i = j := by
    intro i j s other found engaged there also
    have first := (held.engaged i s found).mp engaged
    have second := (held.engaged j other there).mp also
    exact Option.some.inj (first.symm.trans second)
  have runs : ∀ (i t : Nat) (s : ClientSession) (task : CommandTask),
      c.sessions[i]? = some s → s.tasks[t]? = some task → task.stage.unfinished = true →
      s.stage.engaged = true ∧ s.pending = some t ∧
        ClientSession.Pends s.abort s.events (Asked env actions i t) task := by
    intro i t s task found there unfinished
    have session := sound.sessions i s found
    have unreleased : task.stage ≠ .released := by
      intro released
      rw [released] at unfinished
      cases unfinished
    refine ⟨?_, session.pending_of_unreleased there unreleased⟩
    by_contra free
    have ended := session.finished (Bool.eq_false_of_not_eq_true free) t task there
    exact Bool.false_ne_true (ended.symm.trans unfinished)
  exact {
    one_session := one
    one_handler := by
      intro i j t u s other task later found there unfinished found' there' unfinished'
      obtain ⟨engaged, pending, -⟩ := runs i t s task found there unfinished
      obtain ⟨engaged', pending', -⟩ := runs j u other later found' there' unfinished'
      obtain rfl := one i j s other found engaged found' engaged'
      obtain rfl := Option.some.inj (found.symm.trans found')
      exact ⟨rfl, Option.some.inj (pending.symm.trans pending')⟩
    returned := by
      intro s member returned task there
      obtain ⟨i, inside, rfl⟩ := List.getElem_of_mem member
      obtain ⟨t, within, rfl⟩ := List.getElem_of_mem there
      apply (sound.sessions i _ (List.getElem?_eq_getElem inside)).finished
      · rw [returned]
        rfl
      · exact List.getElem?_eq_getElem within
    active := by
      rw [held.active, Option.isSome_iff_exists]
      constructor
      · rintro ⟨i, rfl⟩
        have inside := held.inside i rfl
        exact ⟨c.sessions[i], List.getElem_mem inside,
          (held.engaged i _ (List.getElem?_eq_getElem inside)).mpr rfl⟩
      · rintro ⟨s, member, engaged⟩
        obtain ⟨i, inside, rfl⟩ := List.getElem_of_mem member
        exact ⟨i, (held.engaged i _ (List.getElem?_eq_getElem inside)).mp engaged⟩
    served := by
      intro i s found connected free
      have inside := (List.getElem?_eq_some_iff.mp found).1
      have inactive : c.active = false := by
        rw [held.active]
        cases holds : holder with
        | none => rfl
        | some j =>
            have within := held.inside j holds
            have engaged := (held.engaged j _ (List.getElem?_eq_getElem within)).mpr holds
            exact absurd (engaged.symm.trans (free _ (List.getElem_mem within))) nofun
      have entered : s.step env c.active .enter = some (true, { s with stage := .reading }) := by
        simp [ClientSession.step, connected, inactive]
      refine ⟨{ active := true, sessions := c.sessions.set i { s with stage := .reading } }, ?_, ?_⟩
      · rw [step, found, Option.bind_some, entered]
        rfl
      · exact List.getElem?_set_self inside
    stopped := fun i t s task found there stopped =>
      (sound.sessions i s found).stopped t task there stopped
    watched := by
      intro i t s task found there unfinished event member
      obtain ⟨-, -, pends⟩ := runs i t s task found there unfinished
      obtain rfl := pends.taken unfinished event member
      exact pends.event unfinished }

/-! ## Two clients -/

/-- The first client waits for paper and aborts, the second is turned away; after an abort that
finds nothing pending, the first client asks for the paper again and leaves. -/
def twoClients : List Action :=
  [.connect, .connect, .session 0 .enter, .session 1 .enter,
    .session 0 (.receive { fields := [("cmd", .str "wait_ready")] }), .session 1 .drained,
    .session 0 (.start 0), .session 0 (.watch 0),
    .session 0 (.receive { fields := [("cmd", .str "abort")] }), .session 0 .drained,
    .session 0 (.stop 0 1), .session 0 (.finish 0 (.raised (.commandError "cancelled"))),
    .session 0 (.replied 0), .session 0 (.release 0),
    .session 0 (.receive { fields := [("cmd", .str "abort")] }), .session 0 .drained,
    .session 0 (.receive { fields := [("cmd", .str "wait_ready")] }), .session 0 (.start 1),
    .session 0 (.watch 1), .session 0 .hangUp, .session 0 (.stop 1 2),
    .session 0 (.finish 1 (.raised (.commandError "cancelled"))), .session 0 (.replied 1),
    .session 0 .gathered, .session 0 (.release 1), .connect, .session 2 .enter]

/-- The state they leave. -/
def twoClientsEnd : Clients := (run stripEnv twoClients).getD {}

theorem clients_exclusive_two : twoClientsEnd.Exclusive stripEnv twoClients := by
  have ran : run stripEnv twoClients = some twoClientsEnd := rfl
  exact clients_exclusive stripEnv twoClients twoClientsEnd ran

end Clients

end Phomemo
