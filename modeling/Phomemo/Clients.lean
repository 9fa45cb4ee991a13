import Phomemo.SessionLoop

/-!
# The clients of the bridge

Every client has a task that runs its session, and every command of a session a task of its own.
A step runs one of these tasks from one await to the next.  A session keeps what is its own, and
the bridge only whether one is active.
-/

namespace Phomemo

open Async

/-- Where `Session.run` stands. -/
inductive RunStage where
  | connected
  /-- The client is turned away, and its busy line drains. -/
  | refusing
  | refused
  | reading
  /-- A line of the loop drains; whether the loop ends then. -/
  | sending (last : Bool)
  /-- The loop has ended, and a task is awaited. -/
  | gathering (task : Nat)
  | returned
  deriving DecidableEq, Repr

/-- Where `_run_command` stands. -/
inductive CommandStage where
  | created
  | running
  | replying
  /-- The task is done, its done callback is yet to run. -/
  | done
  | released
  deriving DecidableEq, Repr

/-- The task of a command. -/
structure CommandTask where
  message : Nat
  name : CommandName
  stage : CommandStage := .created
  /-- The abort events its handler has taken. -/
  taken : List Nat := []
  stopped : Bool := false

/-- The session of a client: its fields, and the tasks and events it has made. -/
structure ClientSession where
  stage : RunStage := .connected
  /-- `_pending`, one of the tasks. -/
  pending : Option Nat := none
  /-- `_abort`, one of the events. -/
  abort : Nat := 0
  tasks : List CommandTask := []
  events : List Bool := [false]
  failed : Option PyExc := none
  received : List Receipt := []
  out : List Line := []

namespace ClientSession

/-- A task in one of its stages. -/
def task (s : ClientSession) (stage : CommandStage) (t : Nat) : Option CommandTask :=
  s.tasks[t]?.filter fun task => task.stage = stage

/-- A task goes on. -/
def setTask (s : ClientSession) (t : Nat) (task : CommandTask) : ClientSession :=
  { s with tasks := s.tasks.set t task }

/-- `_request_abort`. -/
def requestAbort (s : ClientSession) : ClientSession :=
  { s with events := s.events.set s.abort true }

/-- Write a reply from the loop. -/
def send (s : ClientSession) (message : Nat) (fields : List (String × Json)) : ClientSession :=
  { s with out := s.out ++ [.reply message fields], stage := .sending false }

/-- The `finally` of `run`, with `session_active` as it leaves it: a pending command is asked to
stop and awaited. -/
def leave (active : Bool) (s : ClientSession) : Bool × ClientSession :=
  match s.pending with
  | some t => (active, { s.requestAbort with stage := .gathering t })
  | none => (false, { s with stage := .returned })

/-- `_loop` with a message it has read. -/
def take (env : Env) (active : Bool) (s : ClientSession) (message : Message) :
    Bool × ClientSession :=
  let place := s.received.length
  let receipt : Receipt := { message, busy := s.pending.isSome }
  let s := { s with received := s.received ++ [receipt] }
  if message.isAbort then
    (active, s.requestAbort.send place [("ok", .bool true), ("cmd", .str "abort")])
  else if s.pending.isSome then
    (active, s.send place (refusal message.cmd "busy"))
  else
    match lookupHandler message.cmd with
    | .error exc => { s with failed := some exc }.leave active
    | .ok none =>
        let shown := env.repr message.cmd
        (active, s.send place (refusal message.cmd s!"unknown command {shown}"))
    | .ok (some name) =>
        (active, { s with
          abort := s.events.length
          events := s.events ++ [false]
          pending := some s.tasks.length
          tasks := s.tasks ++ [{ message := place, name }] })

/-- What a task of a session does next. -/
inductive Action where
  | enter
  | receive (message : Message)
  /-- A line arrives that is no message. -/
  | violate (text : String)
  | hangUp
  /-- The read raises what the loop does not catch. -/
  | crash (exc : PyExc)
  /-- The line of `run` or of its loop has drained. -/
  | drained
  /-- The pending task is done and `run` goes on. -/
  | gathered
  | start (t : Nat)
  /-- A handler reads `_abort`. -/
  | watch (t : Nat)
  | stop (t event : Nat)
  | push (t : Nat) (event : PushedEvent)
  | finish (t : Nat) (outcome : Outcome)
  | replied (t : Nat)
  /-- The done callback of a task, `_clear_pending`. -/
  | release (t : Nat)

/-- One step, with `session_active` before and after; `none` when it cannot be taken. -/
def step (env : Env) (active : Bool) (s : ClientSession) : Action → Option (Bool × ClientSession)
  | .enter =>
      if s.stage = .connected then
        if active then
          some (active, { s with out := s.out ++ [.complaint "busy"], stage := .refusing })
        else
          some (true, { s with stage := .reading })
      else none
  | .receive message => if s.stage = .reading then some (s.take env active message) else none
  | .violate text =>
      if s.stage = .reading then
        some (active, { s with out := s.out ++ [.complaint text], stage := .sending true })
      else none
  | .hangUp => if s.stage = .reading then some (s.leave active) else none
  | .crash exc =>
      if s.stage = .reading then some ({ s with failed := some exc }.leave active) else none
  | .drained =>
      match s.stage with
      | .refusing => some (active, { s with stage := .refused })
      | .sending false => some (active, { s with stage := .reading })
      | .sending true => some (s.leave active)
      | _ => none
  | .gathered =>
      match s.stage with
      | .gathering t =>
          if (s.task .done t).isSome ∨ (s.task .released t).isSome then
            some (false, { s with stage := .returned })
          else none
      | _ => none
  | .start t =>
      (s.task .created t).map fun task => (active, s.setTask t { task with stage := .running })
  | .watch t =>
      (s.task .running t).map fun task =>
        (active, s.setTask t { task with taken := s.abort :: task.taken })
  | .stop t event =>
      (s.task .running t).bind fun task =>
        if event ∈ task.taken ∧ s.events[event]? = some true then
          some (active, s.setTask t { task with stopped := true })
        else none
  | .push t event =>
      (s.task .running t).map fun task =>
        (active, { s with out := s.out ++ [.event task.message event] })
  | .finish t outcome =>
      (s.task .running t).map fun task =>
        (active, { s.setTask t { task with stage := .replying } with
          out := s.out ++ [.reply task.message (outcome.reply (.str task.name.text))] })
  | .replied t =>
      (s.task .replying t).map fun task => (active, s.setTask t { task with stage := .done })
  | .release t =>
      (s.task .done t).map fun task =>
        (active, { s.setTask t { task with stage := .released } with pending := none })

end ClientSession

/-- The bridge with the sessions of its clients, in the order they connected. -/
structure Clients where
  /-- `session_active`. -/
  active : Bool := false
  sessions : List ClientSession := []

namespace Clients

/-- What happens next. -/
inductive Action where
  /-- A client connects. -/
  | connect
  /-- A task of a client's session takes a step. -/
  | session (i : Nat) (action : ClientSession.Action)

/-- One step; `none` when it cannot be taken. -/
def step (env : Env) (c : Clients) : Action → Option Clients
  | .connect => some { c with sessions := c.sessions ++ [{}] }
  | .session i action =>
      c.sessions[i]?.bind fun s =>
        (s.step env c.active action).map fun (active, next) =>
          { active, sessions := c.sessions.set i next }

/-- The bridge from its start. -/
def run (env : Env) (actions : List Action) : Option Clients :=
  runs (step env) {} actions

end Clients

end Phomemo
