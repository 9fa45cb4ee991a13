import Phomemo.Async.Machine
import Phomemo.Session

/-!
# The loop of a session

The read loop of a session next to the task of its pending command.  Each step runs from one
await to the next.  The lines it writes and the messages it reads are kept, so that every line can
be traced back to its message.
-/

namespace Phomemo

open Async

/-- A message of the client: the fields of its JSON object, and its payload. -/
structure Message where
  fields : List (String × Json)
  payload : Bytes := []

/-- `obj.get("cmd")`. -/
def Message.cmd (message : Message) : Json :=
  (assocGet "cmd" message.fields).getD .null

/-- `cmd == "abort"`. -/
def Message.isAbort (message : Message) : Bool :=
  match message.cmd with
  | .str name => name = "abort"
  | _ => false

/-- A value that may be the key of a dictionary. -/
def Json.Hashable : Json → Prop
  | .arr _ => False
  | .obj _ => False
  | _ => True

instance : DecidablePred Json.Hashable := fun value => by
  cases value <;> unfold Json.Hashable <;> infer_instance

/-- The key of a command in the handler table. -/
def CommandName.text : CommandName → String
  | .discover => "discover"
  | .open => "open"
  | .close => "close"
  | .disconnect => "disconnect"
  | .status => "status"
  | .info => "info"
  | .autoOff => "auto_off"
  | .identify => "identify"
  | .testPage => "test_page"
  | .waitReady => "wait_ready"
  | .pageBegin => "page_begin"
  | .lines => "lines"
  | .pageEnd => "page_end"
  | .eject => "eject"

/-- The handler table, in order. -/
def CommandName.table : List CommandName :=
  [.discover, .open, .close, .disconnect, .status, .info, .autoOff, .identify, .testPage,
    .waitReady, .pageBegin, .lines, .pageEnd, .eject]

/-- `self._handlers().get(cmd)`. -/
def lookupHandler : Json → Except PyExc (Option CommandName)
  | .str key => .ok (CommandName.table.find? fun name => name.text = key)
  | .arr _ => .error (.typeError "unhashable type: 'list'")
  | .obj _ => .error (.typeError "unhashable type: 'dict'")
  | _ => .ok none

/-- A result without a `cmd` of its own. -/
def Result.Plain (result : Result) : Prop := "cmd" ∉ result.map Prod.fst

@[simp]
theorem Result.plain_nil : Result.Plain [] := List.not_mem_nil

@[simp]
theorem Result.plain_cons (key : String) (value : Json) (rest : Result) :
    Result.Plain ((key, value) :: rest) ↔ "cmd" ≠ key ∧ Result.Plain rest := by
  simp [Result.Plain]

@[simp]
theorem Result.plain_append (first rest : Result) :
    Result.Plain (first ++ rest) ↔ first.Plain ∧ rest.Plain := by
  simp [Result.Plain, not_or]

/-- The fields of a successful reply beside `ok` and `cmd`. -/
structure OwnResult where
  fields : Result
  plain : fields.Plain

/-- How a handler ends. -/
inductive Outcome where
  | returned (result : OwnResult)
  | raised (exc : PyExc)
  | cancelled

/-- A refusal. -/
def refusal (cmd : Json) (text : String) : List (String × Json) :=
  [("ok", .bool false), ("cmd", cmd), ("error", .str text)]

/-- The reply to a command whose handler has ended. -/
def Outcome.reply (cmd : Json) : Outcome → List (String × Json)
  | returned result =>
      result.fields.foldl (fun reply field => assocSet field.1 field.2 reply)
        [("ok", .bool true), ("cmd", cmd)]
  | raised exc => refusal cmd (Session.errorText exc)
  | cancelled => refusal cmd "cancelled"

/-- A line the session writes, with the place of the message it belongs to. -/
inductive Line where
  | reply (message : Nat) (fields : List (String × Json))
  | event (message : Nat) (event : PushedEvent)
  /-- A line that was no message. -/
  | complaint (text : String)

/-- What `read_message` raises. -/
inductive ReadFailure where
  | protocolError (text : String)
  | incompleteRead (part : Bytes) (expected : Option Nat)
  | raised (exc : PyExc)

/-- A message as it was read: whether a command was pending then, and what reading it raised. -/
structure Receipt where
  message : Message
  busy : Bool
  failure : Option ReadFailure := none
  /-- Lists or objects in its `cmd` are nested too deeply for `json.dumps`. -/
  tooDeep : Bool := false

/-- Where the read loop stands. -/
inductive LoopPhase where
  | reading
  /-- It awaits the drain of a line of its own; whether it ends then. -/
  | sending (last : Bool)
  /-- It has ended, and awaits the pending command. -/
  | ending
  | closed
  deriving DecidableEq, Repr

/-- Where the task of a command stands. -/
inductive TaskPhase where
  | running
  /-- It awaits the drain of its reply. -/
  | replying
  | done
  deriving DecidableEq, Repr

/-- The task of the pending command. -/
structure PendingTask where
  message : Nat
  name : CommandName
  phase : TaskPhase := .running

/-- A session: its loop, its pending command, and what was read and written. -/
structure SessionLoop where
  phase : LoopPhase := .reading
  pending : Option PendingTask := none
  abort : Bool := false
  /-- The exception the loop ended with. -/
  failed : Option PyExc := none
  received : List Receipt := []
  out : List Line := []

namespace SessionLoop

/-- Write a reply from the read loop. -/
def send (s : SessionLoop) (message : Nat) (fields : List (String × Json)) : SessionLoop :=
  { s with out := s.out ++ [.reply message fields], phase := .sending false }

/-- The `finally` of `run`: a pending command is asked to stop. -/
def leave (s : SessionLoop) : SessionLoop :=
  { s with phase := .ending, abort := s.abort || s.pending.isSome }

/-- What the loop does when `read_message` raises. -/
def misread (s : SessionLoop) : ReadFailure → SessionLoop
  | .protocolError text => { s with out := s.out ++ [.complaint text], phase := .sending true }
  | .incompleteRead _ _ => s.leave
  | .raised exc => if exc.IsOsError then s.leave else { s with failed := some exc }.leave

/-- What the loop does with a message it has read. -/
def obey (env : Env) (s : SessionLoop) (place : Nat) (message : Message) (tooDeep : Bool) :
    SessionLoop :=
  if message.isAbort then
    { s with abort := true }.send place [("ok", .bool true), ("cmd", .str "abort")]
  else if s.pending.isSome then
    -- The refusal repeats the `cmd`, whatever it is.
    if tooDeep ∧ ¬message.cmd.Hashable then
      { s with failed := some (.recursionError
          "maximum recursion depth exceeded while encoding a JSON object") }.leave
    else
      s.send place (refusal message.cmd "busy")
  else
    match lookupHandler message.cmd with
    | .error exc => { s with failed := some exc }.leave
    | .ok none =>
        let shown := env.repr message.cmd
        s.send place (refusal message.cmd s!"unknown command {shown}")
    | .ok (some name) => { s with pending := some { message := place, name }, abort := false }

/-- A message arrives, and is read unless that raises. -/
def take (env : Env) (s : SessionLoop) (message : Message) (failure : Option ReadFailure)
    (tooDeep : Bool) : SessionLoop :=
  let receipt : Receipt := { message, busy := s.pending.isSome, failure, tooDeep }
  let next := { s with received := s.received ++ [receipt] }
  match failure with
  | some failure => next.misread failure
  | none => next.obey env s.received.length message tooDeep

/-- What happens next in a session. -/
inductive Action where
  /-- A message arrives; reading it may raise, and so may writing its `cmd` in a refusal. -/
  | receive (message : Message) (failure : Option ReadFailure := none) (tooDeep : Bool := false)
  /-- A line arrives that is no message, `read_message` raises `ProtocolError`. -/
  | violate (text : String)
  /-- The client closes its end. -/
  | hangUp
  /-- The line of the read loop has drained. -/
  | drained
  /-- The handler pushes an event. -/
  | push (event : PushedEvent)
  /-- The handler ends, and the task writes the reply. -/
  | finish (outcome : Outcome)
  /-- The reply has drained, and the task is done. -/
  | replied
  /-- The done callback of the task runs. -/
  | cleared
  /-- The session no longer waits for a command. -/
  | gathered

/-- The pending task in one of its phases. -/
def task (s : SessionLoop) (phase : TaskPhase) : Option PendingTask :=
  s.pending.filter fun task => task.phase = phase

/-- One step; `none` when the action cannot happen. -/
def step (env : Env) (s : SessionLoop) : Action → Option SessionLoop
  | .receive message failure tooDeep =>
      if s.phase = .reading then some (s.take env message failure tooDeep) else none
  | .violate text => if s.phase = .reading then some (s.misread (.protocolError text)) else none
  | .hangUp => if s.phase = .reading then some s.leave else none
  | .drained =>
      match s.phase with
      | .sending false => some { s with phase := .reading }
      | .sending true => some s.leave
      | _ => none
  | .push event =>
      (s.task .running).map fun task => { s with out := s.out ++ [.event task.message event] }
  | .finish outcome =>
      (s.task .running).map fun task =>
        { s with
          out := s.out ++ [.reply task.message (outcome.reply (.str task.name.text))]
          pending := some { task with phase := .replying } }
  | .replied =>
      (s.task .replying).map fun task => { s with pending := some { task with phase := .done } }
  | .cleared => (s.task .done).map fun _ => { s with pending := none }
  | .gathered =>
      if s.phase = .ending ∧ (s.pending.isNone ∨ (s.task .done).isSome) then
        some { s with phase := .closed }
      else none

/-- A session from its start. -/
def run (env : Env) (actions : List Action) : Option SessionLoop :=
  runs (step env) {} actions

end SessionLoop

end Phomemo
