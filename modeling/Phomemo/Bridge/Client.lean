import Phomemo.Async.Dialogue
import Phomemo.Manifest

/-!
# The Python client of the bridge

`BridgeClient` sends a command, remembers its name and reads messages until one of them is the
reply.  The acknowledgement of an abort that was sent while another command was pending is skipped,
which is told from the remembered name.
-/

namespace Phomemo

open Async

namespace BridgeClient

/-- What a method ends with: its reply, or the `BridgeError` it raises. -/
inductive Outcome where
  | reply (obj : Fields)
  | bridgeError (error : Json)

/-- `cmd == "abort"`. -/
def isAbort : Option Json → Bool
  | some (.str cmd) => cmd = "abort"
  | _ => false

/-- What `send` leaves in `_pending`. -/
def send (obj : Fields) (pending : Option Json) : Option Json :=
  if isAbort (assocGet "cmd" obj) then pending else assocGet "cmd" obj

/-- What `reply` makes of the reply to the pending command. -/
def outcome (obj : Fields) : Outcome :=
  if ((assocGet "ok" obj).getD .null).truthy then .reply obj
  else .bridgeError ((assocGet "error" obj).getD (.str "unknown error"))

/-- One round of the loop of `reply`; `none` when it goes on to the next message. -/
def reply (pending : Option Json) (obj : Fields) : Option Outcome :=
  if (assocGet "event" obj).isSome then none
  else if isAbort (assocGet "cmd" obj) ∧ ¬isAbort pending then none
  else some (outcome obj)

/-! ## The methods -/

/-- The requests of the methods but `abort`. -/
inductive Method where
  | discover (timeout : Json)
  | open (address : Option String)
  | dropLink
  | info
  | autoOff (minutes : Option Int)
  | close
  | status (address : Option String)
  | waitReady (settle : Option Json)
  | pageBegin (width lengthRows bits : Int) (tone content density : String) (mediaLengthMm : Json)
    (rotate : Bool)
  | lines (count : Int)
  | pageEnd
  | eject
  | identify
  | testPage (versions : Fields)
  /-- `call` with any other command. -/
  | call (obj : Fields) (other : isAbort (assocGet "cmd" obj) = false)

/-- A field that is only sent when it is given. -/
def optional (key : String) : Option Json → Fields
  | none => []
  | some value => [(key, value)]

/-- The request object. -/
def Method.obj : Method → Fields
  | discover timeout => [("cmd", .str "discover"), ("timeout", timeout)]
  | .open address => ("cmd", .str "open") :: optional "address" (address.map .str)
  | dropLink => [("cmd", .str "disconnect")]
  | info => [("cmd", .str "info")]
  | autoOff minutes => ("cmd", .str "auto_off") :: optional "minutes" (minutes.map .int)
  | close => [("cmd", .str "close")]
  | status address => ("cmd", .str "status") :: optional "address" (address.map .str)
  | waitReady settle => ("cmd", .str "wait_ready") :: optional "settle" settle
  | pageBegin width lengthRows bits tone content density mediaLengthMm rotate =>
      [("cmd", .str "page_begin"), ("width", .int width), ("length_rows", .int lengthRows),
        ("bits", .int bits), ("tone", .str tone), ("content", .str content),
        ("density", .str density), ("media_length_mm", mediaLengthMm), ("rotate", .bool rotate)]
  | lines count => [("cmd", .str "lines"), ("count", .int count)]
  | pageEnd => [("cmd", .str "page_end")]
  | eject => [("cmd", .str "eject")]
  | identify => [("cmd", .str "identify")]
  | testPage versions =>
      [("cmd", .str "test_page"), ("printer_name", .str "Phomemo M08F"),
        ("versions", .obj versions)]
  | call obj _ => obj

/-- `{"cmd": "abort"}`. -/
def abort : Fields := [("cmd", .str "abort")]

theorem Method.not_abort (method : Method) : isAbort (assocGet "cmd" method.obj) = false := by
  cases method with
  | call obj other => exact other
  | _ => rfl

/-! ## The bridge -/

/-- The fields of a reply beside `ok` and `cmd`; a reply is no event. -/
structure ReplyFields where
  fields : Fields
  noEvent : assocGet "event" fields = none

/-- The reply to a request, which carries its command. -/
def replyTo (method : Method) (data : Json × ReplyFields) : Fields :=
  ("ok", data.1) :: ("cmd", (assocGet "cmd" method.obj).getD .null) :: data.2.fields

/-- The acknowledgement of an abort. -/
def acknowledgement : Fields := [("ok", .bool true), ("cmd", .str "abort")]

/-- The client and the bridge: an abort is an aside. -/
def dialogue :
    Dialogue (Option Json) Method (Json × ReplyFields) (String × Fields) Fields Outcome where
  initial := none
  remember := fun method => send method.obj
  aside := send abort
  receive := reply
  result := outcome
  replyOf := replyTo
  acknowledgement := acknowledgement
  pushed := fun event => ("event", .str event.1) :: event.2

theorem reply_replyTo (pending : Option Json) (method : Method) (data : Json × ReplyFields) :
    reply pending (replyTo method data) = some (outcome (replyTo method data)) := by
  have noEvent : assocGet "event" (replyTo method data) = none := data.2.noEvent
  have named : assocGet "cmd" (replyTo method data) =
      some ((assocGet "cmd" method.obj).getD .null) := rfl
  have other : isAbort (some ((assocGet "cmd" method.obj).getD .null)) = false := by
    have known := method.not_abort
    cases cmd : assocGet "cmd" method.obj with
    | none => rfl
    | some value => rwa [cmd] at known
  simp [reply, noEvent, named, other]

theorem reply_acknowledgement {pending : Option Json} (other : isAbort pending = false) :
    reply pending acknowledgement = none := by
  have named : assocGet "cmd" acknowledgement = some (.str "abort") := rfl
  have isNamed : isAbort (some (.str "abort")) = true := rfl
  simp [reply, named, isNamed, other]

/-- Since no abort is ever remembered, acknowledgements are told from replies. -/
theorem dialogue_lawful : dialogue.Lawful fun pending => isAbort pending = false where
  initial := rfl
  remember := by
    intro method pending _
    change isAbort (send method.obj pending) = false
    rw [send, if_neg (by simp [method.not_abort])]
    exact method.not_abort
  aside := fun _ other => other
  reply := fun pending method data _ => reply_replyTo pending method data
  acknowledgement := fun _ other => reply_acknowledgement other
  pushed := fun pending event _ => rfl

/-- In every run every method returns or raises from what the bridge sent it, unless `abort` was
called and the bridge has acknowledged it: that acknowledgement is skipped, and the call waits
on. -/
theorem methods_return_own_iff
    {actions : List (TalkAction Method (Json × ReplyFields) (String × Fields))}
    {s : Talk (Option Json) Method Fields Outcome}
    (ran : runs dialogue.step dialogue.start actions = some s) :
    dialogue.ReturnsOwn s ↔ ¬(TalkAction.callAside ∈ actions ∧ s.asidesOpen = 0) := by
  rw [Dialogue.callAside_mem_iff dialogue_lawful ran]
  exact Dialogue.returnsOwn_iff dialogue_lawful ran

/-- A page is aborted while it prints: the acknowledgement comes before the reply. -/
def abortedPage : List (TalkAction Method (Json × ReplyFields) (String × Fields)) :=
  [.call (.open none), .serve, .answer 0 (.bool true, ⟨[("connected", .bool true)], rfl⟩), .read,
    .call .pageEnd, .aside, .serve, .push ("progress", [("percent", .int 10)]), .serve,
    .acknowledge, .answer 1 (.bool false, ⟨[("error", .str "cancelled")], rfl⟩), .read, .read,
    .read]

theorem methods_return_own_aborted :
    ∃ s, runs dialogue.step dialogue.start abortedPage = some s ∧
      (dialogue.ReturnsOwn s ↔ ¬(TalkAction.callAside ∈ abortedPage ∧ s.asidesOpen = 0)) := by
  obtain ⟨s, ran⟩ : ∃ s, runs dialogue.step dialogue.start abortedPage = some s :=
    Option.isSome_iff_exists.mp (by decide +kernel)
  exact ⟨s, ran, methods_return_own_iff ran⟩

/-- On an idle bridge `abort` reads the acknowledgement of its own request, skips it and waits
on with nothing left to come. -/
theorem abort_skips_own_acknowledgement :
    ∃ s, runs dialogue.step dialogue.start [.callAside, .serve, .acknowledge, .read] = some s ∧
      s.waiting = some .acknowledgement ∧ s.returned.length = 0 ∧ ¬dialogue.ReturnsOwn s := by
  refine ⟨_, rfl, rfl, rfl, fun own => ?_⟩
  obtain ⟨rounds, final, reading, free⟩ := own.acknowledged rfl rfl
  cases rounds with
  | zero =>
      obtain rfl := Option.some.inj reading
      cases free
  | succ rounds => cases reading

end BridgeClient

end Phomemo
