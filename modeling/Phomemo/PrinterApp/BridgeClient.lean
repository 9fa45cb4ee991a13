import Mathlib.Data.List.Range
import Phomemo.SessionLoop

/-!
# The client side of the bridge socket

`phomemo_bridge_call` sends a request and reads messages until one of them is its reply.  Replies
carry no number: the client remembers the command it waits for and skips what acknowledges an
abort.  Client and server share two channels that keep their order.
-/

namespace Phomemo

open Async

/-- A string as the C library sees it: the bytes before the first null. -/
def cString (text : String) : Bytes := text.toUTF8.data.toList.takeWhile fun byte => byte ≠ 0

/-- `case_insensitive_strcmp(key, other) == 0`. -/
def sameKey (key other : String) : Bool :=
  key.toList.map Char.toLower = other.toList.map Char.toLower

/-- `cJSON_GetObjectItem`: the first field of that name, whatever its case. -/
def getObjectItem (key : String) (obj : Fields) : Option Json :=
  (obj.find? fun field => sameKey key field.1).map Prod.snd

theorem getObjectItem_cons (key : String) (field : String × Json) (rest : Fields) :
    getObjectItem key (field :: rest) =
      if sameKey key field.1 then some field.2 else getObjectItem key rest := by
  unfold getObjectItem
  rw [List.find?_cons]
  cases sameKey key field.1 <;> rfl

/-- `cJSON_IsString(item) && !strcmp(item->valuestring, text)`. -/
def isString (text : String) : Option Json → Bool
  | some (.str value) => cString value = cString text
  | _ => false

/-! ## The client -/

/-- What a call returns: the reply object, or the text left in `err`. -/
inductive CallResult where
  | reply (obj : Fields)
  | error (text : String)

/-- What a reply without `"ok": true` leaves in `err`. -/
def errorOf (obj : Fields) : String :=
  let fallback := match getObjectItem "ok" obj with
    | some (.bool false) => "bridge reported an error"
    | _ => "bridge sent an unexpected message"
  match getObjectItem "error" obj with
  | some (.str text) => if cString text = [] then fallback else text
  | _ => fallback

/-- What a reply makes the call return. -/
def replyResult (obj : Fields) : CallResult :=
  match getObjectItem "ok" obj with
  | some (.bool true) => .reply obj
  | _ => .error (errorOf obj)

/-- What `phomemo_bridge_reply` makes of a message. -/
inductive Reception where
  /-- It is handed to the event callback. -/
  | event
  | skipped
  | returned (result : CallResult)

/-- A round of the loop of `phomemo_bridge_reply`. -/
def receive (pending : Bytes) (obj : Fields) : Reception :=
  if (getObjectItem "event" obj).isSome then .event
  else if isString "abort" (getObjectItem "cmd" obj) ∧ pending ≠ cString "abort" then .skipped
  else .returned (replyResult obj)

/-- What `phomemo_bridge_send` keeps of a request in `pending[32]`. -/
def remember (obj : Fields) (pending : Bytes) : Bytes :=
  match getObjectItem "cmd" obj with
  | some (.str cmd) => if cString cmd ≠ cString "abort" then (cString cmd).take 31 else pending
  | _ => pending

/-- A request of a call: its fields and its payload.  An abort is not called but sent. -/
structure Request where
  fields : Fields
  payload : Bytes := []
  notAbort : isString "abort" (assocGet "cmd" fields) = false

/-- `{"cmd": "abort"}`. -/
def abortFields : Fields := [("cmd", .str "abort")]

/-! ## The server -/

/-- The reply to a request. -/
def replyFields (request : Request) (ok : Json) (rest : Fields) : Fields :=
  ("ok", ok) :: ("cmd", (assocGet "cmd" request.fields).getD .null) :: rest

/-- The acknowledgement of an abort. -/
def acknowledgeFields : Fields := [("ok", .bool true), ("cmd", .str "abort")]

/-- A pushed event. -/
def eventFields (name : String) (rest : Fields) : Fields := ("event", .str name) :: rest

/-- The fields of a reply beside `ok` and `cmd`; a reply is no event. -/
structure ReplyRest where
  fields : Fields
  noEvent : getObjectItem "event" fields = none

/-- A message on its way to the server, with the number of its call. -/
inductive Upward where
  | request (call : Nat)
  | abort
  deriving DecidableEq, Repr

/-- A message on its way to the client, with what it is to the server. -/
inductive Downward where
  | reply (call : Nat) (obj : Fields)
  | acknowledgement
  | event (name : String) (rest : Fields)

/-- The object the client reads. -/
def Downward.obj : Downward → Fields
  | reply _ obj => obj
  | acknowledgement => acknowledgeFields
  | event name rest => eventFields name rest

/-! ## The link -/

/-- Client, server and the two channels; what was asked, answered and returned so far. -/
structure BridgeLink where
  pending : Bytes := []
  /-- Inside a call; whether the call has an event callback. -/
  waiting : Option Bool := none
  toServer : List Upward := []
  /-- Requests the server has read and not answered. -/
  owed : List Nat := []
  /-- Aborts the server has read and not acknowledged. -/
  unacknowledged : Nat := 0
  toClient : List Downward := []
  asked : List Request := []
  /-- The replies, each with the number of its call. -/
  answered : List (Nat × Fields) := []
  returned : List CallResult := []

/-- What happens next between client and server. -/
inductive LinkAction where
  /-- `phomemo_bridge_call` sends its request. -/
  | call (request : Request) (watched : Bool)
  /-- The event callback of a waiting call sends an abort. -/
  | abort
  /-- The waiting call reads a message. -/
  | read
  /-- The server reads a message. -/
  | serve
  | answer (call : Nat) (ok : Json) (rest : ReplyRest)
  | acknowledge
  | push (name : String) (rest : Fields)

namespace BridgeLink

/-- One step; `none` when the action cannot happen. -/
def step (s : BridgeLink) : LinkAction → Option BridgeLink
  | .call request watched =>
      if s.waiting.isNone then
        some
          { s with
            pending := remember request.fields s.pending
            waiting := some watched
            toServer := s.toServer ++ [.request s.asked.length]
            asked := s.asked ++ [request] }
      else none
  | .abort =>
      if s.waiting = some true then
        some
          { s with
            pending := remember abortFields s.pending
            toServer := s.toServer ++ [.abort] }
      else none
  | .read =>
      match s.waiting, s.toClient with
      | some _, message :: rest =>
          match receive s.pending message.obj with
          | .returned result =>
              some
                { s with toClient := rest, waiting := none, returned := s.returned ++ [result] }
          | _ => some { s with toClient := rest }
      | _, _ => none
  | .serve =>
      match s.toServer with
      | [] => none
      | .request call :: rest => some { s with toServer := rest, owed := s.owed ++ [call] }
      | .abort :: rest => some { s with toServer := rest, unacknowledged := s.unacknowledged + 1 }
  | .answer call ok rest =>
      match s.asked[call]? with
      | none => none
      | some request =>
          let obj := replyFields request ok rest.fields
          if call ∈ s.owed then
            some
              { s with
                owed := s.owed.erase call
                toClient := s.toClient ++ [.reply call obj]
                answered := s.answered ++ [(call, obj)] }
          else none
  | .acknowledge =>
      if 0 < s.unacknowledged then
        some
          { s with
            unacknowledged := s.unacknowledged - 1
            toClient := s.toClient ++ [.acknowledgement] }
      else none
  | .push name rest => some { s with toClient := s.toClient ++ [.event name rest] }

end BridgeLink

/-! ## Telling messages apart -/

theorem receive_event (pending : Bytes) (name : String) (rest : Fields) :
    receive pending (eventFields name rest) = .event := by
  have first : getObjectItem "event" (eventFields name rest) = some (.str name) := by
    simp [getObjectItem, eventFields, sameKey]
  simp [receive, first]

theorem receive_acknowledgement {pending : Bytes} (other : pending ≠ cString "abort") :
    receive pending acknowledgeFields = .skipped := by
  have noEvent : getObjectItem "event" acknowledgeFields = none := rfl
  have named : getObjectItem "cmd" acknowledgeFields = some (.str "abort") := rfl
  simp [receive, noEvent, named, isString, other]

theorem receive_reply (pending : Bytes) (request : Request) (ok : Json) (rest : ReplyRest) :
    receive pending (replyFields request ok rest.fields) =
      .returned (replyResult (replyFields request ok rest.fields)) := by
  have noEvent : getObjectItem "event" (replyFields request ok rest.fields) = none := by
    simp only [replyFields, getObjectItem_cons]
    exact rest.noEvent
  have named : getObjectItem "cmd" (replyFields request ok rest.fields) =
      some ((assocGet "cmd" request.fields).getD .null) := by
    simp only [replyFields, getObjectItem_cons]
    rfl
  have notAbort : isString "abort" (some ((assocGet "cmd" request.fields).getD .null)) = false := by
    have := request.notAbort
    cases cmd : assocGet "cmd" request.fields with
    | none => rfl
    | some value => rwa [cmd] at this
  simp [receive, noEvent, named, notAbort]

/-- A call whose reply says `"ok": true` returns the reply. -/
theorem replyResult_ok (request : Request) (rest : Fields) :
    replyResult (replyFields request (.bool true) rest) =
      .reply (replyFields request (.bool true) rest) := by
  have first : getObjectItem "ok" (replyFields request (.bool true) rest) = some (.bool true) := by
    simp [getObjectItem, replyFields, sameKey]
  simp only [replyResult, first]

/-- A call whose reply says anything else reports the error of the reply. -/
theorem replyResult_refused (request : Request) {ok : Json} (refused : ok ≠ .bool true)
    {rest : Fields} {text : String} (named : getObjectItem "error" rest = some (.str text))
    (told : cString text ≠ []) :
    replyResult (replyFields request ok rest) = .error text := by
  have first : getObjectItem "ok" (replyFields request ok rest) = some ok := by
    simp [getObjectItem, replyFields, sameKey]
  have error : getObjectItem "error" (replyFields request ok rest) = some (.str text) := by
    simp only [replyFields, getObjectItem_cons]
    exact named
  unfold replyResult errorOf
  rw [first, error]
  split
  · rename_i same
    exact absurd (Option.some.inj same) refused
  · simp only [told, if_false]

/-- The remembered command is never an abort. -/
theorem remember_ne_abort (obj : Fields) {pending : Bytes} (other : pending ≠ cString "abort") :
    remember obj pending ≠ cString "abort" := by
  unfold remember
  split
  · split_ifs with named
    · intro same
      have short : (cString "abort").length = 5 := by decide +kernel
      have length := congrArg List.length same
      rw [List.length_take, short] at length
      rw [List.take_of_length_le (by omega)] at same
      exact named same
    · exact other
  · exact other

/-! ## Which reply a call returns -/

namespace BridgeLink

/-- The requests on their way. -/
def requestsIn (channel : List Upward) : List Nat :=
  channel.filterMap fun message =>
    match message with
    | .request call => some call
    | .abort => none

/-- The replies on their way. -/
def repliesIn (channel : List Downward) : List (Nat × Fields) :=
  channel.filterMap fun message =>
    match message with
    | .reply call obj => some (call, obj)
    | _ => none

/-- A reply on its way is one that is returned. -/
def Readable (pending : Bytes) (message : Downward) : Prop :=
  ∀ call obj, message = .reply call obj → receive pending obj = .returned (replyResult obj)

/-- Where the link stands when the calls in `done` have returned. -/
inductive Standing (s : BridgeLink) (done : List (Nat × Fields)) : Prop where
  | idle (free : s.waiting = none) (asked : s.asked.length = done.length)
      (answered : s.answered = done) (up : requestsIn s.toServer ++ s.owed = [])
      (down : repliesIn s.toClient = [])
  | asked (waits : s.waiting ≠ none) (asked : s.asked.length = done.length + 1)
      (answered : s.answered = done) (up : requestsIn s.toServer ++ s.owed = [done.length])
      (down : repliesIn s.toClient = [])
  | answered (obj : Fields) (waits : s.waiting ≠ none) (asked : s.asked.length = done.length + 1)
      (answered : s.answered = done ++ [(done.length, obj)])
      (up : requestsIn s.toServer ++ s.owed = [])
      (down : repliesIn s.toClient = [(done.length, obj)])

/-- The invariant of the link: each call that has returned gave the reply to its own request. -/
structure Paired (s : BridgeLink) (done : List (Nat × Fields)) : Prop where
  pending : s.pending ≠ cString "abort"
  readable : ∀ pending, ∀ message ∈ s.toClient, Readable pending message
  numbered : done.map Prod.fst = List.range done.length
  returned : s.returned = done.map fun answer => replyResult answer.2
  standing : Standing s done

section
variable {s next : BridgeLink} {done : List (Nat × Fields)}

theorem paired_start : Paired {} [] where
  pending := by decide +kernel
  readable := by simp
  numbered := rfl
  returned := rfl
  standing := .idle rfl rfl rfl rfl rfl

/-- A message that is no reply changes nothing. -/
theorem Paired.push (paired : Paired s done) (message : Downward)
    (other : ∀ call obj, message ≠ .reply call obj) (unacknowledged : Nat) :
    Paired
      { s with
        unacknowledged
        toClient := s.toClient ++ [message] } done := by
  have same : repliesIn (s.toClient ++ [message]) = repliesIn s.toClient := by
    cases message with
    | reply call obj => exact absurd rfl (other call obj)
    | acknowledgement => simp [repliesIn]
    | event name rest => simp [repliesIn]
  refine ⟨paired.pending, ?_, paired.numbered, paired.returned, ?_⟩
  · intro pending message' member
    rcases List.mem_append.mp member with earlier | last
    · exact paired.readable pending message' earlier
    · obtain rfl := List.mem_singleton.mp last
      exact fun call obj reply => absurd reply (other call obj)
  · cases paired.standing with
    | idle free asked answered up down => exact .idle free asked answered up (same.trans down)
    | asked waits asked answered up down => exact .asked waits asked answered up (same.trans down)
    | answered obj waits asked answered up down =>
        exact .answered obj waits asked answered up (same.trans down)

/-- A message that is no reply is passed over. -/
theorem receive_other {pending : Bytes} (known : pending ≠ cString "abort") {message : Downward}
    (other : ∀ call obj, message ≠ .reply call obj) :
    receive pending message.obj = .event ∨ receive pending message.obj = .skipped := by
  cases message with
  | reply call obj => exact absurd rfl (other call obj)
  | acknowledgement => exact .inr (receive_acknowledgement known)
  | event name rest => exact .inl (receive_event pending name rest)

theorem Paired.call (paired : Paired s done) {request : Request} {watched : Bool}
    (stepped : s.step (.call request watched) = some next) : Paired next done := by
  simp only [step, Option.ite_none_right_eq_some, Option.some.injEq] at stepped
  obtain ⟨free, rfl⟩ := stepped
  have free : s.waiting = none := Option.isNone_iff_eq_none.mp free
  cases paired.standing with
  | asked waits => exact absurd free waits
  | answered obj waits => exact absurd free waits
  | idle free asked answered up down =>
      obtain ⟨requests, owed⟩ := List.append_eq_nil_iff.mp up
      refine ⟨remember_ne_abort _ paired.pending, paired.readable, paired.numbered,
        paired.returned, .asked nofun (by simp [asked]) answered ?_ down⟩
      simp only [requestsIn] at requests ⊢
      simp [requests, owed, asked]

theorem Paired.abort (paired : Paired s done) (stepped : s.step .abort = some next) :
    Paired next done := by
  simp only [step, Option.ite_none_right_eq_some, Option.some.injEq] at stepped
  obtain ⟨watched, rfl⟩ := stepped
  have same : requestsIn (s.toServer ++ [.abort]) = requestsIn s.toServer := by
    simp [requestsIn]
  refine ⟨remember_ne_abort abortFields paired.pending, paired.readable, paired.numbered,
    paired.returned, ?_⟩
  cases paired.standing with
  | idle free => simp [free] at watched
  | asked waits asked answered up down =>
      exact .asked waits asked answered (by simpa only [same] using up) down
  | answered obj waits asked answered up down =>
      exact .answered obj waits asked answered (by simpa only [same] using up) down

/-- The server reads the oldest message. -/
theorem Paired.serve (paired : Paired s done) (stepped : s.step .serve = some next) :
    Paired next done := by
  simp only [step] at stepped
  split at stepped
  · cases stepped
  · rename_i call rest oldest
    obtain rfl := Option.some.inj stepped
    refine ⟨paired.pending, paired.readable, paired.numbered, paired.returned, ?_⟩
    have first : requestsIn s.toServer = call :: requestsIn rest := by simp [oldest, requestsIn]
    cases paired.standing with
    | idle free asked answered up down => simp [first] at up
    | asked waits asked answered up down =>
        simp only [first, List.cons_append, List.cons.injEq, List.append_eq_nil_iff] at up
        obtain ⟨rfl, requests, owed⟩ := up
        exact .asked waits asked answered (by simp [requests, owed]) down
    | answered obj waits asked answered up down => simp [first] at up
  · rename_i rest oldest
    obtain rfl := Option.some.inj stepped
    refine ⟨paired.pending, paired.readable, paired.numbered, paired.returned, ?_⟩
    have same : requestsIn s.toServer = requestsIn rest := by simp [oldest, requestsIn]
    cases paired.standing with
    | idle free asked answered up down => exact .idle free asked answered (same ▸ up) down
    | asked waits asked answered up down => exact .asked waits asked answered (same ▸ up) down
    | answered obj waits asked answered up down =>
        exact .answered obj waits asked answered (same ▸ up) down

/-- The server answers the one request it owes. -/
theorem Paired.answer (paired : Paired s done) {call : Nat} {ok : Json} {rest : ReplyRest}
    (stepped : s.step (.answer call ok rest) = some next) : Paired next done := by
  simp only [step] at stepped
  split at stepped
  · cases stepped
  · rename_i request numbered
    simp only [Option.ite_none_right_eq_some, Option.some.injEq] at stepped
    obtain ⟨owes, rfl⟩ := stepped
    cases paired.standing with
    | idle free asked answered up down =>
        simp [(List.append_eq_nil_iff.mp up).2] at owes
    | answered obj waits asked answered up down =>
        simp [(List.append_eq_nil_iff.mp up).2] at owes
    | asked waits asked answered up down =>
        rcases List.append_eq_singleton_iff.mp up with ⟨requests, owed⟩ | ⟨-, owed⟩
        · obtain rfl : call = done.length := by simpa [owed] using owes
          refine ⟨paired.pending, ?_, paired.numbered, paired.returned, ?_⟩
          · intro pending message member
            rcases List.mem_append.mp member with earlier | last
            · exact paired.readable pending message earlier
            · obtain rfl := List.mem_singleton.mp last
              rintro call obj same
              obtain ⟨rfl, rfl⟩ := Downward.reply.inj same
              exact receive_reply pending request ok rest
          · refine .answered (replyFields request ok rest.fields) waits asked (by rw [answered])
              ?_ ?_
            · simp [requests, owed]
            · simp only [repliesIn] at down ⊢
              simp [down]
        · simp [owed] at owes

/-- The waiting call reads the oldest message. -/
theorem Paired.read (paired : Paired s done) (stepped : s.step .read = some next) :
    ∃ done, Paired next done := by
  simp only [step] at stepped
  split at stepped
  · rename_i watched message rest waits oldest
    have waits : s.waiting ≠ none := by simp [waits]
    have readable : ∀ pending, ∀ message ∈ rest, Readable pending message := by
      intro pending message' member
      exact paired.readable pending message' (by simp [oldest, member])
    by_cases isReply : ∃ call obj, message = .reply call obj
    · obtain ⟨call, obj, rfl⟩ := isReply
      have received : receive s.pending obj = .returned (replyResult obj) :=
        paired.readable s.pending _ (by simp [oldest]) call obj rfl
      have first : repliesIn s.toClient = (call, obj) :: repliesIn rest := by
        simp [oldest, repliesIn]
      simp only [Downward.obj, received] at stepped
      obtain rfl := Option.some.inj stepped
      cases paired.standing with
      | idle free => exact absurd free waits
      | asked waits asked answered up down => simp [first] at down
      | answered obj' waits asked answered up down =>
          simp only [first, List.cons.injEq, Prod.mk.injEq] at down
          obtain ⟨⟨rfl, rfl⟩, down⟩ := down
          refine ⟨done ++ [(done.length, obj)], paired.pending, readable, ?_, ?_, ?_⟩
          · rw [List.map_append, paired.numbered, List.length_append, List.length_singleton,
              List.range_succ]
            rfl
          · simp [paired.returned]
          · exact .idle rfl (by simp [asked]) answered up down
    · have other : ∀ call obj, message ≠ .reply call obj := fun call obj same =>
        isReply ⟨call, obj, same⟩
      have same : repliesIn s.toClient = repliesIn rest := by
        cases message with
        | reply call obj => exact absurd rfl (other call obj)
        | acknowledgement => simp [oldest, repliesIn]
        | event name fields => simp [oldest, repliesIn]
      have passed : next = { s with toClient := rest } := by
        rcases receive_other paired.pending other with received | received <;>
          · simp only [received] at stepped
            exact (Option.some.inj stepped).symm
      subst passed
      refine ⟨done, paired.pending, readable, paired.numbered, paired.returned, ?_⟩
      cases paired.standing with
      | idle free asked answered up down => exact .idle free asked answered up (same ▸ down)
      | asked waits asked answered up down => exact .asked waits asked answered up (same ▸ down)
      | answered obj waits asked answered up down =>
          exact .answered obj waits asked answered up (same ▸ down)
  · cases stepped

theorem paired_step {action : LinkAction} (paired : Paired s done)
    (stepped : s.step action = some next) : ∃ done, Paired next done := by
  cases action with
  | call request watched => exact ⟨done, paired.call stepped⟩
  | abort => exact ⟨done, paired.abort stepped⟩
  | read => exact paired.read stepped
  | serve => exact ⟨done, paired.serve stepped⟩
  | answer call ok rest => exact ⟨done, paired.answer stepped⟩
  | acknowledge =>
      simp only [step, Option.ite_none_right_eq_some, Option.some.injEq] at stepped
      obtain ⟨-, rfl⟩ := stepped
      exact ⟨done, paired.push .acknowledgement nofun _⟩
  | push name rest =>
      obtain rfl := Option.some.inj stepped
      exact ⟨done, paired.push (.event name rest) nofun _⟩

theorem paired_runs {actions : List LinkAction} (ran : runs step {} actions = some s) :
    ∃ done, Paired s done := by
  let inv (_ : List LinkAction) (s : BridgeLink) : Prop := ∃ done, Paired s done
  refine @runs_induction _ _ _ _ inv ⟨[], paired_start⟩ ?_ _ _ ran
  rintro past state action next ⟨done, paired⟩ stepped
  exact paired_step paired stepped

/-- A waiting call reads on until the reply comes, and returns it. -/
theorem reads_reply (channel : List Downward) (s : BridgeLink) (here : s.toClient = channel)
    (known : s.pending ≠ cString "abort") {watched : Bool} (waits : s.waiting = some watched)
    (readable : ∀ pending, ∀ message ∈ channel, Readable pending message) {call : Nat}
    {obj : Fields} (reply : (call, obj) ∈ repliesIn channel)
    (only : (repliesIn channel).length = 1) :
    ∃ rounds final, runs step s (List.replicate rounds .read) = some final ∧
      final.waiting = none ∧ final.returned = s.returned ++ [replyResult obj] := by
  induction channel generalizing s with
  | nil => simp [repliesIn] at reply
  | cons message rest ih =>
      by_cases isReply : ∃ call obj, message = .reply call obj
      · obtain ⟨call', obj', rfl⟩ := isReply
        have first : repliesIn (.reply call' obj' :: rest) = (call', obj') :: repliesIn rest := by
          simp [repliesIn]
        rw [first] at reply only
        have last : repliesIn rest = [] := by simpa using only
        obtain ⟨rfl, rfl⟩ : call = call' ∧ obj = obj' := by simpa [last] using reply
        have received : receive s.pending obj = .returned (replyResult obj) :=
          readable s.pending _ (by simp) call obj rfl
        refine ⟨1, { s with
          toClient := rest
          waiting := none
          returned := s.returned ++ [replyResult obj] }, ?_, rfl, rfl⟩
        simp [runs, step, waits, here, Downward.obj, received]
      · have other : ∀ call obj, message ≠ .reply call obj := fun call obj same =>
          isReply ⟨call, obj, same⟩
        have same : repliesIn (message :: rest) = repliesIn rest := by
          cases message with
          | reply call obj => exact absurd rfl (other call obj)
          | acknowledgement => simp [repliesIn]
          | event name fields => simp [repliesIn]
        rw [same] at reply only
        have passed : s.step .read = some { s with toClient := rest } := by
          rcases receive_other known other with received | received <;>
            simp [step, waits, here, received]
        obtain ⟨rounds, final, ran, idle, returned⟩ :=
          ih { s with toClient := rest } rfl known waits
            (fun pending message member => readable pending message (by simp [member])) reply only
        refine ⟨rounds + 1, final, ?_, idle, returned⟩
        rw [List.replicate_succ]
        simpa [runs, passed] using ran

end

/-- Every call returns the reply the server gave to its own request.  Reply number `n` is the one
to call number `n`, and what the calls returned is what these replies make of them, in order.  When
no call waits, every reply has been returned and none is left in the channel.  A call that waits
has either no reply yet, or its reply is the only one in the channel, and reading on returns it. -/
theorem calls_return_replies {actions : List LinkAction} {s : BridgeLink}
    (ran : runs step {} actions = some s) :
    s.answered.map Prod.fst = List.range s.answered.length ∧
      s.returned =
        (s.answered.take s.returned.length).map (fun answer => replyResult answer.2) ∧
      (s.waiting = none →
        s.returned.length = s.asked.length ∧ s.answered.length = s.asked.length ∧
          repliesIn s.toClient = []) ∧
      (s.waiting ≠ none →
        s.asked.length = s.returned.length + 1 ∧
          (s.answered.length = s.returned.length ∧ repliesIn s.toClient = [] ∨
            ∃ obj, s.answered.drop s.returned.length = [(s.returned.length, obj)] ∧
              repliesIn s.toClient = [(s.returned.length, obj)] ∧
                ∃ rounds final,
                  runs step {} (actions ++ List.replicate rounds .read) = some final ∧
                    final.waiting = none ∧ final.returned = s.returned ++ [replyResult obj])) := by
  obtain ⟨done, paired⟩ := paired_runs ran
  have count : s.returned.length = done.length := by simp [paired.returned]
  cases paired.standing with
  | idle free asked answered up down =>
      refine ⟨by rw [answered, paired.numbered], ?_, ?_, fun waits => absurd free waits⟩
      · rw [count, answered, List.take_length, paired.returned]
      · exact fun _ => ⟨by rw [count, asked], by rw [answered, asked], down⟩
  | asked waits asked answered up down =>
      refine ⟨by rw [answered, paired.numbered], ?_, fun free => absurd free waits, fun _ => ?_⟩
      · rw [count, answered, List.take_length, paired.returned]
      · exact ⟨by rw [count, asked], .inl ⟨by rw [count, answered], down⟩⟩
  | answered obj waits asked answered up down =>
      obtain ⟨watched, waiting⟩ := Option.ne_none_iff_exists'.mp waits
      obtain ⟨rounds, final, reading, idle, returned⟩ :=
        reads_reply s.toClient s rfl paired.pending waiting paired.readable
          (by rw [down]; exact List.mem_singleton_self _) (by rw [down]; rfl)
      refine ⟨?_, ?_, fun free => absurd free waits, fun _ => ?_⟩
      · rw [answered, List.map_append, paired.numbered, List.length_append, List.length_singleton,
          List.range_succ]
        rfl
      · rw [count, answered, List.take_left, paired.returned]
      · refine ⟨by rw [count, asked], .inr ⟨obj, ?_, by rw [count, down], rounds, final, ?_, idle,
          returned⟩⟩
        · rw [count, answered, List.drop_left]
        · simp only [runs] at ran reading ⊢
          rw [List.foldlM_append, ran]
          exact reading

/-- A request of that name. -/
def requestNamed (cmd : String) (named : isString "abort" (some (.str cmd)) = false) : Request where
  fields := [("cmd", .str cmd)]
  notAbort := by simpa [assocGet] using named

/-- The reply to a `wait_ready` that was cancelled. -/
def cancelledReply : Fields :=
  replyFields (requestNamed "wait_ready" (by decide +kernel)) (.bool false)
    [("error", .str "cancelled")]

/-- The reply to a `status`. -/
def statusReply : Fields :=
  replyFields (requestNamed "status" (by decide +kernel)) (.bool true) [("lid", .str "closed")]

/-- An abort crosses the reply on the wire, and its acknowledgement is read during the next call. -/
def crossing : List LinkAction :=
  [.call (requestNamed "wait_ready" (by decide +kernel)) true, .serve, .abort,
    .answer 0 (.bool false) ⟨[("error", .str "cancelled")], rfl⟩, .read,
    .call (requestNamed "status" (by decide +kernel)) false, .serve, .acknowledge, .serve,
    .answer 1 (.bool true) ⟨[("lid", .str "closed")], rfl⟩, .read]

/-- The first call returns the error of its own reply, and the second its own reply. -/
theorem calls_return_replies_crossing :
    ∃ rounds final,
      runs step {} (crossing ++ List.replicate rounds .read) = some final ∧
        final.waiting = none ∧ final.returned = [.error "cancelled", .reply statusReply] := by
  obtain ⟨s, ran, answered⟩ : ∃ s, runs step {} crossing = some s ∧
      s.answered = [(0, cancelledReply), (1, statusReply)] := ⟨_, rfl, rfl⟩
  have counts : (runs step {} crossing).map
      (fun s => (s.waiting, s.answered.length, s.returned.length)) = some (some false, 2, 1) := by
    decide +kernel
  rw [ran] at counts
  simp only [Option.map_some, Option.some.injEq, Prod.mk.injEq] at counts
  obtain ⟨waiting, -, once⟩ := counts
  obtain ⟨-, returned, -, waits⟩ := calls_return_replies ran
  rw [once, answered] at returned
  rcases (waits (by simp [waiting])).2 with
    ⟨same, -⟩ | ⟨obj, later, -, rounds, final, reads, free, all⟩
  · rw [once, answered] at same
    cases same
  · rw [once, answered] at later
    obtain ⟨-, rfl⟩ := Prod.mk.inj (List.cons.inj later).1
    have cancelled : replyResult cancelledReply = .error "cancelled" :=
      replyResult_refused _ (fun same => by cases same) rfl (by decide +kernel)
    have status : replyResult statusReply = .reply statusReply := replyResult_ok _ _
    refine ⟨rounds, final, reads, free, ?_⟩
    rw [all, returned, status, ← cancelled]
    rfl

end BridgeLink

end Phomemo
