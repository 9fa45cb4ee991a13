import Phomemo.Bridge.Framing
import Phomemo.PrinterApp.BridgeClient

/-!
# Requests on the socket

`phomemo_bridge_send` hands a request to the socket in as many `send` calls as it takes.  Whatever
these return, the bridge reads the requests whose sending succeeded, in order, and no other.
-/

namespace Phomemo

open Async

/-- What a `send` call returns. -/
inductive SendResult where
  | sent (count : Nat)
  /-- `EINTR`. -/
  | interrupted
  | failed (text : String)
  deriving DecidableEq, Repr

/-- How a write stands. -/
inductive WriteEnd where
  | done
  | failed (text : String)
  /-- The last `send` call has not returned. -/
  | blocked
  deriving DecidableEq, Repr

/-- `write_all`, as long as `send` calls return: the bytes that went out, how the write stands and
the results left over. -/
def writeAll : Bytes → List SendResult → Bytes × WriteEnd × List SendResult
  | [], results => ([], .done, results)
  | _ :: _, [] => ([], .blocked, [])
  | byte :: data, .interrupted :: results => writeAll (byte :: data) results
  | _ :: _, .failed text :: results => ([], .failed s!"write: {text}", results)
  | byte :: data, .sent count :: results =>
      let (out, ended, left) := writeAll ((byte :: data).drop count) results
      ((byte :: data).take count ++ out, ended, left)

/-- A call of `phomemo_bridge_send`, whether it finds memory for the message and its text, and what
its `send` calls return. -/
structure SendCall where
  request : Fields
  payload : Bytes := []
  duplicates : Bool := true
  prints : Bool := true
  results : List SendResult

/-- The request and its payload. -/
def SendCall.message (call : SendCall) : Message where
  fields := call.request
  payload := call.payload

/-- What sending needs of a `phomemo_bridge_t`. -/
structure BridgeSocket where
  /-- `fd >= 0`. -/
  isOpen : Bool := false
  pending : Bytes := []

namespace BridgeSocket

/-- `drop_link`. -/
def dropLink (_ : BridgeSocket) : BridgeSocket := { isOpen := false, pending := [] }

/-- `phomemo_bridge_close`. -/
def close (socket : BridgeSocket) : BridgeSocket := { socket with isOpen := false }

/-- A failed write drops the link. -/
def afterWrite (socket : BridgeSocket) : WriteEnd → BridgeSocket
  | .failed _ => socket.dropLink
  | _ => socket

/-- `phomemo_bridge_send`: the bytes that went out, and how it ended.  `json.dumps` is
`cJSON_PrintUnformatted`. -/
def send (json : JsonModule) (call : SendCall) (socket : BridgeSocket) :
    BridgeSocket × Bytes × WriteEnd :=
  if socket.isOpen = false then (socket, [], .failed "bridge not connected")
  else if call.payload ≠ [] ∧ call.duplicates = false then (socket, [], .failed "out of memory")
  else if call.prints = false then (socket, [], .failed "out of memory")
  else
    let message :=
      if call.payload = [] then call.request
      else call.request ++ [("bytes", .int call.payload.length)]
    let socket := { socket with pending := remember call.request socket.pending }
    let (line, ended, left) := writeAll (json.dumps message ++ [newline]) call.results
    if ended = .done then
      let (payload, ended, _) := writeAll call.payload left
      (socket.afterWrite ended, line ++ payload, ended)
    else
      (socket.afterWrite ended, line, ended)

end BridgeSocket

/-! ## Connections -/

/-- A handle and the other end of its connection. -/
structure Connection where
  socket : BridgeSocket := {}
  /-- The bytes that went out since the socket was connected. -/
  wire : Bytes := []
  /-- The requests whose sending succeeded since then. -/
  sent : List Message := []
  /-- A send has not returned. -/
  blocked : Bool := false

namespace Connection

/-- What the owner of a handle does. -/
inductive Action where
  /-- `phomemo_bridge_connect`, and whether it succeeds. -/
  | connect (linked : Bool)
  | send (call : SendCall)
  | close
  /-- A read has failed. -/
  | dropped

/-- One step; only a handle that is not open is connected, and nothing is done before a send has
returned. -/
def step (json : JsonModule) (connection : Connection) (action : Action) : Option Connection :=
  if connection.blocked then none
  else
    match action with
    | .connect linked =>
        if connection.socket.isOpen then none else some { socket := { isOpen := linked } }
    | .send call =>
        let (socket, out, ended) := connection.socket.send json call
        some {
          socket
          wire := connection.wire ++ out
          sent := if ended = .done then connection.sent ++ [call.message] else connection.sent
          blocked := ended = .blocked }
    | .close => some { connection with socket := connection.socket.close }
    | .dropped => some { connection with socket := connection.socket.dropLink }

end Connection

/-! ## What goes out -/

/-- What a write puts out is a first part of its data, and all of it exactly when it is done. -/
theorem writeAll_out (data : Bytes) (results : List SendResult) :
    (writeAll data results).1 <+: data ∧
      ((writeAll data results).2.1 = .done ↔ (writeAll data results).1 = data) := by
  induction data, results using writeAll.induct with
  | case1 results => simp [writeAll]
  | case2 byte data => simp [writeAll]
  | case3 byte data results ih => simpa only [writeAll] using ih
  | case4 byte data text results => simp [writeAll]
  | case5 byte data count results _ _ _ _ ih =>
      obtain ⟨first, whole⟩ := ih
      have split := List.take_append_drop count (byte :: data)
      have out : (writeAll (byte :: data) (.sent count :: results)).1 =
          (byte :: data).take count ++ (writeAll ((byte :: data).drop count) results).1 := by
        rw [writeAll]
      have ended : (writeAll (byte :: data) (.sent count :: results)).2.1 =
          (writeAll ((byte :: data).drop count) results).2.1 := by
        rw [writeAll]
      rw [out, ended]
      refine ⟨?_, ?_⟩
      · have longer := (List.prefix_append_right_inj ((byte :: data).take count)).mpr first
        rwa [split] at longer
      · rw [whole]
        constructor
        · intro same
          rw [same, split]
        · intro same
          exact List.append_cancel_left (same.trans split.symm)

/-- A request that does not state a length has it at its end. -/
theorem assocSet_absent {key : String} {value : Json} {fields : Fields}
    (absent : key ∉ fields.map Prod.fst) :
    assocSet key value fields = fields ++ [(key, value)] := by
  induction fields with
  | nil => rfl
  | cons field fields ih =>
      have others : key ∉ fields.map Prod.fst :=
        fun later => absent (List.mem_cons_of_mem _ later)
      have other : field.1 ≠ key := fun same => absent (same ▸ List.mem_cons_self)
      simp [assocSet, other, ih others]

namespace BridgeSocket

variable {json : JsonModule} {call : SendCall} {socket : BridgeSocket}

/-- The line that is sent is the message's, and its payload follows. -/
theorem encode_message (readable : call.message.Readable json) :
    call.message.encode json =
      json.dumps
        (if call.payload = [] then call.request
          else call.request ++ [("bytes", .int call.payload.length)]) ++ [newline] ++
        call.payload := by
  have absent : "bytes" ∉ call.request.map Prod.fst := readable.noBytes
  simp only [Message.encode, encodeMessage, SendCall.message, assocSet_absent absent]

/-- What a send puts out: all of the message when it succeeds, else a first part that is not all,
after which the link is down unless a `send` call has not returned. -/
structure Sends (json : JsonModule) (call : SendCall) (socket : BridgeSocket) : Prop where
  out : (socket.send json call).2.1 <+: call.message.encode json
  whole : (socket.send json call).2.2 = .done ↔
    (socket.send json call).2.1 = call.message.encode json
  down : ∀ text, (socket.send json call).2.2 = .failed text → (socket.send json call).2.1 ≠ [] →
    (socket.send json call).1.isOpen = false
  shut : socket.isOpen = false →
    (socket.send json call).2.1 = [] ∧ (socket.send json call).1.isOpen = false

/-- A send that is refused puts nothing out. -/
theorem sends_refused {text : String}
    (refused : socket.send json call = (socket, [], .failed text)) : Sends json call socket where
  out := by simp [refused]
  whole := by simp [refused, Message.encode_eq]
  down := by simp [refused]
  shut shut := by simp [refused, shut]

/-- After a failed write the link is down. -/
theorem afterWrite_down {ended : WriteEnd} {text : String} (failed : ended = .failed text) :
    (socket.afterWrite ended).isOpen = false := by
  rw [failed]
  rfl

theorem sends (readable : call.message.Readable json) : Sends json call socket := by
  by_cases shut : socket.isOpen = false
  · exact sends_refused (by rw [send, if_pos shut])
  by_cases unduplicated : call.payload ≠ [] ∧ call.duplicates = false
  · exact sends_refused (by rw [send, if_neg shut, if_pos unduplicated])
  by_cases unprinted : call.prints = false
  · exact sends_refused (by rw [send, if_neg shut, if_neg unduplicated, if_pos unprinted])
  have encoded := encode_message readable
  set line := json.dumps
    (if call.payload = [] then call.request
      else call.request ++ [("bytes", .int call.payload.length)]) ++ [newline] with written
  have remembered : ∃ kept : BridgeSocket, socket.send json call =
      if (writeAll line call.results).2.1 = .done then
        (kept.afterWrite (writeAll call.payload (writeAll line call.results).2.2).2.1,
          (writeAll line call.results).1 ++
            (writeAll call.payload (writeAll line call.results).2.2).1,
          (writeAll call.payload (writeAll line call.results).2.2).2.1)
      else
        (kept.afterWrite (writeAll line call.results).2.1, (writeAll line call.results).1,
          (writeAll line call.results).2.1) := by
    refine ⟨{ socket with pending := remember call.request socket.pending }, ?_⟩
    rw [send, if_neg shut, if_neg unduplicated, if_neg unprinted]
  obtain ⟨kept, sent⟩ := remembered
  obtain ⟨firstLine, wholeLine⟩ := writeAll_out line call.results
  by_cases lineDone : (writeAll line call.results).2.1 = .done
  · obtain ⟨first, whole⟩ := writeAll_out call.payload (writeAll line call.results).2.2
    rw [if_pos lineDone, wholeLine.mp lineDone] at sent
    exact {
      out := by
        rw [sent, encoded]
        exact (List.prefix_append_right_inj line).mpr first
      whole := by
        rw [sent, encoded, List.append_cancel_left_eq]
        exact whole
      down := by
        intro text failed _
        rw [sent] at failed ⊢
        exact afterWrite_down failed
      shut := fun closed => absurd closed shut }
  · rw [if_neg lineDone] at sent
    exact {
      out := by
        rw [sent, encoded]
        exact firstLine.trans (List.prefix_append _ _)
      whole := by
        rw [sent, encoded]
        refine ⟨fun done => absurd done lineDone, fun same => ?_⟩
        -- Only a line that is out completely is as long as the message.
        have long : line.length ≤ (writeAll line call.results).1.length := by
          dsimp only at same
          simp [same]
        exact wholeLine.mpr (firstLine.eq_of_length_le long)
      down := by
        intro text failed _
        rw [sent] at failed ⊢
        exact afterWrite_down failed
      shut := fun closed => absurd closed shut }

end BridgeSocket

/-! ## What is on a connection -/

namespace Connection

variable {json : JsonModule} {connection next : Connection}

/-- A connection has carried the requests whose sending succeeded; and a first part of one more
when it is down, or when the send that puts it out has not returned. -/
structure Carried (json : JsonModule) (connection : Connection) : Prop where
  readable : ∀ message ∈ connection.sent, message.Readable json
  wire : connection.wire = Message.wire json connection.sent ∨
    (connection.socket.isOpen = false ∨ connection.blocked = true) ∧
      ∃ (message : Message) (part : Bytes), message.Readable json ∧
        part <+: message.encode json ∧ part ≠ message.encode json ∧
        connection.wire = Message.wire json connection.sent ++ part

/-- A connection that goes down carries what it has carried. -/
theorem Carried.down (carried : connection.Carried json) (socket : BridgeSocket)
    (down : socket.isOpen = false) : { connection with socket }.Carried json :=
  ⟨carried.readable, carried.wire.imp_right fun part => ⟨.inl down, part.2⟩⟩

/-- On an open connection there are whole requests only. -/
theorem Carried.whole (carried : connection.Carried json)
    (opened : connection.socket.isOpen = true) (running : connection.blocked = false) :
    connection.wire = Message.wire json connection.sent := by
  refine carried.wire.resolve_right fun part => ?_
  rcases part.1 with closed | waits
  · simp [opened] at closed
  · simp [running] at waits

/-- A request is sent. -/
theorem Carried.sends (carried : connection.Carried json) (running : connection.blocked = false)
    {call : SendCall} (readable : call.message.Readable json)
    (stepped : connection.step json (.send call) = some next) : next.Carried json := by
  have sends : BridgeSocket.Sends json call connection.socket := BridgeSocket.sends readable
  have after : next = {
      socket := (connection.socket.send json call).1
      wire := connection.wire ++ (connection.socket.send json call).2.1
      sent := if (connection.socket.send json call).2.2 = .done then
        connection.sent ++ [call.message] else connection.sent
      blocked := (connection.socket.send json call).2.2 = .blocked } := by
    simpa [step, running] using stepped.symm
  cases opened : connection.socket.isOpen with
  | false =>
      obtain ⟨nothing, stays⟩ := sends.shut opened
      have unsent : (connection.socket.send json call).2.2 ≠ .done := by
        rw [Ne, sends.whole, nothing]
        simp [Message.encode_eq]
      rw [after, if_neg unsent, nothing, List.append_nil]
      exact ⟨carried.readable, carried.wire.imp_right fun part => ⟨.inl stays, part.2⟩⟩
  | true =>
      have wire := carried.whole opened running
      by_cases done : (connection.socket.send json call).2.2 = .done
      · rw [after, if_pos done, sends.whole.mp done, wire]
        refine ⟨?_, .inl (by simp [Message.wire])⟩
        intro message member
        rcases List.mem_append.mp member with before | last
        · exact carried.readable message before
        · rwa [List.mem_singleton.mp last]
      · rw [after, if_neg done, wire]
        refine ⟨carried.readable, ?_⟩
        by_cases nothing : (connection.socket.send json call).2.1 = []
        · exact .inl (by simp [nothing])
        · refine .inr ⟨?_, call.message, _, readable, sends.out, mt sends.whole.mpr done, rfl⟩
          cases ended : (connection.socket.send json call).2.2 with
          | done => exact absurd ended done
          | failed text => exact .inl (sends.down text ended nothing)
          | blocked => exact .inr (by simp)

/-- A step of a connection whose requests are readable. -/
theorem carried_step (carried : connection.Carried json) {action : Action}
    (readable : ∀ call, action = .send call → call.message.Readable json)
    (stepped : connection.step json action = some next) : next.Carried json := by
  have running : connection.blocked = false := by
    by_contra blocked
    simp [step, blocked] at stepped
  cases action with
  | connect linked =>
      have fresh : next = { socket := { isOpen := linked } } := by
        rw [step, if_neg (by simp [running])] at stepped
        split_ifs at stepped
        exact (Option.some.inj stepped).symm
      rw [fresh]
      exact ⟨by simp, .inl rfl⟩
  | close =>
      have closed : next = { connection with socket := connection.socket.close } := by
        simpa [step, running] using stepped.symm
      rw [closed]
      exact carried.down _ rfl
  | dropped =>
      have dropped : next = { connection with socket := connection.socket.dropLink } := by
        simpa [step, running] using stepped.symm
      rw [dropped]
      exact carried.down _ rfl
  | send call => exact carried.sends running (readable call rfl) stepped

/-- What a connection has carried, whatever its owner did. -/
theorem runs_carried {actions : List Action}
    (readable : ∀ call, Action.send call ∈ actions → call.message.Readable json)
    (ran : runs (step json) {} actions = some connection) : connection.Carried json := by
  let inv (past : List Action) (state : Connection) : Prop :=
    (∀ call, Action.send call ∈ past → call.message.Readable json) → state.Carried json
  have initial : inv [] {} := fun _ => ⟨by simp, .inl rfl⟩
  refine @runs_induction _ _ _ _ inv initial ?_ _ _ ran readable
  intro past state action next held stepped readable
  have before : ∀ call, Action.send call ∈ past → call.message.Readable json :=
    fun call member => readable call (List.mem_append_left _ member)
  refine carried_step (held before) ?_ stepped
  rintro call rfl
  exact readable call (List.mem_append_right _ List.mem_cons_self)

/-- The messages a reader of the connection may come to, and those that are complete on it. -/
theorem Carried.arrived (carried : connection.Carried json) :
    ∃ messages : List Message, (∀ message ∈ messages, message.Readable json) ∧
      messages.length ≤ connection.sent.length + 1 ∧
      connection.wire <+: Message.wire json messages ∧
      Message.arrived json messages connection.wire = connection.sent := by
  rcases carried.wire with whole | ⟨-, message, part, readable, first, cut, wire⟩
  · refine ⟨connection.sent, carried.readable, by omega, by rw [whole], ?_⟩
    rw [whole, Message.arrived_wire]
  · refine ⟨connection.sent ++ [message], ?_, by simp, ?_, ?_⟩
    · intro other member
      rcases List.mem_append.mp member with before | last
      · exact carried.readable other before
      · rwa [List.mem_singleton.mp last]
    · rw [wire]
      simpa [Message.wire] using first
    · have lacking : ¬message.encode json <+: part := fun complete =>
        cut (first.eq_of_length_le complete.length_le)
      rw [wire, Message.arrived_append, Message.arrived_cut lacking, List.append_nil]

end Connection

/-- The more bytes have arrived, the more messages are complete. -/
theorem Message.arrived_mono {json : JsonModule} (messages : List Message) {data more : Bytes}
    (grows : data <+: more) : arrived json messages data <+: arrived json messages more := by
  induction messages generalizing data more with
  | nil => exact List.prefix_rfl
  | cons message messages ih =>
      by_cases complete : message.encode json <+: data
      · rw [arrived, arrived, if_pos complete, if_pos (complete.trans grows)]
        exact List.cons_prefix_cons.mpr ⟨rfl, ih (grows.drop _)⟩
      · rw [arrived_cut complete]
        exact List.nil_prefix

/-- A reader that is resumed often enough has taken what it can. -/
theorem MessageReader.rests {json : JsonModule} {messages : List Message}
    {moments : List MessageReader.Action} {reader : MessageReader}
    (readable : ∀ message ∈ messages, message.Readable json)
    (ran : runs (MessageReader.step json) {} moments = some reader)
    (sent : MessageReader.fedBytes moments <+: Message.wire json messages) {rounds : Nat}
    (enough : 2 * messages.length + 2 < rounds) :
    ∃ final, runs (MessageReader.step json) {} (moments ++ List.replicate rounds .resumed) =
        some final ∧
      final.stream.eof = reader.stream.eof ∧
      MessageReader.Rested json messages (MessageReader.fedBytes moments) final := by
  have reads := MessageReader.runs_reads readable ran sent
  let inv (state : MessageReader) : Prop :=
    MessageReader.Reads json messages (MessageReader.fedBytes moments) state ∧
      state.stream.eof = reader.stream.eof
  have grows : ∀ state, inv state → inv (state.resume json) ∧
      (state.progress < (state.resume json).progress ∨
        state.resume json = state ∧
          MessageReader.Rested json messages (MessageReader.fedBytes moments) state) := by
    intro state held
    obtain ⟨kept, same, progress⟩ := MessageReader.resume_reads readable sent held.1
    exact ⟨⟨kept, same.trans held.2⟩, progress⟩
  have ⟨held, rested⟩ := iterate_rests (fun state held => MessageReader.progress_le held.1) grows
    (⟨reads, rfl⟩ : inv reader) enough
  exact ⟨_, MessageReader.runs_resumed ran rounds, held.2, rested⟩

/-- Whatever the owner of a handle does and however its `send` calls go, at every moment the bridge
has read requests whose sending succeeded on the connection, in order, and it fails only at the end
of the stream; and once all that went out has arrived, it comes to have read each of them.  The
requests keep to the limits of the wire, and only a handle that is not open is connected. -/
theorem Connection.sends_received (json : JsonModule) {actions : List Connection.Action}
    {connection : Connection}
    (readable : ∀ call, Connection.Action.send call ∈ actions → call.message.Readable json)
    (ran : runs (Connection.step json) {} actions = some connection)
    {moments : List MessageReader.Action} {reader : MessageReader}
    (read : runs (MessageReader.step json) {} moments = some reader)
    (passed : MessageReader.fedBytes moments <+: connection.wire) :
    reader.received <+: connection.sent.map Message.framed ∧
      (∀ failure, reader.failed = some failure →
        failure.IsIncomplete ∧ reader.stream.eof = true) ∧
      (MessageReader.fedBytes moments = connection.wire →
        ∀ rounds, 2 * connection.sent.length + 4 < rounds →
          ∃ final,
            runs (MessageReader.step json) {} (moments ++ List.replicate rounds .resumed) =
                some final ∧
              final.received = connection.sent.map Message.framed ∧
              (reader.stream.eof = false → final.failed = none)) := by
  obtain ⟨messages, all, count, within, complete⟩ := (runs_carried readable ran).arrived
  have sent := passed.trans within
  have reads := MessageReader.runs_reads all read sent
  refine ⟨?_, ?_, ?_⟩
  · have grows := @Message.arrived_mono json messages _ _ passed
    rw [complete] at grows
    exact (MessageReader.received_prefix reads).trans (grows.map _)
  · intro failure failed
    obtain ⟨incomplete, ended, -⟩ := MessageReader.failed_complete reads failed
    exact ⟨incomplete, ended⟩
  · intro whole rounds enough
    obtain ⟨final, ran, same, rested⟩ := MessageReader.rests all read sent
      (show 2 * messages.length + 2 < rounds by omega)
    refine ⟨final, ran, ?_, fun running => rested.waits (same.trans running)⟩
    rw [rested.received, whole, complete]

namespace Connection

open MessageReader (sampleJson sampleMessages)

/-- A batch of rows goes out in four pieces, and of a question only three bytes. -/
def sampleRun : List Action :=
  [.connect true,
    .send {
      request := [("cmd", .str "lines")]
      payload := [10, 123]
      results := [.sent 5, .interrupted, .sent 100, .sent 1, .sent 1] },
    .send {
      request := [("cmd", .str "status")]
      results := [.sent 3, .failed "Broken pipe"] }]

/-- What has gone out arrives in two pieces, the first of which ends within the payload. -/
def sampleMoments : List MessageReader.Action :=
  let wire := (Message.wire sampleJson sampleMessages).take 34
  [.fed (wire.take 30), .resumed, .fed (wire.drop 30), .ended]

theorem sends_received_sample :
    ∃ connection final, runs (step sampleJson) {} sampleRun = some connection ∧
      connection.sent.length = 1 ∧
      runs (MessageReader.step sampleJson) {} (sampleMoments ++ List.replicate 7 .resumed) =
        some final ∧
      final.received = connection.sent.map Message.framed := by
  obtain ⟨connection, ran, carried⟩ : ∃ connection,
      runs (step sampleJson) {} sampleRun = some connection ∧
        (connection.sent.length, connection.wire) =
          (1, (Message.wire sampleJson sampleMessages).take 34) :=
    Option.map_eq_some_iff.mp (by decide +kernel)
  obtain ⟨count, wire⟩ := Prod.mk.inj carried
  obtain ⟨reader, read⟩ : ∃ reader,
      runs (MessageReader.step sampleJson) {} sampleMoments = some reader :=
    Option.isSome_iff_exists.mp (by decide +kernel)
  have readable : ∀ call, Action.send call ∈ sampleRun → call.message.Readable sampleJson := by
    intro call member
    simp only [sampleRun, List.mem_cons, List.not_mem_nil, or_false, reduceCtorEq, false_or,
      Action.send.injEq] at member
    rcases member with rfl | rfl
    · exact ⟨by decide, by decide, by decide +kernel, by decide +kernel, by rfl⟩
    · exact ⟨by decide, by decide, by decide +kernel, by decide +kernel, by rfl⟩
  have whole : MessageReader.fedBytes sampleMoments = connection.wire := by
    rw [wire]
    decide +kernel
  obtain ⟨-, -, settles⟩ := sends_received sampleJson readable ran read (by rw [whole])
  obtain ⟨final, ran', received, -⟩ := settles whole 7 (by rw [count]; decide)
  exact ⟨connection, final, ran, count, ran', received⟩

end Connection

end Phomemo
