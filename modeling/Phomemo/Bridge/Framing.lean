import Phomemo.Async.Machine
import Phomemo.Async.Stream
import Phomemo.SessionLoop

/-!
# Framing of the bridge socket

Every message is one JSON object on its own line.  A message that carries raw bytes states their
length in `"bytes"` and the bytes follow the newline immediately.  Reading inverts writing, however
the stream is cut into pieces.
-/

namespace Phomemo

open Async

/-- `MAX_LINE`. -/
def maxLine : Nat := 64 * 1024

/-- `MAX_PAYLOAD`. -/
def maxPayload : Nat := 16 * 1024 * 1024

/-- The limit of a stream reader, by default. -/
def streamLimit : Nat := 2 ^ 16

/-- `b"\n"`. -/
def newline : UInt8 := 10

/-- The functions of the `json` module, and `repr`. -/
structure JsonModule where
  /-- `json.dumps(obj).encode()`. -/
  dumps : List (String × Json) → Bytes
  loads : Bytes → Except PyExc Json
  repr : Json → String

/-- Serialise a message, attaching the payload and its `bytes` count. -/
def encodeMessage (json : JsonModule) (obj : List (String × Json)) (payload : Bytes) : Bytes :=
  let obj := if payload = [] then obj else assocSet "bytes" (.int payload.length) obj
  json.dumps obj ++ [newline] ++ payload

/-- An `IncompleteReadError`. -/
def ReadFailure.IsIncomplete : ReadFailure → Prop
  | incompleteRead _ _ => True
  | _ => False

/-- The length of the payload that follows.  A Boolean is an integer. -/
def payloadSize (json : JsonModule) (fields : List (String × Json)) : Except ReadFailure Nat :=
  match (assocGet "bytes" fields).getD (.int 0) with
  | .bool flag => .ok (if flag then 1 else 0)
  | .int size =>
      if 0 ≤ size ∧ size ≤ maxPayload then .ok size.toNat
      else
        let shown := json.repr (.int size)
        .error (.protocolError s!"invalid payload length {shown}")
  | other =>
      let shown := json.repr other
      .error (.protocolError s!"invalid payload length {shown}")

/-- The object of a line and the length of its payload. -/
def parseLine (json : JsonModule) (line : Bytes) :
    Except ReadFailure (List (String × Json) × Nat) :=
  if maxLine < line.length then .error (.protocolError s!"line exceeds {maxLine} bytes")
  else
    match json.loads line with
    | .error (.valueError text) => .error (.protocolError s!"invalid JSON: {text}")
    | .error exc => .error (.raised exc)
    | .ok (.obj fields) => (payloadSize json fields).map fun size => (fields, size)
    | .ok _ => .error (.protocolError "message must be a JSON object")

/-- What `read_message` awaits. -/
inductive ReadPhase where
  | line
  | payload (fields : List (String × Json)) (size : Nat)
  /-- It has raised, and nothing is read any more. -/
  | failed (failure : ReadFailure)

/-- `read_message` called again and again on one stream. -/
structure MessageReader where
  stream : StreamReader UInt8 := {}
  phase : ReadPhase := .line
  received : List Message := []

namespace MessageReader

/-- The exception the reader ended with. -/
def failed (reader : MessageReader) : Option ReadFailure :=
  match reader.phase with
  | .failed failure => some failure
  | _ => none

/-- `read_message` returns. -/
def deliver (fields : List (String × Json)) (payload : Bytes) (reader : MessageReader) :
    MessageReader :=
  { reader with phase := .line, received := reader.received ++ [{ fields, payload }] }

/-- What becomes of an attempt to read. -/
def attempt (reader : MessageReader) (expected : Option Nat)
    (next : Bytes → MessageReader → MessageReader) : Attempt UInt8 → MessageReader
  | .ready value stream => next value { reader with stream }
  | .waiting => reader
  | .incomplete part =>
      { reader with
        stream := { reader.stream with buffer := [] }
        phase := .failed (.incompleteRead part expected) }
  | .overrun =>
      { reader with phase := .failed (.protocolError s!"line exceeds {maxLine} bytes") }

/-- The reader goes on with a line. -/
def parse (json : JsonModule) (line : Bytes) (reader : MessageReader) : MessageReader :=
  match parseLine json line with
  | .error failure => { reader with phase := .failed failure }
  | .ok (fields, 0) => reader.deliver fields []
  | .ok (fields, size) => { reader with phase := .payload fields size }

/-- The reader is resumed. -/
def resume (json : JsonModule) (reader : MessageReader) : MessageReader :=
  match reader.phase with
  | .line =>
      reader.attempt none (parse json) (reader.stream.readuntil streamLimit newline)
  | .payload fields size =>
      reader.attempt (some size) (deliver fields) (reader.stream.readexactly size)
  | .failed _ => reader

/-- What happens next on the stream. -/
inductive Action where
  | fed (data : Bytes)
  | ended
  | resumed

/-- One step; `none` when the action cannot happen. -/
def step (json : JsonModule) (reader : MessageReader) : Action → Option MessageReader
  | .fed data =>
      if reader.stream.eof then none else some { reader with stream := reader.stream.feed data }
  | .ended => some { reader with stream := { reader.stream with eof := true } }
  | .resumed => some (reader.resume json)

/-- The bytes that have arrived. -/
def fedBytes (actions : List Action) : Bytes :=
  actions.flatMap fun action =>
    match action with
    | .fed data => data
    | _ => []

end MessageReader

/-! ## What is written -/

/-- `json.dumps` emits no raw newline, and `json.loads` inverts it. -/
structure JsonModule.Inverts (json : JsonModule) (fields : List (String × Json)) : Prop where
  noNewline : newline ∉ json.dumps fields
  loads : json.loads (json.dumps fields ++ [newline]) = .ok (.obj fields)

namespace Message

/-- The message with its payload's length. -/
def framed (message : Message) : Message :=
  { message with
    fields :=
      if message.payload = [] then message.fields
      else assocSet "bytes" (.int message.payload.length) message.fields }

/-- The bytes of a message. -/
def encode (json : JsonModule) (message : Message) : Bytes :=
  encodeMessage json message.fields message.payload

/-- Its line without the newline. -/
def line (json : JsonModule) (message : Message) : Bytes := json.dumps message.framed.fields

theorem encode_eq (json : JsonModule) (message : Message) :
    message.encode json = message.line json ++ newline :: message.payload := by
  simp [encode, encodeMessage, line, framed]

/-- A message that may be sent. -/
structure Readable (json : JsonModule) (message : Message) : Prop where
  noBytes : "bytes" ∉ message.fields.map Prod.fst
  payload : message.payload.length ≤ maxPayload
  line : (message.line json ++ [newline]).length ≤ maxLine
  inverts : json.Inverts message.framed.fields

/-- The bytes of messages after one another. -/
def wire (json : JsonModule) (messages : List Message) : Bytes := messages.flatMap (encode json)

@[simp]
theorem wire_nil (json : JsonModule) : wire json [] = [] := rfl

@[simp]
theorem wire_cons (json : JsonModule) (message : Message) (messages : List Message) :
    wire json (message :: messages) = message.encode json ++ wire json messages := rfl

/-- The messages that are complete in the data. -/
def arrived (json : JsonModule) : List Message → Bytes → List Message
  | [], _ => []
  | message :: messages, data =>
      if message.encode json <+: data then
        message :: arrived json messages (data.drop (message.encode json).length)
      else []

/-- What has been read is complete. -/
theorem arrived_append (json : JsonModule) (done rest : List Message) (data : Bytes) :
    arrived json (done ++ rest) (wire json done ++ data) = done ++ arrived json rest data := by
  induction done with
  | nil => rfl
  | cons message done ih => simp [arrived, List.append_assoc, ih]

/-- Everything that was sent is complete. -/
theorem arrived_wire (json : JsonModule) (messages : List Message) :
    arrived json messages (wire json messages) = messages := by
  have all := arrived_append json messages [] []
  simpa [arrived] using all

theorem arrived_cut {json : JsonModule} {message : Message} {data : Bytes}
    (cut : ¬message.encode json <+: data) (rest : List Message) :
    arrived json (message :: rest) data = [] := by
  simp [arrived, cut]

end Message

namespace Message.Readable

variable {json : JsonModule} {message : Message}

/-- The line of a message states the length of its payload. -/
theorem payloadSize_eq (readable : message.Readable json) :
    payloadSize json message.framed.fields = .ok message.payload.length := by
  by_cases empty : message.payload = []
  · have absent := assocGet_eq_none readable.noBytes
    simp [payloadSize, framed, empty, absent]
  · have size : (message.payload.length : Int) ≤ maxPayload := by
      exact_mod_cast readable.payload
    simp [payloadSize, framed, empty, assocGet_assocSet_self, size]

theorem parseLine_eq (readable : message.Readable json) :
    parseLine json (message.line json ++ [newline]) =
      .ok (message.framed.fields, message.payload.length) := by
  have short : ¬maxLine < (message.line json ++ [newline]).length := by
    have := readable.line
    omega
  have loaded : json.loads (message.line json ++ [newline]) = .ok (.obj message.framed.fields) :=
    readable.inverts.loads
  simp only [parseLine, short, if_false, loaded, readable.payloadSize_eq]
  rfl

/-- A message without a payload is complete with its line. -/
theorem parse_bare (readable : message.Readable json) (bare : message.payload = [])
    (reader : MessageReader) :
    reader.parse json (message.line json ++ [newline]) =
      reader.deliver message.framed.fields [] := by
  simp only [MessageReader.parse, readable.parseLine_eq, bare]
  rfl

theorem parse_loaded (readable : message.Readable json) (loaded : message.payload ≠ [])
    (reader : MessageReader) :
    reader.parse json (message.line json ++ [newline]) =
      { reader with phase := .payload message.framed.fields message.payload.length } := by
  obtain ⟨first, others, split⟩ := List.exists_cons_of_ne_nil loaded
  simp only [MessageReader.parse, readable.parseLine_eq, split, List.length_cons]

end Message.Readable

/-! ## What is read -/

namespace MessageReader

/-- How far the reader is. -/
def progress (reader : MessageReader) : Nat :=
  2 * reader.received.length +
    match reader.phase with
    | .line => 0
    | .payload _ _ => 1
    | .failed _ => 2

/-- What the reader has made of the bytes that have arrived. -/
def Reads (json : JsonModule) (messages : List Message) (data : Bytes) (reader : MessageReader) :
    Prop :=
  ∃ done rest, messages = done ++ rest ∧ reader.received = done.map Message.framed ∧
    match reader.phase with
    | .line => data = Message.wire json done ++ reader.stream.buffer
    | .payload fields size =>
        ∃ message later, rest = message :: later ∧ fields = message.framed.fields ∧
          size = message.payload.length ∧ message.payload ≠ [] ∧
          data = Message.wire json done ++
            (message.line json ++ newline :: reader.stream.buffer)
    | .failed failure =>
        failure.IsIncomplete ∧ reader.stream.eof = true ∧
          Message.arrived json messages data = done

/-- The reader has taken what it can, and has failed exactly if the stream has ended. -/
structure Rested (json : JsonModule) (messages : List Message) (data : Bytes)
    (reader : MessageReader) : Prop where
  received : reader.received = (Message.arrived json messages data).map Message.framed
  waits : reader.stream.eof = false → reader.failed = none
  failed : reader.stream.eof = true →
    ∃ failure, reader.failed = some failure ∧ failure.IsIncomplete

/-- What a reader that is resumed comes to. -/
def Resumes (json : JsonModule) (messages : List Message) (data : Bytes)
    (reader next : MessageReader) : Prop :=
  Reads json messages data next ∧ next.stream.eof = reader.stream.eof ∧
    (reader.progress < next.progress ∨ next = reader ∧ Rested json messages data reader)

section
variable {json : JsonModule} {messages done rest : List Message} {data unread : Bytes}
  {reader : MessageReader}

/-- The reader lacks the rest of a message. -/
theorem resumes_lacking (split : messages = done ++ rest)
    (received : reader.received = done.map Message.framed) (waiting : reader.failed = none)
    (reads : Reads json messages data reader) (here : data = Message.wire json done ++ unread)
    (cut : Message.arrived json rest unread = []) (expected : Option Nat)
    (next : Bytes → MessageReader → MessageReader) :
    Resumes json messages data reader (reader.attempt expected next reader.stream.lacking) := by
  have complete : Message.arrived json messages data = done := by
    rw [split, here, Message.arrived_append, cut, List.append_nil]
  cases ended : reader.stream.eof with
  | false =>
      have same : reader.attempt expected next reader.stream.lacking = reader := by
        simp [StreamReader.lacking, ended, attempt]
      rw [same]
      refine ⟨reads, rfl, .inr ⟨rfl, ?_⟩⟩
      exact ⟨by rw [complete, received], fun _ => waiting, by simp [ended]⟩
  | true =>
      have raised : reader.attempt expected next reader.stream.lacking =
          { reader with
            stream := { reader.stream with buffer := [] }
            phase := .failed (.incompleteRead reader.stream.buffer expected) } := by
        simp [StreamReader.lacking, ended, attempt]
      rw [raised]
      refine ⟨⟨done, rest, split, received, trivial, ended, complete⟩, rfl, .inl ?_⟩
      cases phase : reader.phase with
      | line => simp [progress, phase]
      | payload fields size => simp [progress, phase]
      | failed failure => simp [failed, phase] at waiting

/-- A resumed reader keeps to the messages that were sent. -/
theorem resume_reads (readable : ∀ message ∈ messages, message.Readable json)
    (sent : data <+: Message.wire json messages) (reads : Reads json messages data reader) :
    Resumes json messages data reader (reader.resume json) := by
  obtain ⟨done, rest, rfl, received, here⟩ := id reads
  have wires : Message.wire json (done ++ rest) =
      Message.wire json done ++ Message.wire json rest := by
    simp [Message.wire]
  rw [wires] at sent
  cases phase : reader.phase with
  | failed failure =>
      simp only [phase] at here
      obtain ⟨incomplete, ended, complete⟩ := here
      have same : reader.resume json = reader := by simp [resume, phase]
      rw [same]
      refine ⟨reads, rfl, .inr ⟨rfl, by rw [complete, received], by simp [ended], fun _ => ?_⟩⟩
      exact ⟨failure, by simp [MessageReader.failed, phase], incomplete⟩
  | line =>
      simp only [phase] at here
      have waiting : reader.failed = none := by simp [MessageReader.failed, phase]
      subst here
      have coming := (List.prefix_append_right_inj _).mp sent
      simp only [resume, phase]
      cases rest with
      | nil =>
          -- Everything was read; the stream may only end.
          have empty : reader.stream.buffer = [] := List.prefix_nil.mp coming
          rw [StreamReader.readuntil_lacking (by simp [empty]) (by simp [empty])]
          exact resumes_lacking rfl received waiting reads rfl rfl none _
      | cons message later =>
          have fits := readable message (by simp)
          rw [Message.wire_cons, Message.encode_eq, List.append_assoc, List.cons_append] at coming
          have noNewline : newline ∉ message.line json := fits.inverts.noNewline
          have short : (message.line json).length ≤ streamLimit := by
            have := fits.line
            simp only [List.length_append, List.length_singleton] at this
            change _ ≤ 64 * 1024 at this
            change _ ≤ 2 ^ 16
            omega
          rcases prefix_separated noNewline coming with
            ⟨missing, within⟩ | ⟨more, split, -⟩
          · rw [StreamReader.readuntil_lacking missing (within.trans short)]
            refine resumes_lacking rfl received waiting reads rfl ?_ none _
            refine Message.arrived_cut (fun complete => missing ?_) later
            rw [Message.encode_eq] at complete
            exact complete.subset (by simp)
          · rw [StreamReader.readuntil_ready split noNewline short]
            simp only [attempt]
            by_cases bare : message.payload = []
            · rw [fits.parse_bare bare]
              refine ⟨⟨done ++ [message], later, by simp, ?_, ?_⟩, rfl, .inl ?_⟩
              · simp [deliver, received, Message.framed, bare]
              · simp [deliver, Message.wire, Message.encode_eq, bare, split]
              · simp [progress, deliver, phase]
            · rw [fits.parse_loaded bare]
              refine ⟨⟨done, message :: later, rfl, received, ?_⟩, rfl, .inl ?_⟩
              · exact ⟨message, later, rfl, rfl, rfl, bare, by rw [split]⟩
              · simp [progress, phase]
  | payload fields size =>
      simp only [phase] at here
      obtain ⟨message, later, rfl, rfl, rfl, loaded, rfl⟩ := here
      have waiting : reader.failed = none := by simp [MessageReader.failed, phase]
      have coming := (List.prefix_append_right_inj _).mp sent
      rw [Message.wire_cons, Message.encode_eq, List.append_assoc, List.cons_append] at coming
      have coming := (List.prefix_append_right_inj _).mp coming
      have coming := (List.cons_prefix_cons.mp coming).2
      simp only [resume, phase]
      by_cases enough : message.payload.length ≤ reader.stream.buffer.length
      · obtain ⟨more, split⟩ := List.prefix_of_prefix_length_le
          (List.prefix_append message.payload _) coming enough
        rw [StreamReader.readexactly_ready split.symm]
        refine ⟨⟨done ++ [message], later, by simp, ?_, ?_⟩, rfl, .inl ?_⟩
        · simp [attempt, deliver, received, Message.framed]
        · simp [attempt, deliver, Message.wire, Message.encode_eq, ← split]
        · simp [attempt, progress, deliver, phase]
          omega
      · have short : reader.stream.buffer.length < message.payload.length := by omega
        rw [StreamReader.readexactly_lacking short]
        refine resumes_lacking rfl received waiting reads rfl ?_ _ _
        refine Message.arrived_cut (fun complete => enough ?_) later
        have whole := complete.length_le
        rw [Message.encode_eq] at whole
        simp only [List.length_append, List.length_cons] at whole
        omega

theorem progress_le (reads : Reads json messages data reader) :
    reader.progress ≤ 2 * messages.length + 2 := by
  obtain ⟨done, rest, rfl, received, here⟩ := reads
  have count : reader.received.length = done.length := by simp [received]
  cases phase : reader.phase with
  | line =>
      simp [progress, phase, count]
      omega
  | payload fields size =>
      simp only [phase] at here
      obtain ⟨message, later, rfl, -⟩ := here
      simp [progress, phase, count]
      omega
  | failed failure =>
      simp [progress, phase, count]

/-- A reader fails only when everything complete has been read. -/
theorem failed_complete (reads : Reads json messages data reader) {failure : ReadFailure}
    (failed : reader.failed = some failure) :
    failure.IsIncomplete ∧ reader.stream.eof = true ∧
      reader.received = (Message.arrived json messages data).map Message.framed := by
  obtain ⟨done, rest, rfl, received, here⟩ := reads
  cases phase : reader.phase with
  | line => simp [MessageReader.failed, phase] at failed
  | payload fields size => simp [MessageReader.failed, phase] at failed
  | failed raised =>
      simp only [phase] at here
      obtain ⟨incomplete, ended, complete⟩ := here
      have same : raised = failure := by simpa [MessageReader.failed, phase] using failed
      exact ⟨same ▸ incomplete, ended, by rw [complete, received]⟩

/-- What was read is complete. -/
theorem received_prefix (reads : Reads json messages data reader) :
    reader.received <+: (Message.arrived json messages data).map Message.framed := by
  obtain ⟨done, rest, rfl, received, here⟩ := id reads
  rw [received]
  apply List.IsPrefix.map
  cases phase : reader.phase with
  | line =>
      simp only [phase] at here
      rw [here, Message.arrived_append]
      exact List.prefix_append _ _
  | payload fields size =>
      simp only [phase] at here
      obtain ⟨message, later, -, -, -, -, here⟩ := here
      rw [here, Message.arrived_append]
      exact List.prefix_append _ _
  | failed failure =>
      simp only [phase] at here
      rw [here.2.2]

theorem reads_fed (more : Bytes) (reads : Reads json messages data reader)
    (running : reader.stream.eof = false) :
    Reads json messages (data ++ more) { reader with stream := reader.stream.feed more } := by
  obtain ⟨done, rest, split, received, here⟩ := reads
  refine ⟨done, rest, split, received, ?_⟩
  cases phase : reader.phase with
  | line =>
      simp only [phase] at here
      simp [here, StreamReader.feed]
  | payload fields size =>
      simp only [phase] at here
      obtain ⟨message, later, first, named, length, loaded, here⟩ := here
      exact ⟨message, later, first, named, length, loaded, by simp [here, StreamReader.feed]⟩
  | failed failure =>
      simp only [phase] at here
      exact absurd here.2.1 (by simp [running])

theorem reads_ended (reads : Reads json messages data reader) :
    Reads json messages data { reader with stream := { reader.stream with eof := true } } := by
  obtain ⟨done, rest, split, received, here⟩ := reads
  refine ⟨done, rest, split, received, ?_⟩
  cases phase : reader.phase with
  | line => simpa only [phase] using here
  | payload fields size => simpa only [phase] using here
  | failed failure =>
      simp only [phase] at here
      exact ⟨here.1, rfl, here.2.2⟩

theorem fedBytes_concat (actions : List Action) (action : Action) :
    fedBytes (actions ++ [action]) =
      fedBytes actions ++ fedBytes [action] := by
  simp [fedBytes]

/-- At every moment the reader has read complete messages, in order. -/
theorem runs_reads (readable : ∀ message ∈ messages, message.Readable json)
    {actions : List Action} (ran : runs (step json) {} actions = some reader)
    (sent : fedBytes actions <+: Message.wire json messages) :
    Reads json messages (fedBytes actions) reader := by
  let inv (past : List Action) (reader : MessageReader) : Prop :=
    fedBytes past <+: Message.wire json messages → Reads json messages (fedBytes past) reader
  have initial : inv [] {} := fun _ => ⟨[], messages, rfl, rfl, rfl⟩
  refine @runs_induction _ _ _ _ inv initial ?_ _ _ ran sent
  intro past reader action next held stepped sent
  rw [fedBytes_concat] at sent ⊢
  have reads := held ((List.prefix_append _ _).trans sent)
  cases action with
  | fed more =>
      have bytes : fedBytes [.fed more] = more := by simp [fedBytes]
      rw [bytes]
      unfold step at stepped
      split_ifs at stepped with ended
      obtain rfl := Option.some.inj stepped
      exact reads_fed more reads (by simpa using ended)
  | ended =>
      obtain rfl := Option.some.inj stepped
      simpa [fedBytes] using reads_ended reads
  | resumed =>
      obtain rfl := Option.some.inj stepped
      have kept := (resume_reads readable ((List.prefix_append _ _).trans sent) reads).1
      simpa [fedBytes] using kept

theorem runs_resumed {actions : List Action} (ran : runs (step json) {} actions = some reader)
    (rounds : Nat) :
    runs (step json) {} (actions ++ List.replicate rounds .resumed) =
      some ((resume json)^[rounds] reader) := by
  induction rounds with
  | zero => simpa using ran
  | succ rounds ih =>
      rw [List.replicate_succ', ← List.append_assoc, runs_concat, ih, Function.iterate_succ_apply']
      rfl

end

/-- Whatever pieces the stream comes in, the reader reads the messages that are complete in it,
each with its payload and its payload's length; and at the end of the stream it raises
`IncompleteReadError`. -/
theorem readMessage_inverts (json : JsonModule) (messages : List Message)
    (readable : ∀ message ∈ messages, message.Readable json) {actions : List Action}
    {reader : MessageReader} (ran : runs (step json) {} actions = some reader)
    (sent : fedBytes actions <+: Message.wire json messages) :
    reader.received <+: (Message.arrived json messages (fedBytes actions)).map Message.framed ∧
      (∀ failure, reader.failed = some failure →
        failure.IsIncomplete ∧ reader.stream.eof = true ∧
          reader.received = (Message.arrived json messages (fedBytes actions)).map Message.framed) ∧
      (∀ rounds, 2 * messages.length + 2 < rounds →
        ∃ final,
          runs (step json) {} (actions ++ List.replicate rounds .resumed) = some final ∧
            final.stream.eof = reader.stream.eof ∧
            Rested json messages (fedBytes actions) final) ∧
      (fedBytes actions = Message.wire json messages →
        Message.arrived json messages (fedBytes actions) = messages) := by
  have reads := runs_reads readable ran sent
  refine ⟨ received_prefix reads, fun failure => failed_complete reads, ?_, ?_⟩
  · intro rounds enough
    let inv (state : MessageReader) : Prop :=
      Reads json messages (fedBytes actions) state ∧ state.stream.eof = reader.stream.eof
    have grows : ∀ state, inv state → inv (state.resume json) ∧
        (state.progress < (state.resume json).progress ∨
          state.resume json = state ∧ Rested json messages (fedBytes actions) state) := by
      intro state held
      obtain ⟨kept, same, progress⟩ := resume_reads readable sent held.1
      exact ⟨⟨kept, same.trans held.2⟩, progress⟩
    have ⟨held, rested⟩ := iterate_rests (fun state held => progress_le held.1) grows
      (⟨reads, rfl⟩ : inv reader) enough
    exact ⟨_, runs_resumed ran rounds, held.2, rested⟩
  · intro whole
    rw [whole, Message.arrived_wire]

/-- The text of a value without a fraction, a list or an object. -/
def sampleText : Json → String
  | .null => "null"
  | .bool value => if value then "true" else "false"
  | .int value => toString value
  | .str value => "\"" ++ value ++ "\""
  | _ => ""

/-- The functions on two messages: a batch of rows, and a question. -/
def sampleJson : JsonModule :=
  let dumps (fields : List (String × Json)) : Bytes :=
    let entries := fields.map fun field => "\"" ++ field.1 ++ "\": " ++ sampleText field.2
    ("\x7b" ++ ", ".intercalate entries ++ "\x7d").toList.map fun char => UInt8.ofNat char.toNat
  let lines : List (String × Json) := [("cmd", .str "lines"), ("bytes", .int 2)]
  let status : List (String × Json) := [("cmd", .str "status")]
  { dumps
    loads := fun line =>
      if line = dumps lines ++ [newline] then .ok (.obj lines)
      else if line = dumps status ++ [newline] then .ok (.obj status)
      else .error (.valueError "Expecting value: line 1 column 1 (char 0)")
    repr := sampleText }

/-- The payload holds a newline and an opening brace. -/
def sampleMessages : List Message :=
  [{ fields := [("cmd", .str "lines")], payload := [10, 123] },
    { fields := [("cmd", .str "status")] }]

/-- The stream comes in two pieces, the first of which ends within the payload. -/
def sampleActions : List Action :=
  let wire := Message.wire sampleJson sampleMessages
  [.fed (wire.take 30), .resumed, .resumed, .fed (wire.drop 30), .ended]

theorem readMessage_inverts_sample :
    ∃ final,
      runs (step sampleJson) {} (sampleActions ++ List.replicate 7 .resumed) = some final ∧
        final.received = sampleMessages.map Message.framed := by
  obtain ⟨reader, ran⟩ : ∃ reader, runs (step sampleJson) {} sampleActions = some reader :=
    Option.isSome_iff_exists.mp (by decide +kernel)
  have whole : fedBytes sampleActions = Message.wire sampleJson sampleMessages := by
    decide +kernel
  have readable : ∀ message ∈ sampleMessages, message.Readable sampleJson := by
    intro message member
    rcases List.mem_pair.mp member with rfl | rfl
    · exact ⟨by decide, by decide, by decide +kernel, by decide +kernel, by rfl⟩
    · exact ⟨by decide, by decide, by decide +kernel, by decide +kernel, by rfl⟩
  obtain ⟨-, -, settles, complete⟩ :=
    readMessage_inverts sampleJson sampleMessages readable ran (by rw [whole])
  obtain ⟨final, ran', -, rested⟩ := settles 7 (by decide)
  exact ⟨final, ran', by rw [rested.received, complete whole]⟩

end MessageReader

end Phomemo
