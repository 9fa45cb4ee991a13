import Phomemo.Async.History
import Phomemo.World

/-!
# Operations of a BLE transport

`BleTransport` as its callers see it: the operations on one transport, one after the other, each
with the calls into bleak it makes.  While a call is awaited the peer may drop the connection, and
other tasks may work on the same transport.
-/

namespace Phomemo

open Async Coroutine

namespace TransportCalls

/-- A call into bleak. -/
inductive BleakCall where
  | connect (address : String)
  | startNotify (uuid : String)
  | writeGattChar (uuid : String) (data : Bytes) (response : Bool)
  | disconnect
  deriving DecidableEq, Repr

/-- What became of the transport while its task was suspended. -/
inductive Meanwhile where
  | quiet
  /-- The peer dropped the connection. -/
  | dropped
  /-- Other tasks left the transport like this. -/
  | others (transport : Transport)

/-- `_on_disconnected`: the connection is marked down. -/
def onDisconnected (transport : Transport) : Transport := { transport with connected := false }

/-- The transport when its task runs again. -/
def Meanwhile.resume : Meanwhile → Transport → Transport
  | quiet, transport => transport
  | dropped, transport => onDisconnected transport
  | others transport, _ => transport

/-- How an awaited call was answered. -/
structure Answer where
  meanwhile : Meanwhile := .quiet
  /-- The call raised a `BleakError` with this text. -/
  bleakError : Option String := none
  /-- The MTU, when the backend could give one. -/
  mtu : Option Int := none

/-- The operations on a transport. -/
inductive Operation where
  | useProfile (profile : PrinterProfile)
  | connect (client : Client) (onEvent onStatus : Bool)
  | write (data : Bytes)
  | writeChunked (data : Bytes) (onChunk : Bool)
  | disconnect
  /-- The caller awaits something else. -/
  | idle

/-- What a run of operations records. -/
inductive Event where
  | called (call : BleakCall)
  | awaited (meanwhile : Meanwhile)
  | failed (call : BleakCall) (text : String)
  /-- An MTU was read. -/
  | mtuRead (mtu : Int)
  /-- The cleanup of `disconnect` ran under this profile. -/
  | cleaned (profile : PrinterProfile)
  /-- `on_chunk` was called. -/
  | reported (sent total : Int)
  /-- An operation ended with this exception, if any, and left the transport like this. -/
  | ended (operation : Operation) (error : Option PyExc) (transport : Transport)

/-- A coroutine on one transport. -/
abbrev Calls (α : Type) : Type := Coroutine PyExc Transport Answer Event α

/-- An await. -/
def awaitAnswer : Calls Answer := do
  let answer ← suspend
  modify answer.meanwhile.resume
  emit (.awaited answer.meanwhile)
  return answer

/-- Await a call into bleak; the text of its `BleakError`, if it fails. -/
def call (bleakCall : BleakCall) : Calls (Option String) := do
  emit (.called bleakCall)
  let answer ← awaitAnswer
  match answer.bleakError with
  | some text =>
      emit (.failed bleakCall text)
      return some text
  | none => return none

/-- `Printer.use_profile` and the transport's, which it calls. -/
def useProfile (profile : PrinterProfile) : Calls Unit := do
  let transport ← read
  if transport.isConnected ∧ profile.bleSettings ≠ transport.profile.bleSettings then
    let new := profile.name
    let current := transport.profile.name
    raise (.valueError
      s!"profile '{new}' has other BLE parameters than '{current}'; reconnect to use it")
  else
    modify fun transport => { transport with profile := profile }

/-- What the `finally` of `disconnect` leaves. -/
def hangUp (transport : Transport) : Transport :=
  { transport with
    client := none
    connected := false
    effectiveChunkBytes := transport.profile.maxChunkBytes }

/-- Disconnect from the printer; safe when not connected. -/
def disconnect : Calls Unit := do
  let transport ← read
  if transport.client.isSome then
    -- Cleared first so the disconnect callback stays silent.
    modify onDisconnected
    let failure ← call .disconnect
    let transport ← read
    modify hangUp
    emit (.cleaned transport.profile)
    match failure with
    | some text => raise (.bleakError text)
    | none => pure ()

/-- Read the MTU where the backend gives one and derive the chunk size. -/
def negotiate : Calls Unit := do
  let transport ← read
  -- A client another task has cleared meanwhile has no backend to ask.
  if transport.profile.negotiateMtu ∧ transport.client.isSome then
    let answer ← awaitAnswer
    match answer.mtu with
    | some mtu =>
        emit (.mtuRead mtu)
        if 3 < mtu then
          modify fun transport => { transport with effectiveChunkBytes := mtu - 3 }
    | none => pure ()

/-- `self._client.start_notify` on a channel of the profile that a callback listens to. -/
def startNotify (listened : Bool) (channel : PrinterProfile → String) : Calls (Option String) := do
  if listened then
    let transport ← read
    if transport.client.isSome then
      call (.startNotify (channel transport.profile))
    else
      raise (.attributeError "'NoneType' object has no attribute 'start_notify'")
  else
    return none

/-- Subscribe to the channels, up to the first failure. -/
def subscribe (onEvent onStatus : Bool) : Calls (Option String) := do
  match ← startNotify onEvent PrinterProfile.notifyUuid with
  | some text => return some text
  | none => startNotify onStatus PrinterProfile.statusUuid

/-- Establish a connection with the client made for a device; it keeps the text of the device. -/
def connect (client : Client) (onEvent onStatus : Bool) : Calls Unit := do
  let transport ← read
  if transport.isConnected then
    raise (.runtimeError "Already connected")
  else
    let address := client.address
    modify fun transport => { transport with client := some client }
    match ← call (.connect address) with
    | some text =>
        modify fun transport => { transport with client := none }
        raise (.connectionError s!"Failed to connect to {address}: {text}")
    | none =>
        modify fun transport => { transport with connected := true }
        negotiate
        match ← subscribe onEvent onStatus with
        | some text =>
            disconnect
            raise (.connectionError
              s!"Connected to {address} but failed to subscribe to notifications: {text}")
        | none => pure ()

/-- Write raw bytes to the command channel. -/
def write (data : Bytes) : Calls Unit := do
  let transport ← read
  if transport.client.isNone then
    raise (.runtimeError "Not connected")
  else if !transport.connected then
    raise (.connectionError "Printer connection lost")
  else if transport.effectiveChunkBytes < data.length then
    let size := data.length
    let maxSize := transport.effectiveChunkBytes
    raise (.valueError s!"Write size {size} exceeds max {maxSize} bytes")
  else
    let profile := transport.profile
    match ← call (.writeGattChar profile.writeUuid data profile.writeWithResponse) with
    | some text =>
        modify onDisconnected
        raise (.connectionError s!"BLE write failed: {text}")
    | none => pure ()

/-- A place in a sequence, counted from its end when negative. -/
def sliceIndex (length : Nat) (i : Int) : Nat :=
  if i < 0 then (length + i).toNat else min i.toNat length

/-- `data[start : stop]`. -/
def sliceBetween (data : Bytes) (start stop : Int) : Bytes :=
  (data.take (sliceIndex data.length stop)).drop (sliceIndex data.length start)

/-- Write data in chunks, with the profile's pause between them; a failing `on_chunk` is logged
and ignored. -/
def writeChunked (data : Bytes) (onChunk : Bool) : Calls Unit := do
  let transport ← read
  let maxSize := transport.effectiveChunkBytes
  let delay := transport.profile.chunkDelayS
  if maxSize = 0 then
    raise (.zeroDivisionError "integer division or modulo by zero")
  else
    let total := (data.length + maxSize - 1).fdiv maxSize
    forEach (List.range total.toNat) fun i => do
      write (sliceBetween data (i * maxSize) (i * maxSize + maxSize))
      if 0 < delay ∧ i < total - 1 then
        let _ ← awaitAnswer
      if onChunk then
        emit (.reported (i + 1) total)

/-- One operation. -/
def perform : Operation → Calls Unit
  | .useProfile profile => useProfile profile
  | .connect client onEvent onStatus => connect client onEvent onStatus
  | .write data => write data
  | .writeChunked data onChunk => writeChunked data onChunk
  | .disconnect => disconnect
  | .idle => do
      let _ ← awaitAnswer

/-- One operation whose caller carries on after an exception. -/
def attempt (operation : Operation) : Calls Unit :=
  handle
    (do
      perform operation
      let transport ← read
      emit (.ended operation none transport))
    fun error => do
      let transport ← read
      emit (.ended operation (some error) transport)

/-- A run of operations. -/
def performAll (operations : List Operation) : Calls Unit :=
  forEach operations attempt

/-! ## What a run tells -/

/-- Whether an operation ends here. -/
def Event.ends : Event → Bool
  | .ended _ _ _ => true
  | _ => false

/-- The calls that failed, after one more event: those of the operation that has not ended. -/
def Event.failures (calls : List BleakCall) : Event → List BleakCall
  | .failed call _ => calls ++ [call]
  | .ended _ _ _ => []
  | _ => calls

/-- The calls of the current operation that failed. -/
def failures (past : List Event) : List BleakCall := past.foldl Event.failures []

@[simp]
theorem failures_concat (past : List Event) (event : Event) :
    failures (past ++ [event]) = event.failures (failures past) := by
  simp [failures]

/-- A connect from here gets as far as its client. -/
def Accepts (transport : Transport) : Prop :=
  ∀ client onEvent onStatus script,
    (connect client onEvent onStatus transport script).trace.head? =
      some (.called (.connect client.address))

/-- Only a live connection is in the way of a connect. -/
theorem accepts_of_down {transport : Transport} (down : transport.isConnected = false) :
    Accepts transport := by
  intro client onEvent onStatus script
  let first := fun past : List Event => past.head? = some (.called (.connect client.address))
  have kept : ∀ {past : List Event}, first past → ∀ later, first (past ++ later) := by
    intro past holds later
    simp [first, holds, List.head?_append]
  have ensures : Ensures (fun _ => True) (connect client onEvent onStatus)
      ⟨fun _ _ => first, fun _ _ => first, fun _ => first⟩ transport [] := by
    apply Ensures.read_bind
    rw [if_neg (by simp [down])]
    apply Ensures.modify_bind
    apply Ensures.bind
    apply Ensures.emit_bind
    intro _
    apply (@Ensures.of_past _ _ _ _ _ _ _ _ _ first (kept rfl)).mono
    · exact fun _ _ _ holds => Ensures.of_past (kept holds)
    · exact fun _ _ _ => id
    · exact fun _ _ => id
  exact ensures.always fun _ _ => trivial

/-- An operation that ended raised no `BleakError`; if a call of it failed, it raised a
`ConnectionError`, the transport is down and a following connect is accepted. -/
def Surfaced (past : List Event) : Event → Prop
  | .ended _ error transport =>
      (∀ text, error ≠ some (.bleakError text)) ∧
        (failures past ≠ [] →
          (∃ text, error = some (.connectionError text)) ∧ transport.isConnected = false ∧
            Accepts transport)
  | _ => True

/-- No disconnect of a client failed in an operation that ended. -/
def ClientsLeft (past : List Event) : Event → Prop
  | .ended _ _ _ => BleakCall.disconnect ∉ failures past
  | _ => True

/-- How an operation may end by an exception, judged by the calls that failed in it. -/
def Raises (calls : List BleakCall) (error : PyExc) (transport : Transport) : Prop :=
  calls = [] ∧ (∀ text, error ≠ .bleakError text) ∨
    calls ≠ [] ∧ transport.isConnected = false ∧
      ((∃ text, error = .connectionError text) ∧ BleakCall.disconnect ∉ calls ∨
        (∃ text, error = .bleakError text) ∧ BleakCall.disconnect ∈ calls)

/-! ## The calls into bleak -/

variable {rely : Event → Prop} {transport : Transport} {past : List Event}

theorem ensures_awaitAnswer {post : Post PyExc Transport Event Answer}
    (waits : post.waiting transport past)
    (answers : ∀ answer : Answer, rely (.awaited answer.meanwhile) →
      post.returned answer (answer.meanwhile.resume transport)
        (past ++ [.awaited answer.meanwhile])) :
    Ensures rely awaitAnswer post transport past := by
  apply Ensures.bind
  refine Ensures.suspend (by exact waits) ?_
  intro answer
  apply Ensures.modify_bind
  apply Ensures.emit_bind
  intro relied
  exact Ensures.pure (answers answer relied)

theorem ensures_call {bleakCall : BleakCall} {post : Post PyExc Transport Event (Option String)}
    (waits : post.waiting transport (past ++ [.called bleakCall]))
    (succeeded : ∀ meanwhile : Meanwhile, rely (.awaited meanwhile) →
      post.returned none (meanwhile.resume transport)
        (past ++ [.called bleakCall] ++ [.awaited meanwhile]))
    (failed : ∀ (meanwhile : Meanwhile) text, rely (.awaited meanwhile) →
      post.returned (some text) (meanwhile.resume transport)
        (past ++ [.called bleakCall] ++ [.awaited meanwhile] ++ [.failed bleakCall text])) :
    Ensures rely (call bleakCall) post transport past := by
  apply Ensures.emit_bind
  intro _
  apply Ensures.bind
  apply ensures_awaitAnswer waits
  intro answer relied
  dsimp only
  split
  · rename_i text _
    apply Ensures.emit_bind
    intro _
    exact Ensures.pure (failed answer.meanwhile text relied)
  · exact Ensures.pure (succeeded answer.meanwhile relied)

/-! ## Failed calls -/

/-- What is claimed of an event holds exactly when no disconnect of a client failed. -/
def Told (past : List Event) (event : Event) : Prop := Surfaced past event ↔ ClientsLeft past event

/-- Nothing is claimed of an event inside an operation. -/
theorem told_inside (throughout : Throughout Told past) {event : Event}
    (inside : event.ends = false) : Throughout Told (past ++ [event]) := by
  apply throughout.concat
  cases event with
  | ended operation error transport => exact absurd inside (by simp [Event.ends])
  | _ => exact Iff.rfl

/-- No call fails in an event that is neither a failure nor an end. -/
theorem unfailed_inside (unfailed : failures past = []) {event : Event}
    (inside : event.failures [] = []) : failures (past ++ [event]) = [] := by
  rw [failures_concat, unfailed, inside]

/-- A call that fails is the one that failed. -/
theorem failures_call (unfailed : failures past = []) (bleakCall : BleakCall)
    (meanwhile : Meanwhile) (text : String) :
    failures (past ++ [.called bleakCall] ++ [.awaited meanwhile] ++ [.failed bleakCall text]) =
      [bleakCall] := by
  rw [failures_concat, unfailed_inside (unfailed_inside unfailed rfl) rfl]
  rfl

/-- Calls that failed, as an operation leaves them. -/
def failurePost : Post PyExc Transport Event Unit where
  returned := fun _ _ past => Throughout Told past ∧ failures past = []
  raised := fun error transport past =>
    Throughout Told past ∧ Raises (failures past) error transport
  waiting := fun _ past => Throughout Told past

/-- Where no call has failed, an exception of another kind may be raised. -/
theorem ensures_refuse {α : Type} {post : Post PyExc Transport Event α} {error : PyExc}
    (raised : ∀ error transport past, failurePost.raised error transport past →
      post.raised error transport past)
    (throughout : Throughout Told past) (unfailed : failures past = [])
    (other : ∀ text, error ≠ .bleakError text) :
    Ensures rely (raise error : Calls α) post transport past := by
  apply Ensures.raise
  apply raised
  exact ⟨throughout, .inl ⟨unfailed, other⟩⟩

/-- A disconnect leaves the transport down; only the client's own failure reaches the caller. -/
theorem ensures_disconnect (throughout : Throughout Told past) :
    Ensures rely disconnect
      ⟨fun _ transport later => Throughout Told later ∧ failures later = failures past ∧
          transport.isConnected = false,
        fun error transport later => Throughout Told later ∧
          failures later = failures past ++ [.disconnect] ∧ transport.isConnected = false ∧
          ∃ text, error = .bleakError text,
        fun _ later => Throughout Told later⟩ transport past := by
  apply Ensures.read_bind
  split
  · apply Ensures.modify_bind
    apply Ensures.bind
    apply ensures_call
    · exact told_inside throughout rfl
    · intro meanwhile _
      apply Ensures.read_bind
      apply Ensures.modify_bind
      apply Ensures.emit_bind
      intro _
      apply Ensures.pure
      refine ⟨?_, by simp only [failures_concat, Event.failures], rfl⟩
      exact told_inside (told_inside (told_inside throughout rfl) rfl) rfl
    · intro meanwhile text _
      apply Ensures.read_bind
      apply Ensures.modify_bind
      apply Ensures.emit_bind
      intro _
      apply Ensures.raise
      refine ⟨?_, by simp only [failures_concat, Event.failures], rfl, text, rfl⟩
      exact told_inside (told_inside (told_inside (told_inside throughout rfl) rfl) rfl) rfl
  · rename_i gone
    apply Ensures.pure
    exact ⟨throughout, rfl, by simp [Transport.isConnected, gone]⟩

/-- An MTU query fails silently. -/
theorem ensures_negotiate (throughout : Throughout Told past) (unfailed : failures past = []) :
    Ensures rely negotiate failurePost transport past := by
  apply Ensures.read_bind
  split
  · apply Ensures.bind
    apply ensures_awaitAnswer throughout
    intro answer _
    dsimp only
    have awaited : Throughout Told (past ++ [.awaited answer.meanwhile]) :=
      told_inside throughout rfl
    split
    · apply Ensures.emit_bind
      intro _
      have read : ∀ mtu, Throughout Told (past ++ [.awaited answer.meanwhile] ++ [.mtuRead mtu]) :=
        fun mtu => told_inside awaited rfl
      split
      · exact Ensures.modify ⟨read _, unfailed_inside (unfailed_inside unfailed rfl) rfl⟩
      · exact Ensures.pure ⟨read _, unfailed_inside (unfailed_inside unfailed rfl) rfl⟩
    · exact Ensures.pure ⟨awaited, unfailed_inside unfailed rfl⟩
  · exact Ensures.pure ⟨throughout, unfailed⟩

/-- What a subscription leaves: the call that failed, if one did. -/
def subscribePost : Post PyExc Transport Event (Option String) where
  returned := fun failure _ past => Throughout Told past ∧
    match failure with
    | none => failures past = []
    | some _ => ∃ uuid, failures past = [.startNotify uuid]
  raised := failurePost.raised
  waiting := failurePost.waiting

theorem ensures_startNotify {listened : Bool} {channel : PrinterProfile → String}
    (throughout : Throughout Told past) (unfailed : failures past = []) :
    Ensures rely (startNotify listened channel) subscribePost transport past := by
  unfold startNotify
  split
  · apply Ensures.read_bind
    split
    · apply ensures_call
      · exact told_inside throughout rfl
      · intro meanwhile _
        exact ⟨told_inside (told_inside throughout rfl) rfl,
          unfailed_inside (unfailed_inside unfailed rfl) rfl⟩
      · intro meanwhile text _
        exact ⟨told_inside (told_inside (told_inside throughout rfl) rfl) rfl,
          channel transport.profile, failures_call unfailed _ meanwhile text⟩
    · exact ensures_refuse (fun _ _ _ => id) throughout unfailed (by simp)
  · exact Ensures.pure ⟨throughout, unfailed⟩

theorem ensures_subscribe {onEvent onStatus : Bool} (throughout : Throughout Told past)
    (unfailed : failures past = []) :
    Ensures rely (subscribe onEvent onStatus) subscribePost transport past := by
  apply Ensures.seq (ensures_startNotify throughout unfailed)
  · rintro (_ | text) resumed later ⟨throughout, failure⟩
    · exact ensures_startNotify throughout failure
    · exact Ensures.pure ⟨throughout, failure⟩
  · exact fun _ _ _ => id
  · exact fun _ _ => id

theorem ensures_connect {client : Client} {onEvent onStatus : Bool}
    (throughout : Throughout Told past) (unfailed : failures past = []) :
    Ensures rely (connect client onEvent onStatus) failurePost transport past := by
  apply Ensures.read_bind
  split
  · exact ensures_refuse (fun _ _ _ => id) throughout unfailed (by simp)
  · apply Ensures.modify_bind
    apply Ensures.bind
    apply ensures_call
    · exact told_inside throughout rfl
    · intro meanwhile _
      apply Ensures.modify_bind
      have connected : Throughout Told
          (past ++ [.called (.connect client.address)] ++ [.awaited meanwhile]) :=
        told_inside (told_inside throughout rfl) rfl
      apply Ensures.seq (ensures_negotiate connected
        (unfailed_inside (unfailed_inside unfailed rfl) rfl))
      · rintro _ resumed later ⟨throughout, unfailed⟩
        apply Ensures.seq (ensures_subscribe throughout unfailed)
        · rintro (_ | text) resumed later ⟨throughout, failure⟩
          · exact Ensures.pure ⟨throughout, failure⟩
          · obtain ⟨uuid, failure⟩ := failure
            apply Ensures.seq (ensures_disconnect throughout)
            · rintro _ resumed later ⟨throughout, same, down⟩
              apply Ensures.raise
              refine ⟨throughout, .inr ⟨?_, down, .inl ⟨⟨_, rfl⟩, ?_⟩⟩⟩ <;> simp [same, failure]
            · rintro error resumed later ⟨throughout, more, down, text, rfl⟩
              refine ⟨throughout, .inr ⟨?_, down, .inr ⟨⟨_, rfl⟩, ?_⟩⟩⟩ <;> simp [more, failure]
            · exact fun _ _ => id
        · exact fun _ _ _ => id
        · exact fun _ _ => id
      · exact fun _ _ _ => id
      · exact fun _ _ => id
    · intro meanwhile text _
      apply Ensures.modify_bind
      apply Ensures.raise
      refine ⟨told_inside (told_inside (told_inside throughout rfl) rfl) rfl,
        .inr ⟨?_, ?_, .inl ?_⟩⟩
      · rw [failures_call unfailed]
        exact List.cons_ne_nil _ _
      · simp [Transport.isConnected]
      · refine ⟨⟨_, rfl⟩, ?_⟩
        rw [failures_call unfailed]
        simp

theorem ensures_write {data : Bytes} (throughout : Throughout Told past)
    (unfailed : failures past = []) :
    Ensures rely (write data) failurePost transport past := by
  apply Ensures.read_bind
  split
  · exact ensures_refuse (fun _ _ _ => id) throughout unfailed (by simp)
  split
  · exact ensures_refuse (fun _ _ _ => id) throughout unfailed (by simp)
  split
  · exact ensures_refuse (fun _ _ _ => id) throughout unfailed (by simp)
  apply Ensures.bind
  apply ensures_call
  · exact told_inside throughout rfl
  · intro meanwhile _
    apply Ensures.pure
    exact ⟨told_inside (told_inside throughout rfl) rfl,
      unfailed_inside (unfailed_inside unfailed rfl) rfl⟩
  · intro meanwhile text _
    apply Ensures.modify_bind
    apply Ensures.raise
    refine ⟨told_inside (told_inside (told_inside throughout rfl) rfl) rfl, .inr ⟨?_, ?_, .inl ?_⟩⟩
    · rw [failures_call unfailed]
      exact List.cons_ne_nil _ _
    · simp [Transport.isConnected, onDisconnected]
    · refine ⟨⟨_, rfl⟩, ?_⟩
      rw [failures_call unfailed]
      simp

theorem ensures_writeChunked {data : Bytes} {onChunk : Bool} (throughout : Throughout Told past)
    (unfailed : failures past = []) :
    Ensures rely (writeChunked data onChunk) failurePost transport past := by
  apply Ensures.read_bind
  dsimp only
  split
  · exact ensures_refuse (fun _ _ _ => id) throughout unfailed (by simp)
  apply Ensures.forEach (fun _ past => Throughout Told past ∧ failures past = [])
  · exact fun _ _ holds => holds
  · rintro i resumed past ⟨throughout, unfailed⟩
    apply Ensures.seq (ensures_write throughout unfailed)
    · rintro _ resumed past ⟨throughout, unfailed⟩
      have reported : ∀ {past resumed} total, Throughout Told past → failures past = [] →
          Ensures rely (if onChunk then emit (.reported (i + 1) total) else pure () : Calls Unit)
            failurePost resumed past := by
        intro past resumed total throughout unfailed
        split
        · apply Ensures.emit
          intro _
          exact ⟨told_inside throughout rfl, unfailed_inside unfailed rfl⟩
        · exact Ensures.pure ⟨throughout, unfailed⟩
      split
      · apply Ensures.bind
        apply ensures_awaitAnswer throughout
        intro answer _
        exact reported _ (told_inside throughout rfl) (unfailed_inside unfailed rfl)
      · exact reported _ throughout unfailed
    · exact fun _ _ _ => id
    · exact fun _ _ => id
  · exact ⟨throughout, unfailed⟩

theorem ensures_perform (operation : Operation) (throughout : Throughout Told past)
    (unfailed : failures past = []) :
    Ensures rely (perform operation) failurePost transport past := by
  cases operation with
  | useProfile profile =>
      apply Ensures.read_bind
      split
      · exact ensures_refuse (fun _ _ _ => id) throughout unfailed (by simp)
      · exact Ensures.modify ⟨throughout, unfailed⟩
  | connect client onEvent onStatus => exact ensures_connect throughout unfailed
  | write data => exact ensures_write throughout unfailed
  | writeChunked data onChunk => exact ensures_writeChunked throughout unfailed
  | disconnect =>
      apply (ensures_disconnect throughout).mono
      · rintro _ resumed later ⟨throughout, same, -⟩
        exact ⟨throughout, same.trans unfailed⟩
      · rintro error resumed later ⟨throughout, more, down, text, rfl⟩
        refine ⟨throughout, .inr ⟨?_, down, .inr ⟨⟨text, rfl⟩, ?_⟩⟩⟩ <;> simp [more]
      · exact fun _ _ => id
  | idle =>
      apply Ensures.bind
      apply ensures_awaitAnswer throughout
      intro answer _
      apply Ensures.pure
      exact ⟨told_inside throughout rfl, unfailed_inside unfailed rfl⟩

/-- An operation that returned had no failed call. -/
theorem told_returned (unfailed : failures past = []) (operation : Operation) :
    Told past (.ended operation none transport) := by
  simp [Told, Surfaced, ClientsLeft, unfailed]

/-- An operation that raised. -/
theorem told_raised {error : PyExc} (raises : Raises (failures past) error transport)
    (operation : Operation) : Told past (.ended operation (some error) transport) := by
  rcases raises with ⟨unfailed, other⟩ | ⟨failed, down, ⟨⟨text, rfl⟩, left⟩ | ⟨⟨text, rfl⟩, stuck⟩⟩
  · simp [Told, Surfaced, ClientsLeft, unfailed, other]
  · apply iff_of_true _ left
    refine ⟨by simp, fun _ => ⟨⟨text, rfl⟩, down, accepts_of_down down⟩⟩
  · apply iff_of_false
    · exact fun surfaced => surfaced.1 text rfl
    · exact fun left => left stuck

theorem ensures_performAll (operations : List Operation) (start : Transport) :
    Ensures rely (performAll operations)
      ⟨fun _ _ => Throughout Told, fun _ _ => Throughout Told, fun _ => Throughout Told⟩
      start [] := by
  apply Ensures.forEach (fun _ past => Throughout Told past ∧ failures past = [])
  · exact fun _ _ holds => holds.1
  · rintro operation transport past ⟨throughout, unfailed⟩
    apply Ensures.handle
    apply Ensures.seq (ensures_perform operation throughout unfailed)
    · rintro _ ended later ⟨throughout, unfailed⟩
      apply Ensures.read_bind
      apply Ensures.emit
      intro _
      exact ⟨throughout.concat (told_returned unfailed operation), by simp [Event.failures]⟩
    · rintro error ended later ⟨throughout, raises⟩
      apply Ensures.read_bind
      apply Ensures.emit
      intro _
      exact ⟨throughout.concat (told_raised raises operation), by simp [Event.failures]⟩
    · exact fun _ _ => id
  · exact ⟨throughout_nil, rfl⟩

/-- Whatever fails in whatever operations, the callers see a `ConnectionError`, a transport that is
down and one that takes a new connect, exactly when no disconnect of a client fails. -/
theorem failures_surface_iff (operations : List Operation) (transport : Transport)
    (script : List Answer) :
    Throughout Surfaced (performAll operations transport script).trace ↔
      Throughout ClientsLeft (performAll operations transport script).trace := by
  have told : Throughout Told (performAll operations transport script).trace :=
    @Ensures.always _ _ _ _ _ (fun _ => True) _ _ _ (ensures_performAll operations transport) script
      fun _ _ => trivial
  exact told.congr

/-- The subscription fails and so does the disconnect that follows. -/
theorem failed_subscription_escapes :
    ¬Throughout Surfaced
      (performAll [.connect ⟨0, "S"⟩ true false] (Transport.new strip)
        [{}, {}, { bleakError := some "GATT Protocol Error" },
          { bleakError := some "Not connected" }]).trace := by
  intro throughout
  have last := throughout
    [.called (.connect "S"), .awaited .quiet, .awaited .quiet,
      .called (.startNotify strip.notifyUuid), .awaited .quiet,
      .failed (.startNotify strip.notifyUuid) "GATT Protocol Error", .called .disconnect,
      .awaited .quiet, .failed .disconnect "Not connected", .cleaned strip]
    (.ended (.connect ⟨0, "S"⟩ true false) (some (.bleakError "Not connected"))
      (hangUp (Transport.new strip))) [] rfl
  exact last.1 "Not connected" rfl

/-! ## The chunk size -/

/-- What a chunk size was taken from. -/
inductive Sizer where
  /-- The profile of a construction or of a disconnect's cleanup. -/
  | profile (profile : PrinterProfile)
  /-- A negotiation. -/
  | mtu (mtu : Int)

/-- The size it gives. -/
def Sizer.size : Sizer → Int
  | .profile named => named.maxChunkBytes
  | .mtu known => known - 3

/-- What sizes the chunks after one more event: an MTU above 3, or a disconnect's cleanup. -/
def Event.sizer (sizer : Sizer) : Event → Sizer
  | .mtuRead mtu => if 3 < mtu then .mtu mtu else sizer
  | .cleaned profile => .profile profile
  | _ => sizer

/-- What was the last to size the chunks of a transport built for a profile. -/
def lastSizer (built : PrinterProfile) (past : List Event) : Sizer :=
  past.foldl Event.sizer (.profile built)

@[simp]
theorem lastSizer_concat (built : PrinterProfile) (past : List Event) (event : Event) :
    lastSizer built (past ++ [event]) = event.sizer (lastSizer built past) := by
  simp [lastSizer]

/-- The MTU of the connection, after one more event. -/
def Event.connectionMtu (mtu : Option Int) : Event → Option Int
  | .called (.connect _) => none
  | .mtuRead mtu => some mtu
  | _ => mtu

/-- The MTU read on the connection that was begun last. -/
def connectionMtu (past : List Event) : Option Int := past.foldl Event.connectionMtu none

@[simp]
theorem connectionMtu_concat (past : List Event) (event : Event) :
    connectionMtu (past ++ [event]) = event.connectionMtu (connectionMtu past) := by
  simp [connectionMtu]

/-- The chunk size of a connection under a profile, given the MTU that was read. -/
def expectedChunkBytes (profile : PrinterProfile) : Option Int → Int
  | some mtu => if profile.negotiateMtu ∧ 3 < mtu then mtu - 3 else profile.maxChunkBytes
  | none => profile.maxChunkBytes

/-- After a successful connect the chunk size is that of the connection. -/
def ChunkCurrent (past : List Event) : Event → Prop
  | .ended (.connect _ _ _) none transport =>
      transport.effectiveChunkBytes = expectedChunkBytes transport.profile (connectionMtu past)
  | _ => True

/-- Whether an event sizes the chunks: an MTU above 3 is read, or a disconnect cleans up. -/
def Event.Sizes : Event → Prop
  | .mtuRead mtu => 3 < mtu
  | .cleaned _ => True
  | _ => False

/-- What was the last to size the chunks of a transport gave them this size. -/
inductive SizedLast (built : PrinterProfile) (past : List Event) (size : Int) : Prop where
  | construction (since : ∀ event ∈ past, ¬event.Sizes) (given : built.maxChunkBytes = size)
  | cleanup (before later : List Event) (profile : PrinterProfile)
      (split : past = before ++ .cleaned profile :: later) (since : ∀ event ∈ later, ¬event.Sizes)
      (given : profile.maxChunkBytes = size)
  | negotiation (before later : List Event) (mtu : Int)
      (split : past = before ++ .mtuRead mtu :: later) (usable : 3 < mtu)
      (since : ∀ event ∈ later, ¬event.Sizes) (given : mtu - 3 = size)

/-- A successful connect read an MTU above 3, or what was the last to size the chunks gave them
the size of the current profile. -/
def ChunkRenewed (built : PrinterProfile) (past : List Event) : Event → Prop
  | .ended (.connect _ _ _) none transport =>
      (∃ mtu ∈ connectionMtu past, 3 < mtu) ∨
        SizedLast built past transport.profile.maxChunkBytes
  | _ => True

/-- Events that size nothing leave the last sizer. -/
theorem foldl_sizer {later : List Event} (since : ∀ event ∈ later, ¬event.Sizes)
    (sizer : Sizer) : later.foldl Event.sizer sizer = sizer := by
  induction later with
  | nil => rfl
  | cons event later ih =>
      have kept : event.sizer sizer = sizer := by
        have sizes := since event List.mem_cons_self
        cases event with
        | mtuRead mtu => exact if_neg sizes
        | cleaned profile => exact absurd trivial sizes
        | _ => rfl
      rw [List.foldl_cons, kept]
      exact ih fun other member => since other (List.mem_cons_of_mem _ member)

theorem SizedLast.concat {built : PrinterProfile} {past : List Event} {size : Int} {event : Event}
    (sized : SizedLast built past size) (silent : ¬event.Sizes) :
    SizedLast built (past ++ [event]) size := by
  have still : ∀ later : List Event, (∀ other ∈ later, ¬other.Sizes) →
      ∀ other ∈ later ++ [event], ¬other.Sizes := by
    intro later since other member
    rcases List.mem_append.mp member with earlier | last
    · exact since other earlier
    · rwa [List.mem_singleton.mp last]
  cases sized with
  | construction since given => exact .construction (still past since) given
  | cleanup before later profile split since given =>
      exact .cleanup before (later ++ [event]) profile (by simp [split]) (still later since) given
  | negotiation before later mtu split usable since given =>
      exact .negotiation before (later ++ [event]) mtu (by simp [split]) usable (still later since)
        given

theorem sizedLast_lastSizer (built : PrinterProfile) (past : List Event) :
    SizedLast built past (lastSizer built past).size := by
  induction past using List.reverseRecOn with
  | nil => exact .construction (fun _ member => absurd member List.not_mem_nil) rfl
  | append_singleton past event ih =>
      rw [lastSizer_concat]
      cases event with
      | mtuRead mtu =>
          by_cases usable : 3 < mtu
          · rw [Event.sizer, if_pos usable]
            exact .negotiation past [] mtu rfl usable
              (fun _ member => absurd member List.not_mem_nil) rfl
          · rw [Event.sizer, if_neg usable]
            exact ih.concat usable
      | cleaned profile =>
          exact .cleanup past [] profile rfl (fun _ member => absurd member List.not_mem_nil) rfl
      | _ => exact ih.concat id

/-- The last sizer is the last of these events. -/
theorem sizedLast_iff {built : PrinterProfile} {past : List Event} {size : Int} :
    SizedLast built past size ↔ (lastSizer built past).size = size := by
  constructor
  · rintro (⟨since, rfl⟩ | ⟨before, later, profile, rfl, since, rfl⟩ |
      ⟨before, later, mtu, rfl, usable, since, rfl⟩)
    · rw [lastSizer, foldl_sizer since]
      rfl
    · rw [lastSizer, List.foldl_append, List.foldl_cons, foldl_sizer since]
      rfl
    · rw [lastSizer, List.foldl_append, List.foldl_cons, foldl_sizer since, Event.sizer,
        if_pos usable]
      rfl
  · rintro rfl
    exact sizedLast_lastSizer built past

/-- No other task works on the transport. -/
def Alone : Event → Prop
  | .awaited (.others _) => False
  | _ => True

variable {built : PrinterProfile}

/-- An await alone keeps the profile and the chunk size. -/
theorem resume_alone {meanwhile : Meanwhile} (alone : Alone (.awaited meanwhile)) :
    (meanwhile.resume transport).profile = transport.profile ∧
      (meanwhile.resume transport).effectiveChunkBytes = transport.effectiveChunkBytes := by
  cases meanwhile with
  | quiet => exact ⟨rfl, rfl⟩
  | dropped => exact ⟨rfl, rfl⟩
  | others other => exact alone.elim

/-- The chunk size after a connect is that of the connection exactly when the connection or the
current profile gave it. -/
def Judged (built : PrinterProfile) (past : List Event) (event : Event) : Prop :=
  ChunkCurrent past event ↔ ChunkRenewed built past event

/-- Nothing is claimed of an event inside an operation. -/
theorem judged_inside (judged : Throughout (Judged built) past) {event : Event}
    (inside : event.ends = false) : Throughout (Judged built) (past ++ [event]) := by
  apply judged.concat
  cases event with
  | ended operation error transport => exact absurd inside (by simp [Event.ends])
  | _ => exact Iff.rfl

/-- The chunk size is the one its last sizer gave, and what is claimed of the operations so far
holds. -/
structure Sized (built : PrinterProfile) (transport : Transport) (past : List Event) : Prop where
  chunk : transport.effectiveChunkBytes = (lastSizer built past).size
  judged : Throughout (Judged built) past

/-- The chunk size is that of the current connection, and what was read of it counts. -/
def Negotiated (built : PrinterProfile) (transport : Transport) (past : List Event) : Prop :=
  Sized built transport past ∧ ∀ mtu ∈ connectionMtu past, 3 < mtu →
    transport.profile.negotiateMtu = true ∧ transport.effectiveChunkBytes = mtu - 3

/-- An invariant that calls on the current connection keep. -/
structure CallStable (inv : Transport → List Event → Prop) : Prop where
  called : ∀ transport past call, (∀ address, call ≠ .connect address) → inv transport past →
    inv transport (past ++ [.called call])
  awaited : ∀ transport past meanwhile, Alone (.awaited meanwhile) → inv transport past →
    inv (meanwhile.resume transport) (past ++ [.awaited meanwhile])
  failed : ∀ transport past call text, inv transport past →
    inv transport (past ++ [.failed call text])

theorem sized_stable : CallStable (Sized built) where
  called := fun _ _ _ _ sized =>
    ⟨by simpa [Event.sizer] using sized.chunk, judged_inside sized.judged rfl⟩
  awaited := fun _ _ _ alone sized =>
    ⟨by simpa [Event.sizer, (resume_alone alone).2] using sized.chunk,
      judged_inside sized.judged rfl⟩
  failed := fun _ _ _ _ sized =>
    ⟨by simpa [Event.sizer] using sized.chunk, judged_inside sized.judged rfl⟩

theorem negotiated_stable : CallStable (Negotiated built) where
  called := by
    rintro transport past call other ⟨sized, linked⟩
    refine ⟨sized_stable.called transport past call other sized, ?_⟩
    have same : connectionMtu (past ++ [.called call]) = connectionMtu past := by
      rw [connectionMtu_concat]
      cases call with
      | connect address => exact absurd rfl (other address)
      | _ => rfl
    rw [same]
    exact linked
  awaited := by
    rintro transport past meanwhile alone ⟨sized, linked⟩
    refine ⟨sized_stable.awaited transport past meanwhile alone sized, ?_⟩
    rw [connectionMtu_concat, (resume_alone alone).1, (resume_alone alone).2]
    exact linked
  failed := by
    rintro transport past call text ⟨sized, linked⟩
    refine ⟨sized_stable.failed transport past call text sized, ?_⟩
    rw [connectionMtu_concat]
    exact linked

/-- The invariant is kept, whatever the coroutine ends with. -/
abbrev Preserves {α : Type} (inv : Transport → List Event → Prop) (program : Calls α) : Prop :=
  Upholds Alone inv (fun _ => True) program

namespace CallStable

variable {inv : Transport → List Event → Prop}

theorem awaitAnswer (stable : CallStable inv) : Preserves inv awaitAnswer :=
  fun transport past holds => ensures_awaitAnswer holds fun answer alone =>
    stable.awaited transport past answer.meanwhile alone holds

theorem call (stable : CallStable inv) {bleakCall : BleakCall}
    (other : ∀ address, bleakCall ≠ .connect address) : Preserves inv (call bleakCall) := by
  intro transport past holds
  have called := stable.called transport past bleakCall other holds
  apply ensures_call called
  · exact fun meanwhile alone => stable.awaited transport _ meanwhile alone called
  · exact fun meanwhile text alone =>
      stable.failed _ _ _ text (stable.awaited transport _ meanwhile alone called)

theorem startNotify (stable : CallStable inv) {listened : Bool}
    {channel : PrinterProfile → String} : Preserves inv (startNotify listened channel) := by
  apply Upholds.ite
  · intro _
    apply Upholds.bind Upholds.read
    intro _
    apply Upholds.ite
    · exact fun _ => stable.call (by simp)
    · exact fun _ => Upholds.raise trivial
  · exact fun _ => Upholds.pure none

theorem subscribe (stable : CallStable inv) {onEvent onStatus : Bool} :
    Preserves inv (subscribe onEvent onStatus) := by
  apply Upholds.bind stable.startNotify
  rintro (_ | text)
  · exact stable.startNotify
  · exact Upholds.pure _

end CallStable

theorem sized_negotiate : Preserves (Negotiated built) negotiate := by
  apply Upholds.read_bind
  rintro transport past ⟨sized, linked⟩
  split
  · rename_i negotiates
    apply Ensures.bind
    refine ensures_awaitAnswer (by exact ⟨sized, linked⟩) ?_
    intro answer alone
    have awaited := negotiated_stable.awaited transport past answer.meanwhile alone ⟨sized, linked⟩
    have profile : (answer.meanwhile.resume transport).profile = transport.profile :=
      (resume_alone alone).1
    dsimp only
    split
    · rename_i mtu _
      apply Ensures.emit_bind
      intro _
      split
      · rename_i usable
        apply Ensures.modify
        refine ⟨⟨?_, judged_inside awaited.1.judged rfl⟩, ?_⟩
        · simp only [lastSizer_concat, Event.sizer, if_pos usable, Sizer.size]
        · rw [connectionMtu_concat]
          rintro _ ⟨⟩ _
          exact ⟨(congrArg PrinterProfile.negotiateMtu profile).trans negotiates.1, rfl⟩
      · rename_i small
        apply Ensures.pure
        refine ⟨⟨?_, judged_inside awaited.1.judged rfl⟩, ?_⟩
        · rw [lastSizer_concat, Event.sizer, if_neg small]
          exact awaited.1.chunk
        · rw [connectionMtu_concat]
          rintro _ ⟨⟩ usable
          exact absurd usable small
    · exact Ensures.pure awaited
  · exact Ensures.pure ⟨sized, linked⟩

theorem sized_onDisconnected : Preserves (Sized built) (Coroutine.modify onDisconnected) :=
  Upholds.modify fun _ _ sized => ⟨sized.chunk, sized.judged⟩

theorem sized_disconnect : Preserves (Sized built) disconnect := by
  apply Upholds.bind Upholds.read
  intro _
  apply Upholds.ite
  · intro _
    apply Upholds.bind sized_onDisconnected
    intro _
    apply Upholds.bind (sized_stable.call (by simp))
    intro failure
    apply Upholds.read_bind
    intro transport past sized
    apply Ensures.modify_bind
    apply Ensures.emit_bind
    intro _
    have cleaned : Sized built (hangUp transport) (past ++ [.cleaned transport.profile]) :=
      ⟨by simp [Event.sizer, Sizer.size, hangUp], judged_inside sized.judged rfl⟩
    split
    · exact Ensures.raise ⟨cleaned, trivial⟩
    · exact Ensures.pure cleaned
  · exact fun _ => Upholds.pure ()

/-- What a connect leaves, the chunk size included. -/
theorem sized_connect {client : Client} {onEvent onStatus : Bool}
    (sized : Sized built transport past) :
    Ensures Alone (connect client onEvent onStatus)
      ⟨fun _ => Negotiated built, fun _ => Sized built, Sized built⟩ transport past := by
  apply Ensures.read_bind
  split
  · exact Ensures.raise sized
  · apply Ensures.modify_bind
    have called : Negotiated built { transport with client := some client }
        (past ++ [.called (.connect client.address)]) := by
      refine ⟨⟨by simpa [Event.sizer] using sized.chunk, judged_inside sized.judged rfl⟩, ?_⟩
      rw [connectionMtu_concat]
      exact nofun
    apply Ensures.bind
    apply ensures_call called.1
    · intro meanwhile alone
      apply Ensures.modify_bind
      have connected : Negotiated built
          { meanwhile.resume { transport with client := some client } with connected := true } _ :=
        have awaited := negotiated_stable.awaited _ _ meanwhile alone called
        ⟨⟨awaited.1.chunk, awaited.1.judged⟩, awaited.2⟩
      apply Upholds.seq sized_negotiate connected
      · intro _ transport past negotiated
        apply Upholds.seq negotiated_stable.subscribe negotiated
        · rintro (_ | text) transport past negotiated
          · exact Ensures.pure negotiated
          · apply Upholds.seq sized_disconnect negotiated.1
            · exact fun _ _ _ sized => Ensures.raise sized
            · exact fun _ _ _ sized _ => sized
            · exact fun _ _ => id
        · exact fun _ _ _ negotiated _ => negotiated.1
        · exact fun _ _ => And.left
      · exact fun _ _ _ negotiated _ => negotiated.1
      · exact fun _ _ => And.left
    · intro meanwhile text alone
      apply Ensures.modify_bind
      apply Ensures.raise
      have failed := sized_stable.failed _ _ (.connect client.address) text
        (sized_stable.awaited _ _ meanwhile alone called.1)
      exact ⟨failed.chunk, failed.judged⟩

theorem sized_write {data : Bytes} : Preserves (Sized built) (write data) := by
  apply Upholds.bind Upholds.read
  intro transport
  apply Upholds.ite
  · exact fun _ => Upholds.raise trivial
  intro _
  apply Upholds.ite
  · exact fun _ => Upholds.raise trivial
  intro _
  apply Upholds.ite
  · exact fun _ => Upholds.raise trivial
  intro _
  apply Upholds.bind (sized_stable.call (by simp))
  rintro (_ | text)
  · exact Upholds.pure ()
  · apply Upholds.bind sized_onDisconnected
    exact fun _ => Upholds.raise trivial

theorem sized_writeChunked {data : Bytes} {onChunk : Bool} :
    Preserves (Sized built) (writeChunked data onChunk) := by
  apply Upholds.bind Upholds.read
  intro transport
  apply Upholds.ite
  · exact fun _ => Upholds.raise trivial
  intro _
  apply Upholds.forEach
  intro i _
  apply Upholds.bind sized_write
  intro _
  have reported : ∀ total, Preserves (Sized built)
      (if onChunk then emit (.reported (i + 1) total) else pure ()) := by
    intro total
    apply Upholds.ite
    · intro _
      apply Upholds.emit
      exact fun _ _ sized _ =>
        ⟨by simpa [Event.sizer] using sized.chunk, judged_inside sized.judged rfl⟩
    · exact fun _ => Upholds.pure ()
  apply Upholds.ite
  · intro _
    apply Upholds.bind sized_stable.awaitAnswer
    exact fun _ => reported _
  · exact fun _ => reported _

/-- Every operation leaves the chunk size its last sizer gave; a connect that returned, that of its
connection. -/
theorem sized_perform (operation : Operation) (sized : Sized built transport past) :
    Ensures Alone (perform operation)
      ⟨fun _ transport past => Sized built transport past ∧
          ∀ client onEvent onStatus, operation = .connect client onEvent onStatus →
            Negotiated built transport past,
        fun _ => Sized built, Sized built⟩ transport past := by
  have others : Preserves (Sized built) (perform operation) →
      (∀ client onEvent onStatus, operation ≠ .connect client onEvent onStatus) →
      Ensures Alone (perform operation)
        ⟨fun _ transport past => Sized built transport past ∧
            ∀ client onEvent onStatus, operation = .connect client onEvent onStatus →
              Negotiated built transport past,
          fun _ => Sized built, Sized built⟩ transport past := by
    intro preserves other
    apply preserves.ensures sized
    · exact fun _ _ _ sized =>
        ⟨sized, fun client onEvent onStatus same => absurd same (other client onEvent onStatus)⟩
    · exact fun _ _ _ sized _ => sized
    · exact fun _ _ => id
  cases operation with
  | useProfile profile =>
      apply others _ (by simp)
      apply Upholds.bind Upholds.read
      intro _
      apply Upholds.ite
      · exact fun _ => Upholds.raise trivial
      · exact fun _ => Upholds.modify fun _ _ sized => ⟨sized.chunk, sized.judged⟩
  | connect client onEvent onStatus =>
      apply (sized_connect sized).mono
      · exact fun _ _ _ negotiated => ⟨negotiated.1, fun _ _ _ _ => negotiated⟩
      · exact fun _ _ _ => id
      · exact fun _ _ => id
  | write data => exact others sized_write (by simp)
  | writeChunked data onChunk => exact others sized_writeChunked (by simp)
  | disconnect => exact others sized_disconnect (by simp)
  | idle =>
      apply others _ (by simp)
      apply Upholds.bind sized_stable.awaitAnswer
      exact fun _ => Upholds.pure ()

/-- The chunk size is that of the connection exactly when the connection, or the profile, has
given it. -/
theorem chunk_of_negotiated (negotiated : Negotiated built transport past) :
    transport.effectiveChunkBytes = expectedChunkBytes transport.profile (connectionMtu past) ↔
      (∃ mtu ∈ connectionMtu past, 3 < mtu) ∨
        SizedLast built past transport.profile.maxChunkBytes := by
  obtain ⟨sized, linked⟩ := negotiated
  rw [sizedLast_iff, ← sized.chunk]
  cases read : connectionMtu past with
  | none => simp [expectedChunkBytes]
  | some mtu =>
      rw [read] at linked
      by_cases usable : 3 < mtu
      · obtain ⟨negotiates, chunk⟩ := linked mtu rfl usable
        simp [expectedChunkBytes, usable, negotiates, chunk]
      · simp [expectedChunkBytes, usable]

theorem sized_performAll (operations : List Operation) (built : PrinterProfile) :
    Ensures Alone (performAll operations)
      ⟨fun _ _ => Throughout (Judged built), fun _ _ => Throughout (Judged built),
        fun _ => Throughout (Judged built)⟩ (Transport.new built) [] := by
  apply Ensures.forEach (Sized built)
  · exact fun _ _ sized => sized.judged
  · intro operation transport past sized
    apply Ensures.handle
    apply Ensures.seq (sized_perform operation sized)
    · rintro _ ended later ⟨sized, connected⟩
      apply Ensures.read_bind
      apply Ensures.emit
      intro _
      refine ⟨by simpa [Event.sizer] using sized.chunk, sized.judged.concat ?_⟩
      cases operation with
      | connect client onEvent onStatus =>
          exact chunk_of_negotiated (connected client onEvent onStatus rfl)
      | _ => exact Iff.rfl
    · intro error ended later sized
      apply Ensures.read_bind
      apply Ensures.emit
      intro _
      refine ⟨by simpa [Event.sizer] using sized.chunk, sized.judged.concat ?_⟩
      cases operation <;> exact Iff.rfl
    · exact fun _ _ sized => sized.judged
  · exact ⟨rfl, throughout_nil⟩

/-- In every run whose operations do not overlap with others, the chunk size after every successful
connect is that of the connection exactly when every successful connect reads an MTU above 3 or
finds the size of the current profile, given by the construction, a disconnect's cleanup or an
earlier negotiation. -/
theorem chunk_current_iff (built : PrinterProfile) (operations : List Operation)
    (script : List Answer)
    (alone : ∀ event ∈ (performAll operations (Transport.new built) script).trace, Alone event) :
    Throughout ChunkCurrent (performAll operations (Transport.new built) script).trace ↔
      Throughout (ChunkRenewed built)
        (performAll operations (Transport.new built) script).trace :=
  have judged := (sized_performAll operations built).always alone
  judged.congr

instance : DecidablePred Alone := fun event =>
  match event with
  | .awaited (.others _) => .isFalse id
  | .awaited .quiet | .awaited .dropped | .called _ | .failed _ _ | .mtuRead _ | .cleaned _
  | .reported _ _ | .ended _ _ _ => .isTrue trivial

/-- A connection that is closed leaves nothing to the next. -/
theorem chunk_current_iff_closed :
    Throughout ChunkCurrent
        (performAll
          [.connect ⟨0, "S"⟩ true false, .disconnect, .connect ⟨1, "S"⟩ true false]
          (Transport.new strip) [{}, { mtu := some 100 }, {}, {}, {}, {}, {}]).trace ↔
      Throughout (ChunkRenewed strip)
        (performAll
          [.connect ⟨0, "S"⟩ true false, .disconnect, .connect ⟨1, "S"⟩ true false]
          (Transport.new strip) [{}, { mtu := some 100 }, {}, {}, {}, {}, {}]).trace :=
  chunk_current_iff strip
    [.connect ⟨0, "S"⟩ true false, .disconnect, .connect ⟨1, "S"⟩ true false]
    [{}, { mtu := some 100 }, {}, {}, {}, {}, {}] (by decide)

/-- The peer drops a connection with chunks of 97 bytes; the next one, whose MTU cannot be read,
keeps them. -/
theorem dropped_connection_leaves_chunk :
    ¬Throughout ChunkCurrent
      (performAll [.connect ⟨0, "S"⟩ true false, .idle, .connect ⟨1, "S"⟩ true false]
        (Transport.new strip)
        [{}, { mtu := some 100 }, {}, { meanwhile := .dropped }, {}, {}, {}]).trace := by
  intro throughout
  have last := throughout
    ((performAll [.connect ⟨0, "S"⟩ true false, .idle, .connect ⟨1, "S"⟩ true false]
      (Transport.new strip)
      [{}, { mtu := some 100 }, {}, { meanwhile := .dropped }, {}, {}, {}]).trace.take 14)
    (.ended (.connect ⟨1, "S"⟩ true false) none
      { profile := strip, client := some ⟨1, "S"⟩, connected := true, effectiveChunkBytes := 97 })
    [] rfl
  change (97 : Int) = 244 at last
  omega

end TransportCalls

end Phomemo
