import Mathlib.Logic.Relation
import Phomemo.PrinterApp.LineBuffer

/-!
# Faults in what the bridge sends

A message is a line and the payload whose length the line states.  `phomemo_bridge_reply` fails on
a line that is too long, on one that is no JSON object and on one that states no valid length; only
what the socket itself reports closes the link.
-/

namespace Phomemo

open Async Binary64

/-! ## The messages of a stream -/

/-- `valuedouble` of a number. -/
def valueDouble : Json → Option Double
  | .int value => some (Number.int value).toDouble
  | .float text => some (Number.float text).toDouble
  | _ => none

/-- The number a line states as the length of its payload. -/
def statedSize (lib : CLibrary) (line : Bytes) : Option Double :=
  match lib.parseWithLength line with
  | some (.obj obj) => (getObjectItem "bytes" obj).bind valueDouble
  | _ => none

/-- Whether a size is larger than any payload may be. -/
def beyondPayload : Double → Prop
  | .finite value => phomemoBridgeMaxPayload < value
  | .infinite negative => negative = false
  | .nan => False

/-- The bytes that a size stands for: none if it is less than nothing.  Infinitely many have no
end. -/
def sizeBytes : Double → Option Nat
  | .finite value => some (truncate value).toNat
  | .infinite negative => if negative then some 0 else none
  | .nan => some 0

/-- The bytes that follow a line. -/
def payloadBytes (lib : CLibrary) (line : Bytes) : Option Nat :=
  ((statedSize lib line).map sizeBytes).getD (some 0)

/-- Whole messages lead from one place of a stream to another. -/
inductive Boundary (lib : CLibrary) : Bytes → Bytes → Prop
  | here (stream : Bytes) : Boundary lib stream stream
  | behind {line payload tail rest : Bytes} (oneLine : newline ∉ line)
      (size : payloadBytes lib line = some payload.length) (later : Boundary lib tail rest) :
      Boundary lib (line ++ newline :: (payload ++ tail)) rest

/-- The first line is longer than a line may be. -/
def OverLong (stream : Bytes) : Prop :=
  phomemoBridgeMaxLine ≤ stream.length ∧ newline ∉ stream.take phomemoBridgeMaxLine

/-- The first line states more than a payload may have. -/
def Oversized (lib : CLibrary) (stream : Bytes) : Prop :=
  ∃ line tail, newline ∉ line ∧ stream = line ++ newline :: tail ∧
    ∃ size, statedSize lib line = some size ∧ beyondPayload size

/-! ## Waiting for a reply -/

/-- What `poll` comes to within a second. -/
inductive Polled where
  | readable
  /-- The time is over, or a signal has come. -/
  | quiet
  | failed (reason : String)

/-- Why `phomemo_bridge_reply` returned. -/
inductive ReplyEnd where
  | notConnected
  | pollFailed (reason : String)
  /-- `read_message` left this in `err`. -/
  | readFailed (text : String)
  | message (result : CallResult)

/-- A call of `phomemo_bridge_reply`. -/
structure ReplyCall where
  reader : LineReader
  /-- What the next polls come to; those after them find data. -/
  polls : List Polled
  pending : Bytes
  /-- Whether the event callback, called that often before, sends an abort whose write fails.  One
  that is written leaves the client as it is. -/
  abortFails : Nat → Option Fields → Bool
  notified : Nat := 0
  ending : Option ReplyEnd := none

namespace ReplyCall

/-- The call of the event callback. -/
def notify (event : Option Fields) (call : ReplyCall) : ReplyCall :=
  { call with
    notified := call.notified + 1
    reader :=
      if call.abortFails call.notified event then
        { call.reader with buffer := call.reader.buffer.dropLink }
      else call.reader }

/-- `wait_readable`, and what follows from it.  A descriptor that is no more is never readable. -/
def waitReadable (call : ReplyCall) : ReplyCall :=
  let polled := if call.reader.buffer.connected then call.polls.head?.getD .readable else .quiet
  let call := { call with polls := call.polls.tail }
  match polled with
  | .readable => { call with reader := { call.reader with point := .fillLine } }
  | .quiet => call.notify none
  | .failed reason =>
      { call with
        reader := { call.reader with buffer := call.reader.buffer.dropLink }
        ending := some (.pollFailed reason) }

/-- `read_message` has returned. -/
def received (result : Except String Fields) (call : ReplyCall) : ReplyCall :=
  match result with
  | .error text => { call with ending := some (.readFailed text) }
  | .ok obj =>
      match receive call.pending obj with
      | .event => call.notify (some obj)
      | .skipped => call
      | .returned result => { call with ending := some (.message result) }

/-- A step of `read_message`. -/
def readOn (reader : LineReader) (call : ReplyCall) : ReplyCall :=
  let call := { call with reader }
  match reader.point, reader.results.getLast? with
  | .idle, some result => call.received result
  | _, _ => call

/-- A step; a call that has returned rests. -/
def step (lib : CLibrary) (call : ReplyCall) : Option ReplyCall :=
  if call.ending.isSome then some call
  else
    match call.reader.point with
    | .idle =>
        (call.reader.buffer.line.load 0 call.reader.buffer.lineLen).map fun held =>
          if (memchr newline held).isSome then
            { call with reader := { call.reader with point := .fillLine } }
          else call.waitReadable
    | _ => (call.reader.step lib).map call.readOn

/-- `phomemo_bridge_reply` is called. -/
def start (reader : LineReader) (polls : List Polled) (pending : Bytes)
    (abortFails : Nat → Option Fields → Bool) : ReplyCall where
  reader := reader
  polls := polls
  pending := pending
  abortFails := abortFails
  ending := if reader.buffer.connected then none else some .notConnected

/-- What happens on a link: calls are made one after the other. -/
inductive Advances (lib : CLibrary) : ReplyCall → ReplyCall → Prop
  | step {call next : ReplyCall} (stepped : call.step lib = some next) : Advances lib call next
  | again {call : ReplyCall} (ended : call.ending.isSome) (polls : List Polled) (pending : Bytes)
      (abortFails : Nat → Option Fields → Bool) :
      Advances lib call (start call.reader polls pending abortFails)
  /-- The next request cannot be written. -/
  | lost {call : ReplyCall} (ended : call.ending.isSome) :
      Advances lib call
        { call with reader := { call.reader with buffer := call.reader.buffer.dropLink } }

/-- What a link can come to. -/
def Later (lib : CLibrary) : ReplyCall → ReplyCall → Prop := Relation.ReflTransGen (Advances lib)

/-- What `read_message` leaves in `err` for a fault of the stream. -/
def framingFaults : List String :=
  ["bridge sent an over-long line", "bridge sent malformed JSON",
    "bridge sent an invalid payload length"]

/-- The call has failed because of a fault of the stream. -/
def FramingFault (call : ReplyCall) : Prop :=
  ∃ text ∈ framingFaults, call.ending = some (.readFailed text)

/-- Whatever the bridge sends from now on, no call returns a reply any more. -/
def MustFail (lib : CLibrary) (call : ReplyCall) : Prop :=
  ∀ deliveries later,
    Later lib { call with reader := { call.reader with deliveries } } later →
      ∀ obj, later.ending ≠ some (.message (.reply obj))

/-- The link is closed, or the next call reads from the start of a message and may succeed. -/
def Recovers (lib : CLibrary) (stream : Bytes) (call : ReplyCall) : Prop :=
  call.reader.buffer.connected = false ∨
    Boundary lib stream call.reader.unread ∧ ¬MustFail lib call

/-- Every fault on a link that carries a stream is recovered from. -/
def FaultsRecover (lib : CLibrary) (stream : Bytes) : Prop :=
  ∀ deliveries polls pending abortFails call, Delivery.arriving deliveries = stream →
    Later lib (start { deliveries } polls pending abortFails) call →
      call.FramingFault → call.Recovers lib stream

end ReplyCall

/-! ## Places between messages -/

section

variable {lib : CLibrary} {stream first second line tail : Bytes}

theorem Boundary.trans (former : Boundary lib stream first) (later : Boundary lib first second) :
    Boundary lib stream second := by
  induction former with
  | here => exact later
  | behind oneLine size _ ih => exact .behind oneLine size (ih later)

theorem Boundary.length_le (boundary : Boundary lib stream first) :
    first.length ≤ stream.length := by
  induction boundary with
  | here => exact Nat.le_refl _
  | behind _ _ _ ih =>
      rw [List.length_append, List.length_cons, List.length_append]
      omega

/-- A line and what follows it stand in one place only. -/
theorem line_unique {line' tail' : Bytes} (oneLine : newline ∉ line) (oneLine' : newline ∉ line')
    (same : line ++ newline :: tail = line' ++ newline :: tail') : line = line' ∧ tail = tail' := by
  obtain ⟨rfl, followed⟩ := List.append_inj same (by
    have index : ∀ (line tail : Bytes), newline ∉ line →
        (line ++ newline :: tail).idxOf newline = line.length := by
      intro line tail oneLine
      rw [List.idxOf_append_of_notMem oneLine, List.idxOf_cons_self]
      rfl
    rw [← index line tail oneLine, same, index line' tail' oneLine'])
  exact ⟨rfl, (List.cons.inj followed).2⟩

/-- The places between messages follow each other. -/
theorem Boundary.chain (former : Boundary lib stream first) (later : Boundary lib stream second)
    (behind : second.length ≤ first.length) : Boundary lib first second := by
  induction former with
  | here => exact later
  | @behind line payload tail first oneLine size between ih =>
      have shorter := between.length_le
      generalize whole : line ++ newline :: (payload ++ tail) = stream at later
      cases later with
      | here =>
          subst whole
          rw [List.length_append, List.length_cons, List.length_append] at behind
          omega
      | behind oneLine' size' later =>
          obtain ⟨rfl, followed⟩ := line_unique oneLine oneLine' whole
          have sizes := Option.some.inj (size.symm.trans size')
          obtain ⟨-, rfl⟩ := List.append_inj followed sizes
          exact ih later behind

/-- What follows a line that states a size is no place between messages. -/
theorem not_boundary_behind (oneLine : newline ∉ line)
    (whole : Boundary lib stream (line ++ newline :: tail))
    (sized : payloadBytes lib line ≠ some 0) : ¬Boundary lib stream tail := by
  intro boundary
  have shorter : tail.length ≤ (line ++ newline :: tail).length := by
    rw [List.length_append, List.length_cons]
    omega
  have between := whole.chain boundary shorter
  generalize same : line ++ newline :: tail = from_line at between
  cases between with
  | here =>
      have lengths := congrArg List.length same
      simp at lengths
      omega
  | @behind line' payload rest _ oneLine' size later =>
      obtain ⟨rfl, rfl⟩ := line_unique oneLine oneLine' same
      have fits := later.length_le
      rw [List.length_append] at fits
      have none : payload.length = 0 := by omega
      exact sized (none ▸ size)

/-- A line that ends in time is short. -/
theorem short_of_not_overLong (oneLine : newline ∉ line)
    (ends : ¬OverLong (line ++ newline :: tail)) : line.length < phomemoBridgeMaxLine := by
  by_contra long
  have le : phomemoBridgeMaxLine ≤ line.length := not_lt.mp long
  refine ends ⟨?_, fun member => ?_⟩
  · rw [List.length_append]
    omega
  · rw [List.take_append_of_le_length le] at member
    exact oneLine (List.mem_of_mem_take member)

/-! ## What is taken with a line -/

/-- What `read_message` returns for a line. -/
def lineResult (lib : CLibrary) (line : Bytes) : Except String Fields :=
  match lib.parseWithLength line with
  | some (.obj obj) =>
      match payloadLength obj with
      | .error text => .error text
      | .ok _ => .ok obj
  | _ => .error "bridge sent malformed JSON"

/-- How many bytes behind a line `read_message` discards. -/
def skippedBytes (lib : CLibrary) (line : Bytes) : Nat :=
  match lib.parseWithLength line with
  | some (.obj obj) =>
      match payloadLength obj with
      | .ok (some size) => size
      | _ => 0
  | _ => 0

/-- What `read_message` makes of a number. -/
def sizeLength : Double → Except String (Option Nat)
  | .finite value =>
      if value < 0 ∨ phomemoBridgeMaxPayload < value then
        .error "bridge sent an invalid payload length"
      else .ok (some (truncate value).toNat)
  | _ => .error "bridge sent an invalid payload length"

/-- A size is beyond all payloads, or what is not discarded is not there. -/
theorem sizeLength_cases (size : Double) :
    beyondPayload size ∧ sizeLength size = .error "bridge sent an invalid payload length" ∧
        sizeBytes size ≠ some 0 ∨
      ¬beyondPayload size ∧
        (sizeLength size = .error "bridge sent an invalid payload length" ∧
            sizeBytes size = some 0 ∨
          ∃ count, sizeLength size = .ok (some count) ∧ sizeBytes size = some count) := by
  cases size with
  | nan => exact .inr ⟨id, .inl ⟨rfl, rfl⟩⟩
  | infinite negative =>
      cases negative with
      | true => exact .inr ⟨nofun, .inl ⟨rfl, rfl⟩⟩
      | false => exact .inl ⟨rfl, rfl, nofun⟩
  | finite value =>
      by_cases beyond : (phomemoBridgeMaxPayload : ℚ) < value
      · refine .inl ⟨beyond, if_pos (.inr beyond), fun none => ?_⟩
        have positive : (1 : ℚ) ≤ value := by
          refine le_trans ?_ beyond.le
          norm_num [phomemoBridgeMaxPayload]
        have whole : 1 ≤ truncate value := by
          rw [truncate, if_pos (le_trans zero_le_one positive)]
          exact Rat.le_floor_iff.mpr (by exact_mod_cast positive)
        have zero : (truncate value).toNat = 0 := Option.some.inj none
        omega
      · refine .inr ⟨beyond, ?_⟩
        by_cases negative : value < 0
        · refine .inl ⟨if_pos (.inl negative), congrArg some ?_⟩
          have positive : 0 ≤ (-value).floor :=
            Rat.le_floor_iff.mpr (by exact_mod_cast (neg_pos.mpr negative).le)
          rw [truncate, if_neg (not_le.mpr negative)]
          omega
        · exact .inr ⟨_, if_neg (not_or.mpr ⟨negative, beyond⟩), rfl⟩

/-- A number in `bytes` is read as a size. -/
theorem payloadLength_of_size {obj : Fields} {value : Json} {size : Double}
    (stated : getObjectItem "bytes" obj = some value) (number : valueDouble value = some size) :
    payloadLength obj = sizeLength size := by
  unfold payloadLength
  rw [stated]
  cases value with
  | int whole =>
      obtain rfl := Option.some.inj number
      rfl
  | float text =>
      obtain rfl := Option.some.inj number
      rfl
  | _ => cases number

/-- Anything else in `bytes` is refused. -/
theorem payloadLength_of_other {obj : Fields} {value : Json}
    (stated : getObjectItem "bytes" obj = some value) (other : valueDouble value = none) :
    payloadLength obj = .error "bridge sent an invalid payload length" := by
  have negative : (-1 : ℚ) < 0 ∨ (phomemoBridgeMaxPayload : ℚ) < -1 := .inl (by norm_num)
  unfold payloadLength
  rw [stated]
  cases value with
  | int whole => cases other
  | float text => cases other
  | _ => exact if_pos negative

/-- A stated size is beyond all payloads and refused, or what follows the line is discarded. -/
theorem lineResult_cases (lib : CLibrary) (line : Bytes) :
    (∃ size, statedSize lib line = some size ∧ beyondPayload size) ∧
        lineResult lib line = .error "bridge sent an invalid payload length" ∧
        skippedBytes lib line = 0 ∧ payloadBytes lib line ≠ some 0 ∨
      (∀ size, statedSize lib line = some size → ¬beyondPayload size) ∧
        payloadBytes lib line = some (skippedBytes lib line) := by
  unfold lineResult skippedBytes payloadBytes statedSize
  split
  · rename_i obj _
    cases stated : getObjectItem "bytes" obj with
    | none =>
        have absent : payloadLength obj = .ok none := by
          unfold payloadLength
          rw [stated]
        rw [absent]
        exact .inr ⟨nofun, rfl⟩
    | some value =>
        rw [Option.bind_some]
        cases number : valueDouble value with
        | none =>
            rw [payloadLength_of_other stated number]
            exact .inr ⟨nofun, rfl⟩
        | some size =>
            rw [payloadLength_of_size stated number, Option.map_some, Option.getD_some]
            rcases sizeLength_cases size with ⟨beyond, refused, sized⟩ | ⟨within, taken⟩
            · rw [refused]
              exact .inl ⟨⟨size, rfl, beyond⟩, rfl, rfl, sized⟩
            · refine .inr ⟨?_, ?_⟩
              · rintro _ ⟨⟩
                exact within
              · rcases taken with ⟨refused, none⟩ | ⟨count, accepted, counted⟩
                · rw [refused, none]
                · rw [accepted, counted]
  · exact .inr ⟨nofun, rfl⟩

end

/-! ## Reading a line -/

namespace LineReader

variable {lib : CLibrary} {reader next : LineReader}

/-- A link that is closed stays closed. -/
theorem connected_of_step (sound : reader.Sound) (stepped : reader.step lib = some next)
    (connected : next.buffer.connected = true) : reader.buffer.connected = true := by
  unfold LineReader.step at stepped
  cases here : reader.point with
  | idle =>
      rw [here] at stepped
      dsimp only at stepped
      split at stepped
      · assumption
      · obtain rfl := Option.some.inj stepped
        exact connected
  | fillLine =>
      rw [here] at stepped
      obtain ⟨_, same, outcome⟩ := exists_fillLine lib sound.buffer
      obtain rfl := Option.some.inj (same.symm.trans stepped)
      cases outcome with
      | found => exact connected
      | overlong => exact connected
      | filled _ kept => exact kept.symm.trans connected
      | dropped => cases connected
  | discardPayload obj size =>
      rw [here] at stepped
      obtain ⟨_, same, outcome⟩ := exists_discardPayload lib sound.buffer here
      obtain rfl := Option.some.inj (same.symm.trans stepped)
      cases outcome with
      | finished => exact connected
      | skipped _ kept => exact kept.symm.trans connected
      | dropped => cases connected
  | parse len =>
      rw [here] at stepped
      obtain ⟨buffer, -, kept, -, same⟩ := exists_parse lib sound.buffer (sound.found here)
      obtain rfl := Option.some.inj (same.symm.trans stepped)
      have kept_on : buffer.connected = true := by
        dsimp only at connected
        split at connected
        · split at connected <;> exact connected
        · exact connected
      exact kept.symm.trans kept_on

theorem connected_of_after (sound : reader.Sound) {steps : Nat}
    (run : after lib steps reader = some next) (connected : next.buffer.connected = true) :
    reader.buffer.connected = true := by
  induction steps generalizing reader with
  | zero =>
      obtain rfl := Option.some.inj run
      exact connected
  | succ steps ih =>
      obtain ⟨middle, stepped, kept, -⟩ := sound.step lib
      rw [after, stepped, Option.bind_some] at run
      exact connected_of_step sound stepped (ih kept run)

variable (lib) in
/-- A line is parsed: it is done with, or its payload is left. -/
theorem step_parse (sound : reader.buffer.Sound) {line more : Bytes}
    (here : reader.point = .parse line.length)
    (held : reader.buffer.held = line ++ newline :: more) :
    ∃ buffer : ReceiveBuffer, buffer.Sound ∧ buffer.connected = reader.buffer.connected ∧
      buffer.held = more ∧
      ((skippedBytes lib line = 0 ∧ reader.step lib =
          some ({ reader with buffer, parsed := reader.parsed ++ [line] }.finish
            (lineResult lib line))) ∨
        ∃ obj, lineResult lib line = .ok obj ∧ reader.step lib =
          some
            { reader with
              buffer
              parsed := reader.parsed ++ [line]
              point := .discardPayload obj (skippedBytes lib line) }) := by
  have within : line.length < reader.buffer.lineLen := by
    rw [← sound.length_held, held]
    simp
  obtain ⟨buffer, kept, connected, left, parsed⟩ := exists_parse lib sound within
  have text : reader.buffer.held.take line.length = line := by rw [held, List.take_left]
  have rest : buffer.held = more := by
    rw [left, held, List.drop_append, List.drop_of_length_le (by simp), Nat.add_sub_cancel_left,
      List.nil_append, List.drop_one, List.tail_cons]
  refine ⟨buffer, kept, connected, rest, ?_⟩
  have stepped : reader.step lib = reader.parse lib line.length := by
    rw [LineReader.step, here]
  rw [stepped, parsed, text]
  unfold skippedBytes lineResult
  dsimp only
  cases lib.parseWithLength line with
  | none => exact .inl ⟨rfl, rfl⟩
  | some value =>
      cases value with
      | obj obj =>
          dsimp only
          cases payloadLength obj with
          | error text => exact .inl ⟨rfl, rfl⟩
          | ok size =>
              cases size with
              | none => exact .inl ⟨rfl, rfl⟩
              | some size => exact .inr ⟨obj, rfl, rfl⟩
      | _ => exact .inl ⟨rfl, rfl⟩

/-- The client stands between two calls of `read_message`, and this is still to be read. -/
structure Between (reader : LineReader) (ahead : Bytes) : Prop where
  sound : reader.Sound
  idle : reader.point = .idle
  connected : reader.buffer.connected = true
  unread : reader.unread = ahead

/-- The client has found a line. -/
structure Found (reader : LineReader) (line tail : Bytes) : Prop where
  sound : reader.buffer.Sound
  point : reader.point = .parse line.length
  connected : reader.buffer.connected = true
  held : ∃ more, reader.buffer.held = line ++ newline :: more ∧
    more ++ Delivery.arriving reader.deliveries = tail

theorem Between.called {ahead : Bytes} (between : Between reader ahead) :
    reader.step lib = some { reader with point := .fillLine } := by
  rw [LineReader.step, between.idle]
  exact if_pos between.connected

variable (lib) in
theorem Between.reaches_found {line tail : Bytes}
    (between : Between reader (line ++ newline :: tail)) (oneLine : newline ∉ line)
    (short : line.length < phomemoBridgeMaxLine) :
    ∃ next, Reaches lib reader next ∧ Found next line tail := by
  obtain ⟨buffer, deliveries, kept, still, held, found⟩ :=
    @reaches_parse lib { reader with point := .fillLine } (.filling between.sound.buffer rfl) rfl
      _ _ oneLine short between.unread
  exact ⟨_, .head between.called found, kept, rfl, still.trans between.connected, held⟩

/-- What belongs to the line is taken from the stream. -/
theorem Found.reaches_between {line payload tail : Bytes}
    (found : Found reader line (payload ++ tail))
    (skipped : payload.length = skippedBytes lib line) :
    ∃ next, Reaches lib reader next ∧ Between next tail := by
  obtain ⟨more, held, sent⟩ := found.held
  obtain ⟨buffer, kept, still, rest, ⟨none, stepped⟩ | ⟨obj, -, stepped⟩⟩ :=
    step_parse lib found.sound found.point held
  · obtain rfl := List.eq_nil_of_length_eq_zero (skipped.trans none)
    refine ⟨_, .head stepped .refl, .resting kept rfl, rfl, still.trans found.connected, ?_⟩
    rw [← rest] at sent
    exact sent
  · rw [← skipped] at stepped
    rw [← rest] at sent
    obtain ⟨buffer', deliveries, kept', still', left, finished⟩ :=
      @reaches_finish lib
        { reader with
          buffer, parsed := reader.parsed ++ [line], point := .discardPayload obj payload.length }
        (.discarding kept rfl) _ _ _ rfl sent
    exact ⟨_, .head stepped finished, .resting kept' rfl, rfl,
      (still'.trans still).trans found.connected, left⟩

/-- One message is read. -/
theorem Between.reaches_behind {line payload tail : Bytes}
    (between : Between reader (line ++ newline :: (payload ++ tail))) (oneLine : newline ∉ line)
    (short : line.length < phomemoBridgeMaxLine)
    (skipped : payload.length = skippedBytes lib line) :
    ∃ next, Reaches lib reader next ∧ Between next tail := by
  obtain ⟨next, first, found⟩ := between.reaches_found lib oneLine short
  obtain ⟨last, later, behind⟩ := found.reaches_between skipped
  exact ⟨last, first.trans later, behind⟩

/-- The buffer is full of one line, which is not at its end. -/
structure Full (reader : LineReader) : Prop where
  sound : reader.Sound
  connected : reader.buffer.connected = true
  absent : newline ∉ reader.buffer.held
  long : phomemoBridgeMaxLine ≤ reader.buffer.lineLen

theorem Full.fillLine (full : Full reader) :
    reader.fillLine lib = some (reader.finish (.error "bridge sent an over-long line")) := by
  have loaded : reader.buffer.line.load 0 reader.buffer.lineLen = some reader.buffer.held := by
    rw [full.sound.buffer.load (Nat.le_refl _), ← full.sound.buffer.length_held, List.take_length]
  rw [LineReader.fillLine, loaded, Option.bind_some, memchr_eq_none full.absent]
  exact if_pos full.long

variable (lib) in
/-- The buffer fills up with a line that is too long. -/
theorem reaches_full (sound : reader.Sound) (here : reader.point = .fillLine)
    (connected : reader.buffer.connected = true) (long : OverLong reader.unread) :
    ∃ next, Reaches lib reader next ∧ next.point = .fillLine ∧ Full next ∧
      next.unread = reader.unread := by
  induction measure : Delivery.remaining reader.deliveries using Nat.strong_induction_on
    generalizing reader with
  | _ bound ih =>
      have held_le := sound.buffer.length_held.trans_le
        (sound.buffer.within.trans sound.buffer.lineSize_le)
      have absent : newline ∉ reader.buffer.held := by
        intro member
        refine long.2 ?_
        rw [unread, List.take_append, List.take_of_length_le held_le]
        exact List.mem_append_left _ member
      by_cases filled : phomemoBridgeMaxLine ≤ reader.buffer.lineLen
      · exact ⟨reader, .refl, here, ⟨sound, connected, absent, filled⟩, rfl⟩
      obtain ⟨next, stepped, outcome⟩ := exists_fillLine lib sound.buffer
      have kept := outcome.sound sound.buffer here
      have run : reader.step lib = some next := by rw [LineReader.step, here]; exact stepped
      cases outcome with
      | found first =>
          rw [memchr_eq_none absent] at first
          cases first
      | overlong _ over_long => exact absurd (sound.buffer.length_held ▸ over_long) filled
      | dropped _ _ nothing =>
          have enough := long.1
          rw [unread, nothing, List.append_nil, sound.buffer.length_held] at enough
          exact absurd enough filled
      | @filled buffer deliveries grown still same progress =>
          have longer : OverLong (buffer.held ++ Delivery.arriving deliveries) := same ▸ long
          obtain ⟨last, later, point, full, rest⟩ :=
            ih _ (measure ▸ progress) kept here (still.trans connected) longer rfl
          exact ⟨last, .head run later, point, full, rest.trans same⟩

end LineReader

/-! ## Calls that listen -/

namespace ReplyCall

variable {lib : CLibrary} {call next : ReplyCall} {reader reader' : LineReader} {stream : Bytes}

/-- The call waits, the polls find data and the callback leaves the link alone. -/
structure Listening (call : ReplyCall) (reader : LineReader) : Prop where
  reading : call.reader = reader
  polls : call.polls = []
  keeps : ∀ count event, call.abortFails count event = false
  waits : call.ending = none

/-- A call on an open link. -/
theorem Listening.started (connected : reader.buffer.connected = true) (pending : Bytes) :
    Listening (start reader [] pending fun _ _ => false) reader :=
  ⟨rfl, rfl, fun _ _ => rfl, if_pos connected⟩

theorem Listening.notify (listening : Listening call reader) (event : Option Fields) :
    Listening (call.notify event) reader := by
  obtain ⟨rfl, polls, keeps, waits⟩ := listening
  refine ⟨?_, polls, keeps, waits⟩
  rw [ReplyCall.notify, keeps, if_neg Bool.false_ne_true]

variable (lib) in
theorem Listening.step_idle (listening : Listening call reader) (sound : reader.Sound)
    (idle : reader.point = .idle) (connected : reader.buffer.connected = true) :
    ∃ next, call.step lib = some next ∧ Listening next { reader with point := .fillLine } := by
  obtain ⟨rfl, polls, keeps, waits⟩ := listening
  rw [step, waits, if_neg (by simp), idle]
  dsimp only
  rw [sound.buffer.load (Nat.le_refl _), Option.map_some]
  split
  · exact ⟨_, rfl, rfl, polls, keeps, rfl⟩
  · refine ⟨_, rfl, ?_⟩
    rw [waitReadable, connected, if_pos rfl, polls]
    exact ⟨rfl, rfl, keeps, waits⟩

theorem step_reading (waits : call.ending = none) (busy : call.reader.point ≠ .idle) :
    call.step lib = (call.reader.step lib).map call.readOn := by
  rw [step, waits, if_neg (by simp)]
  cases here : call.reader.point with
  | idle => exact absurd here busy
  | _ => rfl

/-- A message has been read, and the call goes on or the next one is made. -/
theorem Listening.received (listening : Listening call reader)
    (connected : reader.buffer.connected = true) (result : Except String Fields) :
    ∃ later, Later lib (call.received result) later ∧ Listening later reader := by
  have next_call : ∀ ending, ∃ later,
      Later lib { call with ending := some ending } later ∧ Listening later reader := by
    intro ending
    obtain rfl := listening.reading
    exact ⟨_, .single (.again rfl [] [] fun _ _ => false), .started connected []⟩
  cases result with
  | error text => exact next_call _
  | ok obj =>
      unfold ReplyCall.received
      dsimp only
      split
      · exact ⟨_, .refl, listening.notify _⟩
      · exact ⟨_, .refl, listening⟩
      · exact next_call _

theorem Listening.follow_step (listening : Listening call reader) (sound : reader.Sound)
    (stepped : reader.step lib = some reader') (connected : reader'.buffer.connected = true) :
    ∃ later, Later lib call later ∧ Listening later reader' := by
  by_cases idle : reader.point = .idle
  · have still := LineReader.connected_of_step sound stepped connected
    obtain ⟨next, run, later⟩ := listening.step_idle lib sound idle still
    rw [LineReader.step, idle] at stepped
    obtain rfl := Option.some.inj ((if_pos still).symm.trans stepped)
    exact ⟨next, .single (.step run), later⟩
  · obtain ⟨rfl, polls, keeps, waits⟩ := listening
    have run : call.step lib = some (call.readOn reader') := by
      rw [step_reading waits idle, stepped, Option.map_some]
    have reached : Later lib call (call.readOn reader') := .single (.step run)
    have listening : Listening { call with reader := reader' } reader' := ⟨rfl, polls, keeps, waits⟩
    unfold readOn at reached
    dsimp only at reached
    split at reached
    · obtain ⟨later, received, listens⟩ := listening.received connected _
      exact ⟨later, reached.trans received, listens⟩
    · exact ⟨_, reached, listening⟩

/-- Calls made one after the other read on like a client of `read_message`. -/
theorem Listening.follow (listening : Listening call reader) (sound : reader.Sound)
    (reaches : LineReader.Reaches lib reader reader')
    (connected : reader'.buffer.connected = true) :
    ∃ later, Later lib call later ∧ Listening later reader' := by
  obtain ⟨steps, run⟩ := reaches
  induction steps generalizing call reader with
  | zero =>
      obtain rfl := Option.some.inj run
      exact ⟨call, .refl, listening⟩
  | succ steps ih =>
      obtain ⟨middle, stepped, rest⟩ := Option.bind_eq_some_iff.mp run
      obtain ⟨_, same, kept, -⟩ := sound.step lib
      obtain rfl := Option.some.inj (same.symm.trans stepped)
      have still := LineReader.connected_of_after kept rest connected
      obtain ⟨later, first, listens⟩ := listening.follow_step sound stepped still
      obtain ⟨last, second, listens⟩ := ih listens kept rest
      exact ⟨last, first.trans second, listens⟩

/-! ## What a step does -/

/-- The client without its link. -/
def dropped (reader : LineReader) : LineReader := { reader with buffer := reader.buffer.dropLink }

/-- What follows a step of `read_message`. -/
inductive ReadOutcome (reader : LineReader) (next : ReplyCall) : Prop
  | going (reading : next.reader = reader) (waits : next.ending = none)
  /-- The event callback has lost the link. -/
  | lost (idle : reader.point = .idle) (reading : next.reader = dropped reader)
      (waits : next.ending = none)
  | failed (text : String) (idle : reader.point = .idle) (reading : next.reader = reader)
      (last : reader.results.getLast? = some (.error text))
      (ending : next.ending = some (.readFailed text))
  | returned (obj : Fields) (result : CallResult) (idle : reader.point = .idle)
      (reading : next.reader = reader) (last : reader.results.getLast? = some (.ok obj))
      (ending : next.ending = some (.message result))

/-- What a step comes to. -/
inductive StepOutcome (lib : CLibrary) (call : ReplyCall) (next : ReplyCall) : Prop
  | rested (ended : call.ending.isSome) (same : next = call)
  /-- `read_message` is called. -/
  | called (idle : call.reader.point = .idle)
      (some_data : newline ∈ call.reader.buffer.held ∨ call.reader.buffer.connected = true)
      (reading : next.reader = { call.reader with point := .fillLine })
      (waits : next.ending = none)
  | waited (idle : call.reader.point = .idle) (reading : next.reader = call.reader)
      (waits : next.ending = none)
  /-- The link is lost while the call waits. -/
  | lost (idle : call.reader.point = .idle) (reading : next.reader = dropped call.reader)
      (ending : ∀ text, next.ending ≠ some (.readFailed text))
      (silent : ∀ result, next.ending ≠ some (.message result))
  | read (reader : LineReader) (busy : call.reader.point ≠ .idle)
      (stepped : call.reader.step lib = some reader) (outcome : ReadOutcome reader next)

theorem notify_cases (event : Option Fields) (call : ReplyCall) :
    (call.notify event).ending = call.ending ∧
      ((call.notify event).reader = call.reader ∨
        (call.notify event).reader = dropped call.reader) := by
  refine ⟨rfl, ?_⟩
  unfold notify
  dsimp only
  split
  · exact .inr rfl
  · exact .inl rfl

theorem readOn_outcome (waits : call.ending = none) : ReadOutcome reader (call.readOn reader) := by
  unfold readOn
  dsimp only
  split
  · rename_i result idle last
    cases result with
    | error text => exact .failed text idle rfl last rfl
    | ok obj =>
        unfold received
        dsimp only
        split
        · obtain ⟨ending, same | lost⟩ := notify_cases (some obj) { call with reader }
          · exact .going same (ending.trans waits)
          · exact .lost idle lost (ending.trans waits)
        · exact .going rfl waits
        · exact .returned obj _ idle rfl last rfl
  · exact .going rfl waits

theorem waitReadable_outcome (waits : call.ending = none) (idle : call.reader.point = .idle) :
    StepOutcome lib call call.waitReadable := by
  have quiet : StepOutcome lib call (notify none { call with polls := call.polls.tail }) := by
    obtain ⟨ending, same | lost⟩ := notify_cases none { call with polls := call.polls.tail }
    · exact .waited idle same (ending.trans waits)
    · have none := ending.trans waits
      exact .lost idle lost (fun _ failed => by cases none.symm.trans failed)
        fun _ returned => by cases none.symm.trans returned
  unfold waitReadable
  by_cases connected : call.reader.buffer.connected = true
  · rw [if_pos connected]
    cases call.polls.head?.getD .readable with
    | readable => exact .called idle (.inr connected) rfl waits
    | quiet => exact quiet
    | failed reason =>
        exact .lost idle rfl (fun _ failed => by cases failed) fun _ returned => by cases returned
  · rw [if_neg connected]
    exact quiet

theorem step_outcome (sound : call.reader.Sound) (stepped : call.step lib = some next) :
    StepOutcome lib call next := by
  cases ending : call.ending with
  | some ended =>
      rw [step, ending] at stepped
      exact .rested (by rw [ending]; rfl) (Option.some.inj stepped).symm
  | none =>
      by_cases idle : call.reader.point = .idle
      · have loaded : call.reader.buffer.line.load 0 call.reader.buffer.lineLen =
            some call.reader.buffer.held := by
          rw [sound.buffer.load (Nat.le_refl _), ← sound.buffer.length_held, List.take_length]
        rw [step, ending, if_neg (by simp), idle] at stepped
        dsimp only at stepped
        rw [loaded, Option.map_some] at stepped
        obtain rfl := Option.some.inj stepped
        split
        · rename_i present
          have member : newline ∈ call.reader.buffer.held := by
            by_contra absent
            rw [memchr_eq_none absent] at present
            cases present
          exact .called idle (.inl member) rfl rfl
        · exact waitReadable_outcome ending idle
      · rw [step_reading ending idle] at stepped
        obtain ⟨reader, read, rfl⟩ := Option.map_eq_some_iff.mp stepped
        exact .read reader idle read (readOn_outcome ending)

/-! ## A line that is too long -/

/-- No later call returns a reply: the buffer is full of one line, or the link is closed. -/
inductive Useless (reader : LineReader) : Prop
  | full (full : LineReader.Full reader) (place : reader.point = .idle ∨ reader.point = .fillLine)
  | closed (sound : reader.Sound) (closed : reader.buffer.connected = false)
      (nothing : reader.buffer.held = []) (idle : reader.point = .idle)

theorem Useless.sound (useless : Useless reader) : reader.Sound := by
  cases useless with
  | full full => exact full.sound
  | closed sound => exact sound

theorem Useless.dropped (sound : reader.Sound) (idle : reader.point = .idle) :
    Useless (dropped reader) := by
  refine .closed ⟨sound.buffer.dropLink, fun moved => ?_⟩ rfl rfl idle
  rw [ReplyCall.dropped, idle] at moved
  cases moved

theorem Useless.finish (full : LineReader.Full reader) (result : Except String Fields) :
    Useless (reader.finish result) :=
  .full ⟨.resting full.sound.buffer rfl, full.connected, full.absent, full.long⟩ (.inl rfl)

/-- Neither this call nor a later one returns a reply. -/
structure Hopeless (call : ReplyCall) : Prop where
  useless : Useless call.reader
  none : ∀ obj, call.ending ≠ some (.message (.reply obj))
  rests : call.ending.isSome → call.reader.point = .idle

theorem Hopeless.of_waiting (useless : Useless call.reader) (waits : call.ending = .none) :
    Hopeless call where
  useless := useless
  none := fun _ replied => by cases waits.symm.trans replied
  rests := fun ended => by rw [waits] at ended; cases ended

theorem Hopeless.step (hopeless : Hopeless call) (outcome : StepOutcome lib call next) :
    Hopeless next := by
  obtain ⟨useless, none, rests⟩ := hopeless
  cases outcome with
  | rested ended same => exact same ▸ ⟨useless, none, rests⟩
  | lost idle reading ending silent =>
      exact ⟨reading ▸ .dropped useless.sound idle, fun _ => silent _, fun _ => reading ▸ idle⟩
  | waited idle reading waits => exact .of_waiting (reading ▸ useless) waits
  | called idle some_data reading waits =>
      refine .of_waiting ?_ waits
      rw [reading]
      cases useless with
      | full full =>
          exact .full ⟨.filling full.sound.buffer rfl, full.connected, full.absent, full.long⟩
            (.inr rfl)
      | closed _ closed nothing =>
          rcases some_data with present | connected
          · rw [nothing] at present
            cases present
          · rw [closed] at connected
            cases connected
  | read reader busy stepped outcome =>
      cases useless with
      | closed _ _ _ idle => exact absurd idle busy
      | full full place =>
          rw [LineReader.step, place.resolve_left busy] at stepped
          obtain rfl := Option.some.inj (full.fillLine.symm.trans stepped)
          have finished := Useless.finish full (.error "bridge sent an over-long line")
          cases outcome with
          | going reading waits => exact .of_waiting (reading ▸ finished) waits
          | lost idle reading waits =>
              exact .of_waiting (reading ▸ .dropped finished.sound idle) waits
          | failed text idle reading last ending =>
              exact ⟨reading ▸ finished, (fun _ replied => by cases ending.symm.trans replied),
                fun _ => reading ▸ idle⟩
          | returned obj result idle reading last =>
              rw [LineReader.finish, List.getLast?_concat] at last
              cases last

theorem Hopeless.later (hopeless : Hopeless call) (later : Later lib call next) :
    Hopeless next := by
  induction later with
  | refl => exact hopeless
  | tail _ advances ih =>
      cases advances with
      | step stepped => exact ih.step (step_outcome ih.useless.sound stepped)
      | again ended polls pending abortFails =>
          refine ⟨ih.useless, fun obj => ?_, fun _ => ih.rests ended⟩
          unfold start
          split <;> exact fun replied => by cases replied
      | lost ended => exact ⟨.dropped ih.useless.sound (ih.rests ended), ih.none, ih.rests⟩

/-! ## Faults the link does not recover from -/

/-- `read_message` fails, and with it the call. -/
theorem Listening.fails (listening : Listening call reader) (busy : reader.point ≠ .idle)
    {text : String} (stepped : reader.step lib = some (reader'.finish (.error text))) :
    ∃ later, Later lib call later ∧ later.reader = reader'.finish (.error text) ∧
      later.ending = some (.readFailed text) := by
  obtain ⟨rfl, -, -, waits⟩ := listening
  have run : call.step lib = some (call.readOn (reader'.finish (.error text))) := by
    rw [step_reading waits busy, stepped, Option.map_some]
  refine ⟨_, .single (.step run), ?_⟩
  have last : (reader'.finish (.error text)).results.getLast? = some (.error text) :=
    List.getLast?_concat
  unfold readOn
  rw [last]
  exact ⟨rfl, rfl⟩

variable (stream) in
/-- A line that is too long is never got past. -/
theorem Listening.overlong (listening : Listening call reader) {ahead : Bytes}
    (between : LineReader.Between reader ahead) (long : OverLong ahead) :
    ∃ later, Later lib call later ∧ later.FramingFault ∧ ¬later.Recovers lib stream := by
  have sound : LineReader.Sound { reader with point := .fillLine } :=
    .filling between.sound.buffer rfl
  obtain ⟨last, reaches, here, full, -⟩ :=
    LineReader.reaches_full lib sound rfl between.connected (between.unread ▸ long)
  obtain ⟨middle, former, listens⟩ :=
    listening.follow between.sound (.head between.called reaches) full.connected
  have stepped : last.step lib =
      some (last.finish (.error "bridge sent an over-long line")) := by
    rw [LineReader.step, here]
    exact full.fillLine
  obtain ⟨later, run, reading, ending⟩ :=
    listens.fails (fun idle => by cases here.symm.trans idle) stepped
  refine ⟨later, former.trans run, ⟨_, List.mem_cons_self, ending⟩, ?_⟩
  rintro (closed | ⟨-, hope⟩)
  · rw [reading] at closed
    exact Bool.false_ne_true (closed.symm.trans full.connected)
  · refine hope fun deliveries final run => ?_
    have hopeless : Hopeless { later with reader := { later.reader with deliveries } } := by
      rw [reading, ending]
      exact ⟨.full ⟨.resting full.sound.buffer rfl, full.connected, full.absent, full.long⟩
        (.inl rfl), (fun _ replied => by cases replied), fun _ => rfl⟩
    exact (hopeless.later run).none

/-- Behind a line that states too much the next call reads what may be its payload. -/
theorem Listening.oversized (listening : Listening call reader) {line tail : Bytes}
    (between : LineReader.Between reader (line ++ newline :: tail)) (oneLine : newline ∉ line)
    (short : line.length < phomemoBridgeMaxLine)
    (whole : Boundary lib stream (line ++ newline :: tail))
    (refused : lineResult lib line = .error "bridge sent an invalid payload length")
    (sized : payloadBytes lib line ≠ some 0) :
    ∃ later, Later lib call later ∧ later.FramingFault ∧ ¬later.Recovers lib stream := by
  obtain ⟨reader', reaches, found⟩ := between.reaches_found lib oneLine short
  obtain ⟨middle, former, listens⟩ := listening.follow between.sound reaches found.connected
  obtain ⟨more, held, sent⟩ := found.held
  obtain ⟨buffer, -, still, rest, ⟨-, stepped⟩ | ⟨obj, accepted, -⟩⟩ :=
    LineReader.step_parse lib found.sound found.point held
  · rw [refused] at stepped
    obtain ⟨later, run, reading, ending⟩ := listens.fails
      (fun idle => by cases found.point.symm.trans idle) stepped
    refine ⟨later, former.trans run, ⟨_, by simp [framingFaults], ending⟩, ?_⟩
    rintro (closed | ⟨boundary, -⟩)
    · rw [reading] at closed
      exact Bool.false_ne_true (closed.symm.trans (still.trans found.connected))
    · rw [reading] at boundary
      have unread : buffer.held ++ Delivery.arriving reader'.deliveries = tail := rest ▸ sent
      exact not_boundary_behind oneLine whole sized (unread ▸ boundary)
  · rw [refused] at accepted
    cases accepted

/-- Where a link recovers from its faults, neither of the two comes next. -/
theorem Listening.tame {ahead : Bytes}
    (recover : ∀ later, Later lib call later → later.FramingFault → later.Recovers lib stream)
    (listening : Listening call reader) (between : LineReader.Between reader ahead)
    (whole : Boundary lib stream ahead) : ¬OverLong ahead ∧ ¬Oversized lib ahead := by
  have ends : ¬OverLong ahead := by
    intro long
    obtain ⟨later, run, fault, lost⟩ := listening.overlong stream between long
    exact lost (recover later run fault)
  refine ⟨ends, ?_⟩
  rintro ⟨line, tail, oneLine, rfl, size, stated, beyond⟩
  rcases lineResult_cases lib line with ⟨-, refused, -, sized⟩ | ⟨within, -⟩
  · obtain ⟨later, run, fault, lost⟩ := listening.oversized between oneLine
      (short_of_not_overLong oneLine ends) whole refused sized
    exact lost (recover later run fault)
  · exact within size stated beyond

/-- Such a link comes to every place between messages. -/
theorem Listening.reaches {ahead rest : Bytes}
    (recover : ∀ later, Later lib call later → later.FramingFault → later.Recovers lib stream)
    (listening : Listening call reader) (between : LineReader.Between reader ahead)
    (whole : Boundary lib stream ahead) (behind : Boundary lib ahead rest) :
    ¬OverLong rest ∧ ¬Oversized lib rest := by
  induction behind generalizing call reader with
  | here => exact listening.tame recover between whole
  | @behind line payload tail rest oneLine size _ ih =>
      obtain ⟨ends, fits⟩ := listening.tame recover between whole
      rcases lineResult_cases lib line with ⟨⟨stated, same, beyond⟩, -⟩ | ⟨-, skipped⟩
      · exact absurd ⟨line, payload ++ tail, oneLine, rfl, stated, same, beyond⟩ fits
      · have taken := Option.some.inj (size.symm.trans skipped)
        obtain ⟨next, reaches, further⟩ :=
          between.reaches_behind oneLine (short_of_not_overLong oneLine ends) taken
        obtain ⟨later, run, listens⟩ := listening.follow between.sound reaches further.connected
        exact ih (fun last rest => recover last (run.trans rest)) listens further
          (whole.trans (.behind oneLine size (.here tail)))

/-- Where every fault is recovered from, no message is one of the two. -/
theorem FaultsRecover.tame (recover : FaultsRecover lib stream) {rest : Bytes}
    (behind : Boundary lib stream rest) : ¬OverLong rest ∧ ¬Oversized lib rest := by
  have arriving : Delivery.arriving (Delivery.putBack stream []) = stream := by
    rw [Delivery.arriving_putBack]
    exact List.append_nil stream
  have between : LineReader.Between { deliveries := Delivery.putBack stream [] } stream :=
    ⟨.initial _, rfl, rfl, arriving⟩
  have listening := @Listening.started { deliveries := Delivery.putBack stream [] } rfl []
  exact listening.reaches (fun later run => recover _ _ _ _ later arriving run) between
    (.here stream) behind

/-! ## Calls that may still succeed -/

/-- `{"ok":true}`. -/
def okLine : Bytes := [123, 34, 111, 107, 34, 58, 116, 114, 117, 101, 125]

/-- Its object. -/
def okFields : Fields := [("ok", .bool true)]

/-- Whatever is buffered, something can follow it that leads to a reply. -/
theorem exists_answer (lib : CLibrary) (held : Bytes) (within : held.length ≤ phomemoBridgeMaxLine)
    (ends : newline ∈ held ∨ held.length < phomemoBridgeMaxLine) :
    ∃ future, ∀ reader, LineReader.Between reader (held ++ future) →
      ∃ last, LineReader.Reaches lib reader last ∧
        LineReader.Between last (okLine ++ [newline]) := by
  induction measure : held.length using Nat.strong_induction_on generalizing held with
  | _ bound ih =>
      by_cases present : newline ∈ held
      · obtain ⟨line, more, rfl, oneLine⟩ := List.eq_append_cons_of_mem present
        have lengths : (line ++ newline :: more).length = line.length + (more.length + 1) :=
          List.length_append
        have short : line.length < phomemoBridgeMaxLine := by omega
        by_cases enough : skippedBytes lib line ≤ more.length
        · have dropped := List.length_drop (i := skippedBytes lib line) (l := more)
          obtain ⟨future, answers⟩ := ih (more.drop (skippedBytes lib line)).length (by omega)
            (more.drop (skippedBytes lib line)) (by omega) (.inr (by omega)) rfl
          refine ⟨future, fun reader between => ?_⟩
          rw [List.append_assoc, List.cons_append, ← List.take_append_drop (skippedBytes lib line)
            more, List.append_assoc] at between
          obtain ⟨next, first, between⟩ :=
            between.reaches_behind oneLine short (List.length_take_of_le enough)
          obtain ⟨last, later, answered⟩ := answers next between
          exact ⟨last, first.trans later, answered⟩
        · refine ⟨List.replicate (skippedBytes lib line - more.length) 0 ++ (okLine ++ [newline]),
            fun reader between => ?_⟩
          rw [List.append_assoc, List.cons_append, ← List.append_assoc more] at between
          refine between.reaches_behind oneLine short ?_
          rw [List.length_append, List.length_replicate]
          omega
      · refine ⟨newline :: (List.replicate (skippedBytes lib held) 0 ++ (okLine ++ [newline])),
          fun reader between => ?_⟩
        exact between.reaches_behind present (ends.resolve_left present) List.length_replicate

theorem receive_ok (pending : Bytes) : receive pending okFields = .returned (.reply okFields) := by
  have noEvent : getObjectItem "event" okFields = none := rfl
  have noCommand : getObjectItem "cmd" okFields = none := rfl
  have accepted : replyResult okFields = .reply okFields := rfl
  simp [receive, noEvent, noCommand, isString, accepted]

/-- `read_message` returns a reply, and with it the call. -/
theorem Listening.answers (listening : Listening call reader) (busy : reader.point ≠ .idle)
    (stepped : reader.step lib = some (reader'.finish (.ok okFields))) :
    ∃ later, Later lib call later ∧ later.ending = some (.message (.reply okFields)) := by
  obtain ⟨rfl, -, -, waits⟩ := listening
  have run : call.step lib = some (call.readOn (reader'.finish (.ok okFields))) := by
    rw [step_reading waits busy, stepped, Option.map_some]
  refine ⟨_, .single (.step run), ?_⟩
  have last : (reader'.finish (.ok okFields)).results.getLast? = some (.ok okFields) :=
    List.getLast?_concat
  unfold readOn
  rw [last]
  dsimp only [LineReader.finish, ReplyCall.received]
  rw [receive_ok]

/-- A call that finds the line returns the reply. -/
theorem Listening.returns (parses : lib.parseWithLength okLine = some (.obj okFields))
    (listening : Listening call reader)
    (between : LineReader.Between reader (okLine ++ [newline])) :
    ∃ later, Later lib call later ∧ later.ending = some (.message (.reply okFields)) := by
  have result : lineResult lib okLine = .ok okFields := by
    rw [lineResult, parses]
    rfl
  have none_skipped : skippedBytes lib okLine = 0 := by
    rw [skippedBytes, parses]
    rfl
  have oneLine : newline ∉ okLine := by decide
  have short : okLine.length < phomemoBridgeMaxLine := by decide
  obtain ⟨found_reader, reaches, found⟩ := between.reaches_found lib oneLine short
  obtain ⟨more, held, -⟩ := found.held
  obtain ⟨buffer, kept, still, -, ⟨-, stepped⟩ | ⟨obj, accepted, stepped⟩⟩ :=
    LineReader.step_parse lib found.sound found.point held
  · obtain ⟨middle, former, listens⟩ := listening.follow between.sound reaches found.connected
    rw [result] at stepped
    obtain ⟨later, run, ending⟩ := listens.answers
      (fun idle => by cases found.point.symm.trans idle) stepped
    exact ⟨later, former.trans run, ending⟩
  · rw [none_skipped] at stepped
    obtain rfl := Except.ok.inj (result.symm.trans accepted)
    obtain ⟨middle, former, listens⟩ := listening.follow between.sound
      (reaches.trans (.head stepped .refl)) (still.trans found.connected)
    obtain ⟨later, run, ending⟩ := listens.answers (fun idle => by cases idle) rfl
    exact ⟨later, former.trans run, ending⟩

/-- After a call that has returned on an open link, a later one may succeed. -/
theorem not_mustFail (parses : lib.parseWithLength okLine = some (.obj okFields)) {ahead : Bytes}
    (ended : call.ending.isSome) (between : LineReader.Between call.reader ahead)
    (ends : ¬OverLong ahead) : ¬MustFail lib call := by
  intro fails
  have sound := between.sound.buffer
  have held_le : call.reader.buffer.held.length ≤ phomemoBridgeMaxLine :=
    sound.length_held.trans_le (sound.within.trans sound.lineSize_le)
  have bounded : newline ∈ call.reader.buffer.held ∨
      call.reader.buffer.held.length < phomemoBridgeMaxLine := by
    by_contra full
    obtain ⟨absent, long⟩ := not_or.mp full
    rw [← between.unread, LineReader.unread] at ends
    refine ends ⟨?_, ?_⟩
    · rw [List.length_append]
      omega
    · rw [List.take_append_of_le_length (not_lt.mp long)]
      exact fun member => absent (List.mem_of_mem_take member)
  obtain ⟨future, answer⟩ := exists_answer lib call.reader.buffer.held held_le bounded
  set deliveries := Delivery.putBack future [] with deliveries_eq
  have arriving : Delivery.arriving deliveries = future := by
    rw [deliveries_eq, Delivery.arriving_putBack]
    exact List.append_nil future
  have resumed : LineReader.Between { call.reader with deliveries }
      (call.reader.buffer.held ++ future) := by
    exact ⟨.resting sound between.idle, between.idle, between.connected, congrArg _ arriving⟩
  obtain ⟨last, reaches, answered⟩ := answer _ resumed
  have listening := @Listening.started { call.reader with deliveries } between.connected []
  obtain ⟨middle, former, listens⟩ :=
    listening.follow resumed.sound reaches answered.connected
  obtain ⟨later, run, ending⟩ := listens.returns parses answered
  let resumed_call : ReplyCall := { call with reader := { call.reader with deliveries } }
  have resumed_ended : resumed_call.ending.isSome := ended
  have again : Later lib resumed_call
      (start { call.reader with deliveries } [] [] fun _ _ => false) :=
    .single (.again resumed_ended [] [] fun _ _ => false)
  exact fails deliveries later (again.trans (former.trans run)) okFields ending

/-! ## Runs of a link -/

/-- Where `read_message` stands in a stream of messages. -/
inductive Place (lib : CLibrary) (stream : Bytes) (reader : LineReader) : Prop
  | closed (sound : reader.Sound) (closed : reader.buffer.connected = false)
      (nothing : reader.buffer.held = []) (idle : reader.point = .idle)
  | between (ahead : Bytes) (between : LineReader.Between reader ahead)
      (whole : Boundary lib stream ahead)
  | filling (sound : reader.Sound) (here : reader.point = .fillLine)
      (connected : reader.buffer.connected = true) (whole : Boundary lib stream reader.unread)
  | parsing (line tail : Bytes) (found : LineReader.Found reader line tail)
      (oneLine : newline ∉ line) (whole : Boundary lib stream (line ++ newline :: tail))
  | discarding (obj : Fields) (left : Nat) (line skipped : Bytes) (sound : reader.Sound)
      (here : reader.point = .discardPayload obj left)
      (connected : reader.buffer.connected = true) (oneLine : newline ∉ line)
      (size : payloadBytes lib line = some (skipped.length + left))
      (whole : Boundary lib stream (line ++ newline :: (skipped ++ reader.unread)))

theorem Place.sound (place : Place lib stream reader) : reader.Sound := by
  cases place with
  | closed sound => exact sound
  | between _ between => exact between.sound
  | filling sound => exact sound
  | parsing line tail found =>
      refine ⟨found.sound, fun here => ?_⟩
      obtain ⟨more, held, -⟩ := found.held
      have length := found.sound.length_held
      rw [held, List.length_append, List.length_cons] at length
      have same := found.point.symm.trans here
      cases same
      omega
  | discarding _ _ _ _ sound => exact sound

theorem Place.dropped (sound : reader.Sound) (idle : reader.point = .idle) :
    Place lib stream (dropped reader) :=
  .closed (Useless.dropped sound idle).sound rfl rfl idle

/-- The link is dropped inside `read_message`. -/
theorem Place.dropLink (reader : LineReader) (sound : reader.buffer.Sound) (text : String) :
    Place lib stream (reader.dropLink text) :=
  .closed (.resting sound.dropLink rfl) rfl rfl rfl

theorem Place.step (tame : ∀ rest, Boundary lib stream rest → ¬OverLong rest ∧ ¬Oversized lib rest)
    (place : Place lib stream reader) (busy : reader.point ≠ .idle)
    (stepped : reader.step lib = some reader') : Place lib stream reader' := by
  cases place with
  | closed _ _ _ idle => exact absurd idle busy
  | between _ between => exact absurd between.idle busy
  | filling sound here connected whole =>
      rw [LineReader.step, here] at stepped
      obtain ⟨_, same, outcome⟩ := LineReader.exists_fillLine lib sound.buffer
      obtain rfl := Option.some.inj (same.symm.trans stepped)
      cases outcome with
      | found first =>
          have present : newline ∈ reader.buffer.held := by
            by_contra absent
            rw [memchr_eq_none absent] at first
            cases first
          obtain ⟨line, more, held, oneLine⟩ := List.eq_append_cons_of_mem present
          rw [held, memchr_append oneLine] at first
          obtain rfl := Option.some.inj first
          rw [LineReader.unread, held, List.append_assoc, List.cons_append] at whole
          exact .parsing line _ ⟨sound.buffer, rfl, connected, more, held, rfl⟩ oneLine whole
      | overlong => exact .between _ ⟨.resting sound.buffer rfl, rfl, connected, rfl⟩ whole
      | filled grown still kept =>
          have later : Boundary lib stream (_ ++ _) := kept.symm ▸ whole
          exact .filling (.filling grown here) here
            (still.trans connected) later
      | dropped kept => exact .dropLink _ kept _
  | parsing line tail found oneLine whole =>
      obtain ⟨more, held, sent⟩ := found.held
      rcases lineResult_cases lib line with ⟨⟨stated, same, beyond⟩, -⟩ | ⟨-, skipped⟩
      · exact absurd ⟨line, tail, oneLine, rfl, stated, same, beyond⟩ (tame _ whole).2
      obtain ⟨buffer, kept, still, rest, ⟨none, read⟩ | ⟨obj, -, read⟩⟩ :=
        LineReader.step_parse lib found.sound found.point held
      · obtain rfl := Option.some.inj (read.symm.trans stepped)
        rw [none] at skipped
        have behind : Boundary lib (line ++ newline :: ([] ++ tail)) tail :=
          .behind oneLine skipped (.here tail)
        have unread : buffer.held ++ Delivery.arriving reader.deliveries = tail := rest ▸ sent
        exact .between tail ⟨.resting kept rfl, rfl, still.trans found.connected, unread⟩
          (whole.trans behind)
      · obtain rfl := Option.some.inj (read.symm.trans stepped)
        rw [← Nat.zero_add (skippedBytes lib line)] at skipped
        refine .discarding obj _ line [] (.discarding kept rfl) rfl (still.trans found.connected)
          oneLine skipped ?_
        rw [← sent, ← rest] at whole
        exact whole
  | discarding obj left line skipped sound here connected oneLine size whole =>
      rw [LineReader.step, here] at stepped
      obtain ⟨_, same, outcome⟩ := LineReader.exists_discardPayload lib sound.buffer here
      obtain rfl := Option.some.inj (same.symm.trans stepped)
      cases outcome with
      | finished nothing_left =>
          rw [nothing_left, Nat.add_zero] at size
          exact .between _ ⟨.resting sound.buffer rfl, rfl, connected, rfl⟩
            (whole.trans (.behind oneLine size (.here _)))
      | @skipped buffer deliveries bytes grown still fits split =>
          refine .discarding obj _ line (skipped ++ bytes) (.discarding grown rfl) rfl
            (still.trans connected) oneLine ?_ ?_
          · rw [size, List.length_append, Nat.add_assoc, Nat.add_sub_cancel' fits]
          · rw [split] at whole
            rw [List.append_assoc]
            exact whole
      | @dropped deliveries => exact .dropLink { reader with deliveries } sound.buffer _

/-- A call that has returned has left `read_message`. -/
structure Standing (lib : CLibrary) (stream : Bytes) (call : ReplyCall) : Prop where
  place : Place lib stream call.reader
  rests : call.ending.isSome → call.reader.point = .idle

theorem Standing.of_waiting (place : Place lib stream call.reader) (waits : call.ending = none) :
    Standing lib stream call :=
  ⟨place, fun ended => by rw [waits] at ended; cases ended⟩

theorem Standing.step
    (tame : ∀ rest, Boundary lib stream rest → ¬OverLong rest ∧ ¬Oversized lib rest)
    (standing : Standing lib stream call) (outcome : StepOutcome lib call next) :
    Standing lib stream next := by
  obtain ⟨place, rests⟩ := standing
  cases outcome with
  | rested ended same => exact same ▸ ⟨place, rests⟩
  | lost idle reading => exact ⟨reading ▸ .dropped place.sound idle, fun _ => reading ▸ idle⟩
  | waited idle reading waits => exact .of_waiting (reading ▸ place) waits
  | called idle some_data reading waits =>
      refine .of_waiting ?_ waits
      rw [reading]
      cases place with
      | between ahead between whole =>
          exact .filling (.filling between.sound.buffer rfl) rfl between.connected
            (between.unread.symm ▸ whole)
      | closed _ closed nothing =>
          rcases some_data with present | connected
          · rw [nothing] at present
            cases present
          · rw [closed] at connected
            cases connected
      | filling _ here => cases idle.symm.trans here
      | parsing _ _ found => cases idle.symm.trans found.point
      | discarding _ _ _ _ _ here => cases idle.symm.trans here
  | read reader busy stepped outcome =>
      have moved := place.step tame busy stepped
      cases outcome with
      | going reading waits => exact .of_waiting (reading ▸ moved) waits
      | lost idle reading waits => exact .of_waiting (reading ▸ .dropped moved.sound idle) waits
      | failed text idle reading => exact ⟨reading ▸ moved, fun _ => reading ▸ idle⟩
      | returned obj result idle reading => exact ⟨reading ▸ moved, fun _ => reading ▸ idle⟩

theorem Standing.later
    (tame : ∀ rest, Boundary lib stream rest → ¬OverLong rest ∧ ¬Oversized lib rest)
    (standing : Standing lib stream call) (later : Later lib call next) :
    Standing lib stream next := by
  induction later with
  | refl => exact standing
  | tail _ advances ih =>
      cases advances with
      | step stepped => exact ih.step tame (step_outcome ih.place.sound stepped)
      | again ended polls pending abortFails => exact ⟨ih.place, fun _ => ih.rests ended⟩
      | lost ended => exact ⟨.dropped ih.place.sound (ih.rests ended), ih.rests⟩

theorem Standing.started (deliveries : List (Delivery UInt8)) (polls : List Polled)
    (pending : Bytes) (abortFails : Nat → Option Fields → Bool) :
    Standing lib (Delivery.arriving deliveries) (start { deliveries } polls pending abortFails) :=
  ⟨.between _ ⟨.initial deliveries, rfl, rfl, rfl⟩ (.here _), fun _ => rfl⟩

/-- Faults are recovered from where no message is one of the two. -/
theorem Standing.recovers (parses : lib.parseWithLength okLine = some (.obj okFields))
    (tame : ∀ rest, Boundary lib stream rest → ¬OverLong rest ∧ ¬Oversized lib rest)
    (standing : Standing lib stream call) (fault : call.FramingFault) :
    call.Recovers lib stream := by
  obtain ⟨text, -, ending⟩ := fault
  have ended : call.ending.isSome := by
    rw [ending]
    rfl
  have idle := standing.rests ended
  cases standing.place with
  | closed _ closed => exact .inl closed
  | between ahead between whole =>
      exact .inr ⟨between.unread.symm ▸ whole,
        not_mustFail parses ended between (tame ahead whole).1⟩
  | filling _ here => cases idle.symm.trans here
  | parsing _ _ found => cases idle.symm.trans found.point
  | discarding _ _ _ _ _ here => cases idle.symm.trans here

/-- A link recovers from every fault of the stream it carries exactly when no message of the stream
has a line that is too long or states too much: the link is dropped, or the next call reads from
the start of a message and later calls may succeed. -/
theorem faultsRecover_iff (lib : CLibrary)
    (parses : lib.parseWithLength okLine = some (.obj okFields)) (stream : Bytes) :
    FaultsRecover lib stream ↔
      ∀ rest, Boundary lib stream rest → ¬OverLong rest ∧ ¬Oversized lib rest := by
  constructor
  · exact fun recover rest behind => recover.tame behind
  · rintro tame deliveries polls pending abortFails call rfl link fault
    exact ((Standing.started deliveries polls pending abortFails).later tame link).recovers parses
      tame fault

/-- A parser that knows one object. -/
def okLibrary : CLibrary where
  parseWithLength text := if text = okLine then some (.obj okFields) else none
  junk _ := 0

theorem statedSize_okLibrary (line : Bytes) : statedSize okLibrary line = none := by
  unfold statedSize okLibrary
  dsimp only
  split
  · rename_i obj parsed
    split at parsed
    · cases parsed
      rfl
    · cases parsed
  · rfl

/-- A line that is no JSON is recovered from. -/
theorem faultsRecover_iff_malformed : FaultsRecover okLibrary [120, newline] := by
  refine (faultsRecover_iff okLibrary rfl [120, newline]).mpr fun rest behind => ⟨?_, ?_⟩
  · intro long
    have le := long.1.trans behind.length_le
    exact absurd le (by decide)
  · rintro ⟨line, tail, -, -, size, stated, -⟩
    rw [statedSize_okLibrary] at stated
    cases stated

/-- A line that is too long is not. -/
theorem not_faultsRecover_overlong :
    okLibrary.parseWithLength okLine = some (.obj okFields) ∧
      ¬FaultsRecover okLibrary (List.replicate phomemoBridgeMaxLine 120) := by
  refine ⟨rfl, fun recover => ?_⟩
  have long : OverLong (List.replicate phomemoBridgeMaxLine 120) := by
    refine ⟨List.length_replicate.ge, fun member => ?_⟩
    have same : newline = 120 := List.eq_of_mem_replicate (List.mem_of_mem_take member)
    exact absurd same (by decide)
  exact (recover.tame (.here _)).1 long

end ReplyCall

end Phomemo
