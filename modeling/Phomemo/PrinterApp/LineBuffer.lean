import Phomemo.Async.Descriptor
import Phomemo.Bridge.Framing
import Phomemo.Manifest
import Phomemo.PrinterApp.BridgeClient

/-!
# The receive buffer of the printer app

`read_message` reads the lines of the bridge into a buffer that grows, and discards the payloads
that follow them.  A piece of the stream may end in a line and the next begin in a payload: the
buffer then holds the rest of one message and the start of others.
-/

namespace Phomemo

open Async Binary64

/-- `PHOMEMO_BRIDGE_MAX_LINE`. -/
def phomemoBridgeMaxLine : Nat := 64 * 1024

/-- `PHOMEMO_BRIDGE_MAX_PAYLOAD`. -/
def phomemoBridgeMaxPayload : Nat := 16 * 1024 * 1024

/-- What the client takes from its libraries. -/
structure CLibrary where
  /-- `cJSON_ParseWithLength`. -/
  parseWithLength : Bytes → Option Json
  /-- What memory holds that nothing has been written to. -/
  junk : Nat → UInt8

/-- A difference of sizes, which must not wrap. -/
def sizeSub (larger smaller : Nat) : Option Nat :=
  if smaller ≤ larger then some (larger - smaller) else none

/-- `memchr`, as an index. -/
def memchr (item : UInt8) (held : Bytes) : Option Nat :=
  if item ∈ held then some (held.idxOf item) else none

/-! ## The buffer -/

/-- `phomemo_bridge_t` without the request awaiting its reply. -/
structure ReceiveBuffer where
  /-- Whether `fd` is a socket. -/
  connected : Bool := true
  line : Memory UInt8 := []
  lineSize : Nat := 0
  lineLen : Nat := 0

namespace ReceiveBuffer

/-- `drop_link`. -/
def dropLink (buffer : ReceiveBuffer) : ReceiveBuffer :=
  { buffer with connected := false, lineLen := 0 }

/-- Make room where there is none. -/
def grow (lib : CLibrary) (buffer : ReceiveBuffer) : ReceiveBuffer :=
  if buffer.lineLen = buffer.lineSize then
    let size := if buffer.lineSize ≠ 0 then buffer.lineSize * 2 else 4096
    { buffer with line := buffer.line.resize size lib.junk, lineSize := size }
  else buffer

/-- `consume`. -/
def consume (count : Nat) (buffer : ReceiveBuffer) : Option ReceiveBuffer :=
  (sizeSub buffer.lineLen count).bind fun rest =>
    (buffer.line.move 0 count rest).map fun line => { buffer with line, lineLen := rest }

/-- The bytes that are buffered. -/
def held (buffer : ReceiveBuffer) : Bytes := buffer.line.take buffer.lineLen

/-- The sizes fit each other, and the buffer has doubled at most up to the limit of a line. -/
structure Sound (buffer : ReceiveBuffer) : Prop where
  allocated : buffer.line.length = buffer.lineSize
  within : buffer.lineLen ≤ buffer.lineSize
  doubled : buffer.lineSize = 0 ∨ ∃ times ≤ 4, buffer.lineSize = 4096 * 2 ^ times

end ReceiveBuffer

/-! ## Reading messages -/

/-- Where the client stands. -/
inductive ReadPoint where
  /-- Between two calls of `read_message`. -/
  | idle
  /-- At the loop of `fill_line`. -/
  | fillLine
  /-- `fill_line` has returned. -/
  | parse (len : Nat)
  /-- At the loop of `discard_payload`. -/
  | discardPayload (obj : Fields) (size : Nat)

/-- A client that calls `read_message` again and again.  It remembers what the calls returned, which
lines were parsed and which bytes were discarded. -/
structure LineReader where
  buffer : ReceiveBuffer := {}
  deliveries : List (Delivery UInt8)
  point : ReadPoint := .idle
  results : List (Except String Fields) := []
  parsed : List Bytes := []
  discarded : Bytes := []

/-- The length of the payload that follows a message, if one does. -/
def payloadLength (obj : Fields) : Except String (Option Nat) :=
  match getObjectItem "bytes" obj with
  | none => .ok none
  | some bytes =>
      let size := match bytes with
        | .int value => (Number.int value).toDouble
        | .float text => (Number.float text).toDouble
        | _ => .finite (-1)
      match size with
      | .finite value =>
          if value < 0 ∨ phomemoBridgeMaxPayload < value then
            .error "bridge sent an invalid payload length"
          else .ok (some (truncate value).toNat)
      | _ => .error "bridge sent an invalid payload length"

namespace LineReader

/-- `read_message` returns. -/
def finish (result : Except String Fields) (reader : LineReader) : LineReader :=
  { reader with point := .idle, results := reader.results ++ [result] }

/-- `drop_link`, and `read_message` returns an error. -/
def dropLink (text : String) (reader : LineReader) : LineReader :=
  { reader with buffer := reader.buffer.dropLink }.finish (.error text)

/-- A round of the loop of `fill_line`. -/
def fillLine (lib : CLibrary) (reader : LineReader) : Option LineReader :=
  (reader.buffer.line.load 0 reader.buffer.lineLen).bind fun held =>
    match memchr newline held with
    | some len => some { reader with point := .parse len }
    | none =>
        if phomemoBridgeMaxLine ≤ reader.buffer.lineLen then
          some (reader.finish (.error "bridge sent an over-long line"))
        else
          let buffer := reader.buffer.grow lib
          (sizeSub buffer.lineSize buffer.lineLen).bind fun room =>
            (Delivery.fill buffer.lineLen room buffer.line reader.deliveries).map
              fun (reading, line, deliveries) =>
                let reader := { reader with buffer := { buffer with line }, deliveries }
                match reading with
                | .interrupted => reader
                | .failed reason => reader.dropLink s!"read: {reason}"
                | .got [] => reader.dropLink "bridge closed the connection"
                | .got items =>
                    { reader with
                      buffer := { buffer with line, lineLen := buffer.lineLen + items.length } }

/-- A round of the loop of `discard_payload`. -/
def discardPayload (lib : CLibrary) (obj : Fields) (size : Nat) (reader : LineReader) :
    Option LineReader :=
  if size = 0 then some (reader.finish (.ok obj))
  else if reader.buffer.lineLen ≠ 0 then
    let take := if reader.buffer.lineLen < size then reader.buffer.lineLen else size
    (reader.buffer.consume take).map fun buffer =>
      { reader with
        buffer
        point := .discardPayload obj (size - take)
        discarded := reader.discarded ++ reader.buffer.held.take take }
  else
    let scratch : Memory UInt8 := (List.range 4096).map lib.junk
    let want := if size < 4096 then size else 4096
    (Delivery.fill 0 want scratch reader.deliveries).map fun (reading, scratch, deliveries) =>
      let reader := { reader with deliveries }
      match reading with
      | .interrupted => reader
      | .failed reason => reader.dropLink s!"read: {reason}"
      | .got [] => reader.dropLink "bridge closed the connection"
      | .got items =>
          { reader with
            point := .discardPayload obj (size - items.length)
            discarded := reader.discarded ++ scratch.take items.length }

/-- `read_message` once it has a line. -/
def parse (lib : CLibrary) (len : Nat) (reader : LineReader) : Option LineReader :=
  (reader.buffer.line.load 0 len).bind fun text =>
    (reader.buffer.consume (len + 1)).map fun buffer =>
      let reader := { reader with buffer, parsed := reader.parsed ++ [text] }
      match lib.parseWithLength text with
      | some (.obj obj) =>
          match payloadLength obj with
          | .error text => reader.finish (.error text)
          | .ok none => reader.finish (.ok obj)
          | .ok (some size) => { reader with point := .discardPayload obj size }
      | _ => reader.finish (.error "bridge sent malformed JSON")

/-- A step; there is none from an access outside its block.  Without a connection no message is
read any more. -/
def step (lib : CLibrary) (reader : LineReader) : Option LineReader :=
  match reader.point with
  | .idle =>
      if reader.buffer.connected then some { reader with point := .fillLine } else some reader
  | .fillLine => reader.fillLine lib
  | .parse len => reader.parse lib len
  | .discardPayload obj size => reader.discardPayload lib obj size

/-- The state after so many steps. -/
def after (lib : CLibrary) : Nat → LineReader → Option LineReader
  | 0, reader => some reader
  | steps + 1, reader => (reader.step lib).bind (after lib steps)

/-- What has been sent and is neither parsed nor discarded. -/
def unread (reader : LineReader) : Bytes :=
  reader.buffer.held ++ Delivery.arriving reader.deliveries

end LineReader

/-! ## Staying inside the buffer -/

theorem sizeSub_eq {larger smaller : Nat} (le : smaller ≤ larger) :
    sizeSub larger smaller = some (larger - smaller) :=
  if_pos le

namespace ReceiveBuffer

variable {lib : CLibrary} {buffer : ReceiveBuffer}

theorem Sound.initial : Sound {} := ⟨rfl, Nat.le_refl _, .inl rfl⟩

theorem Sound.lineSize_le (sound : buffer.Sound) : buffer.lineSize ≤ phomemoBridgeMaxLine := by
  rcases sound.doubled with zero | ⟨times, few, doubled⟩
  · omega
  · have power : 2 ^ times ≤ 2 ^ 4 := Nat.pow_le_pow_right (by omega) few
    simp only [phomemoBridgeMaxLine]
    omega

@[simp]
theorem Sound.length_held (sound : buffer.Sound) : buffer.held.length = buffer.lineLen := by
  have within := sound.within
  have allocated := sound.allocated
  simp [held]
  omega

theorem Sound.load (sound : buffer.Sound) {len : Nat} (short : len ≤ buffer.lineLen) :
    buffer.line.load 0 len = some (buffer.held.take len) := by
  have within := sound.within
  have allocated := sound.allocated
  rw [Memory.load_eq (by omega), List.drop_zero, held, List.take_take, Nat.min_eq_left short]

theorem Sound.dropLink (sound : buffer.Sound) : buffer.dropLink.Sound :=
  ⟨sound.allocated, Nat.zero_le _, sound.doubled⟩

variable (lib) in
/-- Below the limit there is room after growing, and the buffer holds what it held. -/
theorem Sound.grow (sound : buffer.Sound) (below : buffer.lineLen < phomemoBridgeMaxLine) :
    (buffer.grow lib).Sound ∧ (buffer.grow lib).lineLen < (buffer.grow lib).lineSize ∧
      (buffer.grow lib).lineLen = buffer.lineLen ∧ (buffer.grow lib).held = buffer.held ∧
      (buffer.grow lib).connected = buffer.connected := by
  have within := sound.within
  have allocated := sound.allocated
  unfold ReceiveBuffer.grow
  by_cases full : buffer.lineLen = buffer.lineSize
  · rw [if_pos full]
    have larger : ∃ times ≤ 4,
        (if buffer.lineSize ≠ 0 then buffer.lineSize * 2 else 4096) = 4096 * 2 ^ times ∧
          buffer.lineSize < 4096 * 2 ^ times := by
      rcases sound.doubled with zero | ⟨times, few, doubled⟩
      · exact ⟨0, by omega, by simp [zero], by omega⟩
      · have positive := Nat.two_pow_pos times
        have fewer : times ≠ 4 := by
          rintro rfl
          simp only [phomemoBridgeMaxLine] at below
          omega
        refine ⟨times + 1, by omega, ?_, by rw [Nat.pow_succ]; omega⟩
        rw [if_pos (by omega), doubled, Nat.pow_succ, Nat.mul_assoc]
    obtain ⟨times, few, doubled, grown⟩ := larger
    dsimp only
    rw [doubled]
    have longer : buffer.line.length ≤ 4096 * 2 ^ times := by omega
    have room : buffer.lineLen < 4096 * 2 ^ times := by omega
    have inside : buffer.lineLen ≤ buffer.line.length := by omega
    exact ⟨⟨Memory.resize_length _ longer, room.le, .inr ⟨times, few, rfl⟩⟩, room, rfl,
      Memory.resize_take _ inside longer, rfl⟩
  · rw [if_neg full]
    exact ⟨sound, by omega, rfl, rfl, rfl⟩

/-- What is consumed is what was held first. -/
theorem Sound.consume (sound : buffer.Sound) {count : Nat} (short : count ≤ buffer.lineLen) :
    ∃ rest : ReceiveBuffer, buffer.consume count = some rest ∧ rest.Sound ∧
      rest.held = buffer.held.drop count ∧ rest.connected = buffer.connected := by
  have within := sound.within
  have allocated := sound.allocated
  obtain ⟨line, moved, same, front⟩ := Memory.exists_move short (allocated ▸ within)
  refine ⟨{ buffer with line, lineLen := buffer.lineLen - count }, ?_, ?_, front, rfl⟩
  · simp [ReceiveBuffer.consume, sizeSub_eq short, moved]
  · exact ⟨same.trans allocated, (Nat.sub_le _ _).trans within, sound.doubled⟩

end ReceiveBuffer

/-! ## Rounds of the loops -/

theorem memchr_eq_none {item : UInt8} {held : Bytes} (absent : item ∉ held) :
    memchr item held = none :=
  if_neg absent

theorem memchr_append {item : UInt8} {before after : Bytes} (absent : item ∉ before) :
    memchr item (before ++ item :: after) = some before.length := by
  rw [memchr, if_pos (by simp), List.idxOf_append_of_notMem absent, List.idxOf_cons_self]
  rfl

namespace LineReader

variable {lib : CLibrary} {reader : LineReader}

/-- What a round of `fill_line` comes to. -/
inductive FillOutcome (reader : LineReader) : LineReader → Prop
  | found {len : Nat} (first : memchr newline reader.buffer.held = some len) :
      FillOutcome reader { reader with point := .parse len }
  | overlong (absent : newline ∉ reader.buffer.held)
      (long : phomemoBridgeMaxLine ≤ reader.buffer.held.length) (text : String) :
      FillOutcome reader (reader.finish (.error text))
  /-- Something has been read, or a signal has come. -/
  | filled {buffer : ReceiveBuffer} {deliveries : List (Delivery UInt8)} (sound : buffer.Sound)
      (connected : buffer.connected = reader.buffer.connected)
      (kept : buffer.held ++ Delivery.arriving deliveries = reader.unread)
      (progress : Delivery.remaining deliveries < Delivery.remaining reader.deliveries) :
      FillOutcome reader { reader with buffer, deliveries }
  | dropped {buffer : ReceiveBuffer} {deliveries : List (Delivery UInt8)} (sound : buffer.Sound)
      (absent : newline ∉ reader.buffer.held)
      (nothing : Delivery.arriving reader.deliveries = []) (text : String) :
      FillOutcome reader ({ reader with buffer, deliveries }.dropLink text)

variable (lib) in
/-- A round of `fill_line` stays inside the buffer. -/
theorem exists_fillLine (sound : reader.buffer.Sound) :
    ∃ next, reader.fillLine lib = some next ∧ FillOutcome reader next := by
  have loaded : reader.buffer.line.load 0 reader.buffer.lineLen = some reader.buffer.held := by
    rw [sound.load (Nat.le_refl _), ← sound.length_held, List.take_length]
  simp only [fillLine, loaded, Option.bind_some]
  cases first : memchr newline reader.buffer.held with
  | some len => exact ⟨_, rfl, .found first⟩
  | none =>
      have absent : newline ∉ reader.buffer.held := by
        intro present
        simp [memchr, present] at first
      dsimp only
      by_cases long : phomemoBridgeMaxLine ≤ reader.buffer.lineLen
      · exact ⟨_, if_pos long, .overlong absent (sound.length_held.symm ▸ long) _⟩
      rw [if_neg long]
      obtain ⟨grown, room, sameLen, sameHeld, connected⟩ := sound.grow lib (by omega)
      generalize reader.buffer.grow lib = buffer at grown room sameLen sameHeld connected
      have inside : buffer.lineLen + (buffer.lineSize - buffer.lineLen) ≤ buffer.line.length := by
        rw [grown.allocated]
        omega
      obtain ⟨reading, line, deliveries, received, splits, same, before, front⟩ :=
        Delivery.exists_fill (by omega) inside reader.deliveries
      have filled : ReceiveBuffer.Sound { buffer with line } :=
        ⟨same.trans grown.allocated, grown.within, grown.doubled⟩
      simp only [sizeSub_eq grown.within, Option.bind_some, received, Option.map_some]
      cases splits with
      | interrupted arriving progress =>
          refine ⟨_, rfl, .filled filled connected ?_ progress⟩
          have held : ReceiveBuffer.held { buffer with line } = reader.buffer.held :=
            before.trans sameHeld
          rw [held, unread, arriving]
      | failed nothing => exact ⟨_, rfl, .dropped filled absent nothing _⟩
      | closed nothing => exact ⟨_, rfl, .dropped filled absent nothing _⟩
      | @got items _ some_got fits split progress =>
          obtain ⟨first, rest, rfl⟩ := List.exists_cons_of_ne_nil some_got
          refine ⟨_, rfl, .filled ?_ connected ?_ progress⟩
          · exact ⟨filled.allocated, by have := grown.within; dsimp only; omega, grown.doubled⟩
          · have held := (front _ rfl).trans (congrArg (· ++ first :: rest) sameHeld)
            rw [unread, split, ← List.append_assoc, ← held]
            rfl

/-- What a round of `discard_payload` comes to. -/
inductive DiscardOutcome (reader : LineReader) (obj : Fields) (size : Nat) : LineReader → Prop
  | finished (nothing_left : size = 0) :
      DiscardOutcome reader obj size (reader.finish (.ok obj))
  /-- Something has been skipped, or a signal has come. -/
  | skipped {buffer : ReceiveBuffer} {deliveries : List (Delivery UInt8)} {bytes : Bytes}
      (sound : buffer.Sound) (connected : buffer.connected = reader.buffer.connected)
      (fits : bytes.length ≤ size)
      (split : reader.unread = bytes ++ (buffer.held ++ Delivery.arriving deliveries))
      (progress : size - bytes.length + Delivery.remaining deliveries <
        size + Delivery.remaining reader.deliveries) :
      DiscardOutcome reader obj size
        { reader with
          buffer
          deliveries
          point := .discardPayload obj (size - bytes.length)
          discarded := reader.discarded ++ bytes }
  | dropped {deliveries : List (Delivery UInt8)} (some_left : size ≠ 0)
      (nothing : reader.unread = []) (text : String) :
      DiscardOutcome reader obj size ({ reader with deliveries }.dropLink text)

variable (lib) in
/-- A round of `discard_payload` stays inside its buffers. -/
theorem exists_discardPayload (sound : reader.buffer.Sound) {obj : Fields} {size : Nat}
    (here : reader.point = .discardPayload obj size) :
    ∃ next, reader.discardPayload lib obj size = some next ∧
      DiscardOutcome reader obj size next := by
  unfold discardPayload
  by_cases nothing_left : size = 0
  · exact ⟨_, if_pos nothing_left, .finished nothing_left⟩
  rw [if_neg nothing_left]
  by_cases some_held : reader.buffer.lineLen ≠ 0
  · rw [if_pos some_held]
    generalize taken : (if reader.buffer.lineLen < size then reader.buffer.lineLen else size) = take
    have bounds : 0 < take ∧ take ≤ size ∧ take ≤ reader.buffer.lineLen := by
      subst taken
      split <;> omega
    obtain ⟨positive, within, short⟩ := bounds
    obtain ⟨buffer, consumed, kept, held, connected⟩ := sound.consume short
    have length_taken : (reader.buffer.held.take take).length = take := by
      rw [List.length_take, sound.length_held, Nat.min_eq_left short]
    refine ⟨_, by simp only [consumed, Option.map_some]; rfl, ?_⟩
    have outcome : DiscardOutcome reader obj size
        { reader with
          buffer
          deliveries := reader.deliveries
          point := .discardPayload obj (size - (reader.buffer.held.take take).length)
          discarded := reader.discarded ++ reader.buffer.held.take take } :=
      .skipped kept connected (by omega)
        (by rw [held, unread, ← List.append_assoc, List.take_append_drop]) (by omega)
    rw [length_taken] at outcome
    exact outcome
  · have none_held : reader.buffer.held = [] := by
      apply List.eq_nil_of_length_eq_zero
      rw [sound.length_held]
      omega
    rw [if_neg some_held]
    generalize wanted : (if size < 4096 then size else 4096) = want
    have bounds : 0 < want ∧ want ≤ size ∧ want ≤ 4096 := by
      subst wanted
      split <;> omega
    obtain ⟨positive, within, short⟩ := bounds
    have inside : 0 + want ≤ ((List.range 4096).map lib.junk).length := by simpa using short
    obtain ⟨reading, scratch, deliveries, received, splits, -, -, front⟩ :=
      Delivery.exists_fill positive inside reader.deliveries
    simp only [received, Option.map_some]
    have unread_eq : reader.unread = Delivery.arriving reader.deliveries := by
      rw [unread, none_held, List.nil_append]
    cases splits with
    | interrupted arriving progress =>
        refine ⟨_, rfl, ?_⟩
        have outcome : DiscardOutcome reader obj size
            { reader with
              deliveries
              point := .discardPayload obj (size - ([] : Bytes).length)
              discarded := reader.discarded ++ [] } :=
          .skipped sound rfl (Nat.zero_le _) (by rw [unread, arriving]; rfl)
            (by simpa using progress)
        rw [List.append_nil, List.length_nil, Nat.sub_zero, ← here] at outcome
        exact outcome
    | failed nothing => exact ⟨_, rfl, .dropped nothing_left (unread_eq.trans nothing) _⟩
    | closed nothing => exact ⟨_, rfl, .dropped nothing_left (unread_eq.trans nothing) _⟩
    | @got items _ some_got fits split progress =>
        obtain ⟨first, rest, rfl⟩ := List.exists_cons_of_ne_nil some_got
        refine ⟨_, rfl, ?_⟩
        have gotten : scratch.take (first :: rest).length = first :: rest := by
          simpa using front _ rfl
        dsimp only
        rw [gotten]
        exact .skipped sound rfl (fits.trans within)
          (by rw [unread_eq, split, none_held, List.nil_append]) (by omega)

variable (lib) in
/-- A line that has been found is taken out of the buffer whole. -/
theorem exists_parse (sound : reader.buffer.Sound) {len : Nat}
    (found : len < reader.buffer.lineLen) :
    ∃ buffer : ReceiveBuffer, buffer.Sound ∧ buffer.connected = reader.buffer.connected ∧
      buffer.held = reader.buffer.held.drop (len + 1) ∧
      reader.parse lib len = some
        (let text := reader.buffer.held.take len
         let reader := { reader with buffer, parsed := reader.parsed ++ [text] }
         match lib.parseWithLength text with
         | some (.obj obj) =>
             match payloadLength obj with
             | .error text => reader.finish (.error text)
             | .ok none => reader.finish (.ok obj)
             | .ok (some size) => { reader with point := .discardPayload obj size }
         | _ => reader.finish (.error "bridge sent malformed JSON")) := by
  obtain ⟨buffer, consumed, kept, held, connected⟩ := sound.consume (Nat.succ_le_of_lt found)
  refine ⟨buffer, kept, connected, held, ?_⟩
  simp only [parse, sound.load found.le, Option.bind_some, consumed, Option.map_some]

/-! ## Runs -/

/-- The buffer is sound, and a line that has been found lies in it. -/
structure Sound (reader : LineReader) : Prop where
  buffer : reader.buffer.Sound
  found : ∀ {len : Nat}, reader.point = .parse len → len < reader.buffer.lineLen

theorem Sound.resting (sound : reader.buffer.Sound) (here : reader.point = .idle) :
    reader.Sound :=
  ⟨sound, fun found => by cases here.symm.trans found⟩

theorem Sound.filling (sound : reader.buffer.Sound) (here : reader.point = .fillLine) :
    reader.Sound :=
  ⟨sound, fun found => by cases here.symm.trans found⟩

theorem Sound.discarding {obj : Fields} {left : Nat} (sound : reader.buffer.Sound)
    (here : reader.point = .discardPayload obj left) : reader.Sound :=
  ⟨sound, fun found => by cases here.symm.trans found⟩

theorem Sound.initial (deliveries : List (Delivery UInt8)) : Sound { deliveries } :=
  .resting ReceiveBuffer.Sound.initial rfl

theorem FillOutcome.sound (sound : reader.buffer.Sound) (here : reader.point = .fillLine)
    {next : LineReader} (outcome : FillOutcome reader next) : next.Sound := by
  cases outcome with
  | @found len first =>
      refine ⟨sound, ?_⟩
      rintro _ ⟨⟩
      rw [memchr] at first
      split at first
      · rename_i present
        cases first
        exact sound.length_held ▸ List.idxOf_lt_length_iff.mpr present
      · cases first
  | overlong => exact .resting sound rfl
  | filled kept => exact .filling kept here
  | dropped kept => exact .resting kept.dropLink rfl

theorem DiscardOutcome.sound (sound : reader.buffer.Sound) {obj : Fields} {size : Nat}
    {next : LineReader} (outcome : DiscardOutcome reader obj size next) : next.Sound := by
  cases outcome with
  | finished => exact .resting sound rfl
  | skipped kept => exact .discarding kept rfl
  | dropped => exact .resting sound.dropLink rfl

theorem FillOutcome.results {next : LineReader} (outcome : FillOutcome reader next) :
    reader.results <+: next.results := by
  cases outcome with
  | found => exact List.prefix_rfl
  | overlong => exact List.prefix_append _ _
  | filled => exact List.prefix_rfl
  | dropped => exact List.prefix_append _ _

theorem DiscardOutcome.results {obj : Fields} {size : Nat} {next : LineReader}
    (outcome : DiscardOutcome reader obj size next) : reader.results <+: next.results := by
  cases outcome with
  | finished => exact List.prefix_append _ _
  | skipped => exact List.prefix_rfl
  | dropped => exact List.prefix_append _ _

variable (lib) in
/-- Every step stays inside the buffer, and what has been returned stays returned. -/
theorem Sound.step (sound : reader.Sound) :
    ∃ next, reader.step lib = some next ∧ next.Sound ∧ reader.results <+: next.results := by
  unfold LineReader.step
  cases here : reader.point with
  | idle =>
      dsimp only
      split
      · exact ⟨_, rfl, .filling sound.buffer rfl, List.prefix_rfl⟩
      · exact ⟨_, rfl, sound, List.prefix_rfl⟩
  | fillLine =>
      obtain ⟨next, stepped, outcome⟩ := exists_fillLine lib sound.buffer
      exact ⟨next, stepped, outcome.sound sound.buffer here, outcome.results⟩
  | discardPayload obj size =>
      obtain ⟨next, stepped, outcome⟩ := exists_discardPayload lib sound.buffer here
      exact ⟨next, stepped, outcome.sound sound.buffer, outcome.results⟩
  | parse len =>
      obtain ⟨buffer, kept, -, -, stepped⟩ := exists_parse lib sound.buffer (sound.found here)
      refine ⟨_, stepped, ?_⟩
      dsimp only
      split
      · split
        · exact ⟨.resting kept rfl, List.prefix_append _ _⟩
        · exact ⟨.resting kept rfl, List.prefix_append _ _⟩
        · exact ⟨.discarding kept rfl, List.prefix_rfl⟩
      · exact ⟨.resting kept rfl, List.prefix_append _ _⟩

variable (lib) in
/-- Every run stays inside the buffer. -/
theorem Sound.after (sound : reader.Sound) (steps : Nat) :
    ∃ next, after lib steps reader = some next ∧ next.Sound ∧ reader.results <+: next.results := by
  induction steps generalizing reader with
  | zero => exact ⟨reader, rfl, sound, List.prefix_rfl⟩
  | succ steps ih =>
      obtain ⟨next, stepped, kept, former⟩ := sound.step lib
      obtain ⟨last, run, kept, later⟩ := ih kept
      exact ⟨last, by simp [LineReader.after, stepped, run], kept, former.trans later⟩

/-- A run leads from one state to another. -/
def Reaches (lib : CLibrary) (reader next : LineReader) : Prop :=
  ∃ steps, after lib steps reader = some next

theorem after_add (first second : Nat) (reader : LineReader) :
    after lib (first + second) reader = (after lib first reader).bind (after lib second) := by
  induction first generalizing reader with
  | zero => simp [after]
  | succ first ih =>
      rw [Nat.succ_add, after, after, Option.bind_assoc]
      exact congrArg _ (funext ih)

theorem Reaches.refl : Reaches lib reader reader := ⟨0, rfl⟩

theorem Reaches.head {next last : LineReader} (stepped : reader.step lib = some next)
    (later : Reaches lib next last) : Reaches lib reader last := by
  obtain ⟨steps, run⟩ := later
  exact ⟨steps + 1, by simp [after, stepped, run]⟩

theorem Reaches.trans {next last : LineReader} (former : Reaches lib reader next)
    (later : Reaches lib next last) : Reaches lib reader last := by
  obtain ⟨first, run⟩ := former
  obtain ⟨second, rerun⟩ := later
  exact ⟨first + second, by rw [after_add, run]; exact rerun⟩

/-- The loop of `fill_line` finds the line. -/
theorem reaches_parse (sound : reader.Sound) (here : reader.point = .fillLine) {line tail : Bytes}
    (oneLine : newline ∉ line) (short : line.length < phomemoBridgeMaxLine)
    (sent : reader.unread = line ++ newline :: tail) :
    ∃ (buffer : ReceiveBuffer) (deliveries : List (Delivery UInt8)), buffer.Sound ∧
      buffer.connected = reader.buffer.connected ∧
      (∃ more, buffer.held = line ++ newline :: more ∧
        more ++ Delivery.arriving deliveries = tail) ∧
      Reaches lib reader { reader with buffer, deliveries, point := .parse line.length } := by
  induction measure : Delivery.remaining reader.deliveries using Nat.strong_induction_on
    generalizing reader with
  | _ bound ih =>
      obtain ⟨next, stepped, outcome⟩ := exists_fillLine lib sound.buffer
      have kept := outcome.sound sound.buffer here
      have run : reader.step lib = some next := by rw [LineReader.step, here]; exact stepped
      have within : reader.buffer.held <+: line ++ newline :: tail := ⟨_, sent⟩
      have split := prefix_separated oneLine within
      cases outcome with
      | @found len first =>
          rcases split with ⟨absent, -⟩ | ⟨more, held, -⟩
          · rw [memchr_eq_none absent] at first
            cases first
          · rw [held, memchr_append oneLine] at first
            cases first
            refine ⟨reader.buffer, reader.deliveries, sound.buffer, rfl, ⟨more, held, ?_⟩,
              .head run .refl⟩
            rw [unread, held, List.append_assoc, List.cons_append] at sent
            exact (List.cons.inj (List.append_cancel_left sent)).2
      | overlong absent long =>
          rcases split with ⟨-, few⟩ | ⟨more, held, -⟩
          · omega
          · simp [held] at absent
      | dropped _ absent nothing =>
          rw [unread, nothing, List.append_nil] at sent
          simp [sent] at absent
      | filled grown connected same progress =>
          obtain ⟨buffer, deliveries, final, still, found, later⟩ :=
            ih _ (measure ▸ progress) kept here (same.trans sent) rfl
          exact ⟨buffer, deliveries, final, still.trans connected, found, .head run later⟩

/-- The loop of `discard_payload` skips the payload and nothing else. -/
theorem reaches_finish (sound : reader.Sound) {obj : Fields} {payload tail : Bytes}
    (here : reader.point = .discardPayload obj payload.length)
    (sent : reader.unread = payload ++ tail) :
    ∃ (buffer : ReceiveBuffer) (deliveries : List (Delivery UInt8)), buffer.Sound ∧
      buffer.connected = reader.buffer.connected ∧
      buffer.held ++ Delivery.arriving deliveries = tail ∧
      Reaches lib reader
        ({ reader with
          buffer, deliveries, discarded := reader.discarded ++ payload }.finish (.ok obj)) := by
  induction measure : payload.length + Delivery.remaining reader.deliveries
    using Nat.strong_induction_on generalizing reader payload with
  | _ bound ih =>
      obtain ⟨next, stepped, outcome⟩ := exists_discardPayload lib sound.buffer here
      have kept := outcome.sound sound.buffer
      have run : reader.step lib = some next := by rw [LineReader.step, here]; exact stepped
      cases outcome with
      | finished nothing_left =>
          obtain rfl := List.eq_nil_of_length_eq_zero nothing_left
          refine ⟨reader.buffer, reader.deliveries, sound.buffer, rfl, sent, ?_⟩
          rw [List.append_nil]
          exact .head run .refl
      | dropped some_left nothing =>
          rw [nothing] at sent
          obtain ⟨rfl, -⟩ := List.append_eq_nil_iff.mp sent.symm
          exact absurd rfl some_left
      | @skipped buffer deliveries bytes grown connected fits split progress =>
          obtain ⟨left, rfl⟩ : ∃ left, payload = bytes ++ left := by
            refine List.prefix_of_prefix_length_le ?_ (List.prefix_append payload tail) fits |>.imp
              fun _ => Eq.symm
            exact ⟨_, (split.symm.trans sent)⟩
          have rest : buffer.held ++ Delivery.arriving deliveries = left ++ tail := by
            rw [split, List.append_assoc] at sent
            exact List.append_cancel_left sent
          have size : (bytes ++ left).length - bytes.length = left.length := by simp
          rw [size] at progress kept run
          obtain ⟨last, later, final, still, same, reached⟩ :=
            ih _ (measure ▸ progress) kept rfl rest rfl
          refine ⟨last, later, final, still.trans connected, same, .head run ?_⟩
          rw [List.append_assoc] at reached
          exact reached

end LineReader

/-! ## Messages -/

/-- A message of the bridge: its line, the object the line stands for and the payload. -/
structure WireMessage where
  line : Bytes
  obj : Fields
  payload : Bytes

namespace WireMessage

/-- The bytes of a message. -/
def encode (message : WireMessage) : Bytes := message.line ++ newline :: message.payload

/-- The wire format: a line of JSON, and the payload it announces. -/
structure InFormat (lib : CLibrary) (message : WireMessage) : Prop where
  oneLine : newline ∉ message.line
  line_short : (message.line ++ [newline]).length ≤ phomemoBridgeMaxLine
  parses : lib.parseWithLength message.line = some (.obj message.obj)
  payload_short : message.payload.length ≤ phomemoBridgeMaxPayload
  announced : assocGet "bytes" message.obj = some (.int message.payload.length) ∨
    message.payload = [] ∧ assocGet "bytes" message.obj = none

/-- No other key is mistaken for `bytes`: the first that equals it but for letter case, if there
is one, equals it. -/
def Unmistaken (message : WireMessage) : Prop :=
  getObjectItem "bytes" message.obj = assocGet "bytes" message.obj

/-- The client finds the length that was announced. -/
theorem InFormat.payloadLength_eq {lib : CLibrary} {message : WireMessage}
    (inFormat : message.InFormat lib) (unmistaken : message.Unmistaken) :
    payloadLength message.obj = .ok (some message.payload.length) ∨
      message.payload = [] ∧ payloadLength message.obj = .ok none := by
  unfold payloadLength
  rw [show getObjectItem "bytes" message.obj = assocGet "bytes" message.obj from unmistaken]
  rcases inFormat.announced with announced | ⟨empty, absent⟩
  · left
    have short := inFormat.payload_short
    have exact_size : (Number.int message.payload.length).toDouble =
        .finite ((message.payload.length : Int) : ℚ) := by
      refine Double.ofRat_intCast ?_
      rw [abs_of_nonneg (Int.natCast_nonneg _)]
      simp only [phomemoBridgeMaxPayload] at short
      omega
    have within : ¬(((message.payload.length : Int) : ℚ) < 0 ∨
        (phomemoBridgeMaxPayload : ℚ) < ((message.payload.length : Int) : ℚ)) := by
      push_cast
      rw [not_or, not_lt, not_lt]
      exact ⟨Nat.cast_nonneg _, by exact_mod_cast short⟩
    rw [announced]
    simp only [exact_size, if_neg within, Double.truncate_intCast, Int.toNat_natCast]
  · exact .inr ⟨empty, by rw [absent]⟩

end WireMessage

namespace LineReader

variable {lib : CLibrary}

/-- One call of `read_message` takes one message from the stream. -/
theorem reaches_message {reader : LineReader} (sound : reader.Sound) (here : reader.point = .idle)
    (connected : reader.buffer.connected) {message : WireMessage}
    (inFormat : message.InFormat lib) (unmistaken : message.Unmistaken) {tail : Bytes}
    (sent : reader.unread = message.encode ++ tail) :
    ∃ next : LineReader, next.Sound ∧ next.point = .idle ∧ next.buffer.connected ∧
      next.unread = tail ∧ next.results = reader.results ++ [.ok message.obj] ∧
      next.parsed = reader.parsed ++ [message.line] ∧
      next.discarded = reader.discarded ++ message.payload ∧ Reaches lib reader next := by
  have called : reader.step lib = some { reader with point := .fillLine } := by
    rw [step, here]
    exact if_pos connected
  rw [WireMessage.encode, List.append_assoc, List.cons_append] at sent
  have short : message.line.length < phomemoBridgeMaxLine := by
    have line_short := inFormat.line_short
    rw [List.length_append] at line_short
    exact line_short
  obtain ⟨buffer, deliveries, kept, still, ⟨more, held, rest⟩, found⟩ :=
    @reaches_parse lib { reader with point := .fillLine } (.filling sound.buffer rfl) rfl _ _
      inFormat.oneLine short sent
  have within : message.line.length < buffer.lineLen := by
    rw [← kept.length_held, held]
    simp
  obtain ⟨buffer', kept', still', held', parsed⟩ := @exists_parse lib
    { reader with buffer, deliveries, point := .parse message.line.length } kept _ within
  have text : buffer.held.take message.line.length = message.line := by
    rw [held, List.take_left]
  have left : buffer'.held ++ Delivery.arriving deliveries = message.payload ++ tail := by
    rw [held', held, List.drop_append, List.drop_of_length_le (by simp), Nat.add_sub_cancel_left,
      List.nil_append, List.drop_one, List.tail_cons]
    exact rest
  simp only [text, inFormat.parses] at parsed
  have first : Reaches lib reader
      { reader with buffer, deliveries, point := .parse message.line.length } :=
    .head called found
  rcases inFormat.payloadLength_eq unmistaken with size | ⟨empty, absent⟩
  · simp only [size] at parsed
    obtain ⟨buffer'', deliveries', kept'', still'', same, finished⟩ :=
      @reaches_finish lib
        { reader with
          buffer := buffer', deliveries, parsed := reader.parsed ++ [message.line]
          point := .discardPayload message.obj message.payload.length }
        (.discarding kept' rfl) _ _ _ rfl left
    refine ⟨_, ?_, rfl, ?_, ?_, rfl, rfl, rfl, first.trans (.head parsed finished)⟩
    · exact .resting kept'' rfl
    · exact (still''.trans (still'.trans still)).trans connected
    · exact same
  · simp only [absent] at parsed
    rw [empty, List.nil_append] at left
    refine ⟨_, ?_, rfl, ?_, ?_, rfl, rfl, ?_, first.trans (.head parsed .refl)⟩
    · exact .resting kept' rfl
    · exact (still'.trans still).trans connected
    · exact left
    · rw [empty, List.append_nil]
      rfl

/-- The calls take all the messages from the stream, one after the other. -/
theorem reaches_messages {reader : LineReader} (sound : reader.Sound) (here : reader.point = .idle)
    (connected : reader.buffer.connected) {messages : List WireMessage}
    (inFormat : ∀ message ∈ messages, message.InFormat lib)
    (unmistaken : ∀ message ∈ messages, message.Unmistaken) {tail : Bytes}
    (sent : reader.unread = messages.flatMap WireMessage.encode ++ tail) :
    ∃ next : LineReader, next.point = .idle ∧ next.unread = tail ∧
      next.results = reader.results ++ messages.map (.ok ·.obj) ∧
      next.parsed = reader.parsed ++ messages.map WireMessage.line ∧
      next.discarded = reader.discarded ++ messages.flatMap WireMessage.payload ∧
      Reaches lib reader next := by
  induction messages generalizing reader with
  | nil => exact ⟨reader, here, sent, by simp, by simp, by simp, .refl⟩
  | cons message messages ih =>
      obtain ⟨first_inFormat, inFormat⟩ := List.forall_mem_cons.mp inFormat
      obtain ⟨first_unmistaken, unmistaken⟩ := List.forall_mem_cons.mp unmistaken
      rw [List.flatMap_cons, List.append_assoc] at sent
      obtain ⟨next, kept, idle, still, rest, returned, parsed, discarded, first⟩ :=
        reaches_message sound here connected first_inFormat first_unmistaken sent
      obtain ⟨last, idle, left, returned', parsed', discarded', later⟩ :=
        ih kept idle still inFormat unmistaken rest
      exact ⟨last, idle, left, by simp [returned', returned], by simp [parsed', parsed],
        by simp [discarded', discarded], first.trans later⟩

/-- Calls of `read_message` on a new connection: they return the objects of the messages in order,
parse their lines, discard their payloads and leave what follows them. -/
def ReadsMessages (lib : CLibrary) (messages : List WireMessage)
    (deliveries : List (Delivery UInt8)) : Prop :=
  ∃ steps reader, after lib steps { deliveries } = some reader ∧ reader.point = .idle ∧
    reader.results = messages.map (.ok ·.obj) ∧
    reader.parsed = messages.map WireMessage.line ∧
    reader.discarded = messages.flatMap WireMessage.payload ∧
    messages.flatMap WireMessage.encode ++ reader.unread = Delivery.arriving deliveries

/-- After every step the sizes fit, and no step has left its memory. -/
def StaysInside (lib : CLibrary) (deliveries : List (Delivery UInt8)) : Prop :=
  ∀ steps, ∃ reader, after lib steps { deliveries } = some reader ∧
    reader.buffer.lineLen ≤ reader.buffer.lineSize ∧ reader.buffer.lineSize ≤ 65536 ∧
    reader.buffer.line.length = reader.buffer.lineSize

/-- However the stream is split into pieces, messages that announce their payloads are read, unless
another key is mistaken for `bytes`; whatever the stream holds, the reader stays inside its
buffer. -/
theorem readMessage_reads (lib : CLibrary) (messages : List WireMessage)
    (deliveries : List (Delivery UInt8)) :
    StaysInside lib deliveries ∧
      ((∀ message ∈ messages, message.InFormat lib) →
        (∀ message ∈ messages, message.Unmistaken) →
        messages.flatMap WireMessage.encode <+: Delivery.arriving deliveries →
        ReadsMessages lib messages deliveries) := by
  constructor
  · intro steps
    obtain ⟨reader, run, sound, -⟩ := (Sound.initial deliveries).after lib steps
    exact ⟨reader, run, sound.buffer.within, sound.buffer.lineSize_le, sound.buffer.allocated⟩
  · rintro inFormat unmistaken ⟨tail, sent⟩
    have unread : unread { deliveries } = messages.flatMap WireMessage.encode ++ tail := sent.symm
    obtain ⟨reader, idle, left, returned, parsed, discarded, steps, run⟩ :=
      reaches_messages (Sound.initial deliveries) rfl rfl inFormat unmistaken unread
    exact ⟨steps, reader, run, idle, returned, parsed, discarded, by rw [left, sent]⟩

/-- A parser for the lines of the runs below. -/
def sampleLibrary : CLibrary where
  parseWithLength text :=
    -- `{"bytes":1}`, `{"Bytes":1}` and `{}`
    if text = [123, 34, 98, 121, 116, 101, 115, 34, 58, 49, 125] then
      some (.obj [("bytes", .int 1)])
    else if text = [123, 34, 66, 121, 116, 101, 115, 34, 58, 49, 125] then
      some (.obj [("Bytes", .int 1)])
    else if text = [123, 125] then some (.obj [])
    else none
  junk _ := 0

def emptyMessage : WireMessage := { line := [123, 125], obj := [], payload := [] }

theorem emptyMessage_inFormat : emptyMessage.InFormat sampleLibrary where
  oneLine := by decide
  line_short := by decide
  parses := rfl
  payload_short := by decide
  announced := .inr ⟨rfl, rfl⟩

/-- A payload of one newline. -/
def newlineMessage : WireMessage where
  line := [123, 34, 98, 121, 116, 101, 115, 34, 58, 49, 125]
  obj := [("bytes", .int 1)]
  payload := [newline]

theorem newlineMessage_inFormat : newlineMessage.InFormat sampleLibrary where
  oneLine := by decide
  line_short := by decide
  parses := rfl
  payload_short := by decide
  announced := .inl rfl

theorem readMessage_reads_newline :
    ReadsMessages sampleLibrary [newlineMessage, emptyMessage]
      [.piece 123 [34, 98, 121, 116], .interrupted, .piece 101 [115, 34, 58, 49, 125, 10, 10, 123],
        .piece 125 [10]] :=
  (readMessage_reads sampleLibrary [newlineMessage, emptyMessage] _).2
    (by simp [newlineMessage_inFormat, emptyMessage_inFormat])
    (by simp only [List.forall_mem_cons]; exact ⟨rfl, rfl, nofun⟩) ⟨[], rfl⟩

/-! ## Keys in another case -/

/-- Of two states of one run the results of one begin with those of the other. -/
theorem Sound.results_comparable {reader first second : LineReader} (sound : reader.Sound)
    {steps more : Nat} (run : LineReader.after lib steps reader = some first)
    (rerun : LineReader.after lib more reader = some second) :
    first.results <+: second.results ∨ second.results <+: first.results := by
  have ordered : ∀ {former extra : Nat} {next last : LineReader},
      LineReader.after lib former reader = some next →
        LineReader.after lib (former + extra) reader = some last →
        next.results <+: last.results := by
    intro former extra next last run later
    obtain ⟨_, same, kept, -⟩ := sound.after lib former
    obtain rfl := Option.some.inj (run.symm.trans same)
    obtain ⟨_, same, -, grown⟩ := kept.after lib extra
    rw [after_add, run, Option.bind_some, same] at later
    exact Option.some.inj later ▸ grown
  rcases Nat.le_total steps more with le | le
  · obtain ⟨extra, rfl⟩ := Nat.exists_eq_add_of_le le
    exact .inl (ordered run rerun)
  · obtain ⟨extra, rfl⟩ := Nat.exists_eq_add_of_le le
    exact .inr (ordered rerun run)

/-- `{"Bytes":1}` announces nothing. -/
def mistakenMessage : WireMessage where
  line := [123, 34, 66, 121, 116, 101, 115, 34, 58, 49, 125]
  obj := [("Bytes", .int 1)]
  payload := []

theorem mistakenMessage_inFormat : mistakenMessage.InFormat sampleLibrary where
  oneLine := by decide
  line_short := by decide
  parses := rfl
  payload_short := by decide
  announced := .inr ⟨rfl, rfl⟩

def mistakenDeliveries : List (Delivery UInt8) :=
  [.piece 123 [34, 66, 121, 116, 101, 115, 34, 58, 49, 125, 10, 123, 125, 10]]

theorem mistaken_run : (after sampleLibrary 9 { deliveries := mistakenDeliveries }).map
    (fun reader => reader.results.map Except.isOk) = some [true, false] := by
  decide +kernel

/-- A key that is `bytes` but for letter case takes the first byte of the next line. -/
theorem mistaken_key_takes_payload :
    ∃ (lib : CLibrary) (messages : List WireMessage) (deliveries : List (Delivery UInt8)),
      (∀ message ∈ messages, message.InFormat lib) ∧
      messages.flatMap WireMessage.encode <+: Delivery.arriving deliveries ∧
      ¬ReadsMessages lib messages deliveries := by
  refine ⟨sampleLibrary, [mistakenMessage, emptyMessage], mistakenDeliveries,
    by simp [mistakenMessage_inFormat, emptyMessage_inFormat], ⟨[], rfl⟩, ?_⟩
  rintro ⟨steps, reader, run, -, returned, -⟩
  obtain ⟨other, other_run, refused⟩ := Option.map_eq_some_iff.mp mistaken_run
  have two : other.results.length = reader.results.length := by
    rw [returned, ← List.length_map (f := Except.isOk), refused]
    rfl
  have comparable := (Sound.initial mistakenDeliveries).results_comparable other_run run
  have same : other.results = reader.results :=
    comparable.elim (·.eq_of_length two) fun within => (within.eq_of_length two.symm).symm
  rw [same, returned] at refused
  cases refused

end LineReader

end Phomemo
