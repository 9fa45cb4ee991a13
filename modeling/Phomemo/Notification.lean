import Mathlib.Data.List.Forall2
import Phomemo.Events

/-!
# Notifications

The parser of the notification channel.  A notification may carry several messages; they are told
apart by taking three bytes at a time, except for a firmware or serial report at its very start.
-/

namespace Phomemo

/-- Event sub-type bytes in `1a <sub-type> <data>` messages. -/
inductive EventKind where
  | serialShort
  | battery
  | lid
  | paper
  | firmware
  | serialAscii
  | deviceTimer
  | motorStop
  deriving DecidableEq, Repr

/-- The byte of a sub-type. -/
def EventKind.byte : EventKind → UInt8
  | .serialShort => 0x03
  | .battery => 0x04
  | .lid => 0x05
  | .paper => 0x06
  | .firmware => 0x07
  | .serialAscii => 0x08
  | .deviceTimer => 0x09
  | .motorStop => 0x0f

/-- A lower-case hexadecimal digit. -/
def hexDigit (value : Nat) : Char :=
  if value < 10 then Char.ofNat (48 + value) else Char.ofNat (87 + value)

/-- `f"0x{value:02x}"`. -/
def hexByte (value : UInt8) : String :=
  String.ofList ['0', 'x', hexDigit (value.toNat / 16), hexDigit (value.toNat % 16)]

/-- `data.decode("ascii", errors="replace")`. -/
def decodeAscii (data : Bytes) : String :=
  String.ofList (data.map fun byte =>
    if byte < 128 then Char.ofNat byte.toNat else Char.ofNat 0xfffd)

/-- `_parse_one`: the event of three bytes. -/
def parseOne (tag subType value : UInt8) : DeviceEvent :=
  { kind := subType.toNat
    raw := [tag, subType, value]
    data :=
      if subType = EventKind.lid.byte then
        .lid (if value.toNat % 2 = 1 then .opened else .closed)
      else if subType = EventKind.paper.byte then
        .paper (if value.toNat % 2 = 1 then .present else .absent)
      else if subType = EventKind.battery.byte then
        .battery (max 0 (min 100 value.toNat))
      else if subType = EventKind.serialShort.byte then
        .serial (hexByte value)
      else if subType = EventKind.deviceTimer.byte then
        .timer value.toNat
      else if subType = EventKind.motorStop.byte then
        .motorStop
      else
        .plain }

/-- The loop over three bytes at a time. -/
def parseTriples : Bytes → List DeviceEvent
  | tag :: subType :: value :: rest =>
      if tag = 0x1a then parseOne tag subType value :: parseTriples rest else []
  | _ => []

theorem parseTriples_short {data : Bytes} (short : data.length < 3) : parseTriples data = [] := by
  obtain _ | ⟨_, _ | ⟨_, _ | ⟨_, _⟩⟩⟩ := data
  · rfl
  · rfl
  · rfl
  · exact absurd short (by simp)

/-- Parse a notification payload into typed events. -/
def parseNotification (data : Bytes) : List DeviceEvent :=
  if 5 ≤ data.length ∧ data[0]? = some 0x1a ∧ data[1]? = some EventKind.firmware.byte then
    [{ kind := EventKind.firmware.byte.toNat
       raw := data
       data := .firmware (data.getD 2 0).toNat (data.getD 3 0).toNat (data.getD 4 0).toNat }]
  else if 3 < data.length ∧ data[0]? = some 0x1a ∧
      data[1]? = some EventKind.serialAscii.byte then
    [{ kind := EventKind.serialAscii.byte.toNat
       raw := data
       data := .serial (decodeAscii (data.drop 2)) }]
  else
    parseTriples data

/-! ## The parser with its indices -/

namespace Indexed

/-- `_parse_one`; `none` where an index is out of range. -/
def parseOne (chunk : Bytes) : Option DeviceEvent := do
  let subType ← chunk[1]?
  let value ← chunk[2]?
  return { Phomemo.parseOne 0x1a subType value with raw := chunk }

/-- Whether the notification is a report of that sub-type with at least that many bytes. -/
def isReport (data : Bytes) (least : Nat) (kind : EventKind) : Option Bool :=
  if least ≤ data.length then do
    let tag ← data[0]?
    if tag = 0x1a then
      let subType ← data[1]?
      return subType = kind.byte
    else
      return false
  else
    return false

/-- The loop over three bytes at a time, which moves the offset on until it stops. -/
def parseFrom (data : Bytes) (offset : Nat) (events : List DeviceEvent) :
    Option (List DeviceEvent) :=
  if offset + 3 ≤ data.length then do
    let tag ← data[offset]?
    if tag ≠ 0x1a then
      return events
    else
      let event ← parseOne ((data.drop offset).take 3)
      parseFrom data (offset + 3) (events ++ [event])
  else
    return events
termination_by data.length - offset

/-- Parse a notification payload into typed events; `none` where an index is out of range, and
nothing else can raise. -/
def parseNotification (data : Bytes) : Option (List DeviceEvent) := do
  if ← isReport data 5 .firmware then
    let major ← data[2]?
    let minor ← data[3]?
    let patch ← data[4]?
    return [{ kind := EventKind.firmware.byte.toNat
              raw := data
              data := .firmware major.toNat minor.toNat patch.toNat }]
  else if ← isReport data 4 .serialAscii then
    return [{ kind := EventKind.serialAscii.byte.toNat
              raw := data
              data := .serial (decodeAscii (data.drop 2)) }]
  else
    parseFrom data 0 []

/-- Three bytes from the offset on. -/
theorem exists_triple {data : Bytes} {offset : Nat} (enough : offset + 3 ≤ data.length) :
    ∃ tag subType value rest, data.drop offset = tag :: subType :: value :: rest ∧
      data.drop (offset + 3) = rest := by
  have length : 3 ≤ (data.drop offset).length := by
    rw [List.length_drop]
    omega
  rw [← List.drop_drop]
  generalize data.drop offset = left at length ⊢
  obtain _ | ⟨tag, _ | ⟨subType, _ | ⟨value, rest⟩⟩⟩ := left
  · exact absurd length (by simp)
  · exact absurd length (by simp)
  · exact absurd length (by simp)
  · exact ⟨tag, subType, value, rest, rfl, rfl⟩

/-- The loop reads no byte that is not there, and its events are those of the rest. -/
theorem parseFrom_eq (data : Bytes) (offset : Nat) (events : List DeviceEvent) :
    parseFrom data offset events = some (events ++ parseTriples (data.drop offset)) := by
  fun_induction parseFrom data offset events with
  | case1 offset events enough ih =>
      obtain ⟨tag, subType, value, rest, split, behind⟩ := exists_triple enough
      have first : data[offset]? = some tag := by
        rw [← Nat.add_zero offset, ← List.getElem?_drop, split]
        rfl
      have chunk : (data.drop offset).take 3 = [tag, subType, value] := by
        rw [split]
        rfl
      rw [first, chunk, split, parseTriples]
      by_cases starts : tag = 0x1a
      · subst starts
        have parsed : parseOne [0x1a, subType, value] =
            some (Phomemo.parseOne 0x1a subType value) := rfl
        simp [parsed, ih, behind]
      · simp [starts]
  | case2 offset events short =>
      have few : (data.drop offset).length < 3 := by
        rw [List.length_drop]
        omega
      rw [parseTriples_short few, List.append_nil]
      rfl

theorem isReport_eq (data : Bytes) {least : Nat} (two : 2 ≤ least) (kind : EventKind) :
    isReport data least kind =
      some (decide (least ≤ data.length ∧ data[0]? = some 0x1a ∧ data[1]? = some kind.byte)) := by
  unfold isReport
  by_cases enough : least ≤ data.length
  · have first : data[0]? = some data[0] := List.getElem?_eq_getElem (by omega)
    have second : data[1]? = some data[1] := List.getElem?_eq_getElem (by omega)
    rw [if_pos enough, first, second]
    by_cases starts : data[0] = 0x1a
    · simp [enough, starts]
    · simp [starts]
  · simp [enough]

/-- The parser reads no byte that is not there. -/
theorem parseNotification_eq (data : Bytes) :
    parseNotification data = some (Phomemo.parseNotification data) := by
  unfold parseNotification Phomemo.parseNotification
  rw [isReport_eq data (by decide), isReport_eq data (by decide), parseFrom_eq]
  by_cases firmware : 5 ≤ data.length ∧ data[0]? = some 0x1a ∧
      data[1]? = some EventKind.firmware.byte
  · have third : data[2]? = some (data.getD 2 0) := by
      rw [List.getD_eq_getElem?_getD, List.getElem?_eq_getElem (by omega)]
      rfl
    have fourth : data[3]? = some (data.getD 3 0) := by
      rw [List.getD_eq_getElem?_getD, List.getElem?_eq_getElem (by omega)]
      rfl
    have fifth : data[4]? = some (data.getD 4 0) := by
      rw [List.getD_eq_getElem?_getD, List.getElem?_eq_getElem (by omega)]
      rfl
    rw [if_pos firmware, third, fourth, fifth, decide_eq_true firmware]
    rfl
  · rw [if_neg firmware, decide_eq_false firmware]
    by_cases serial : 4 ≤ data.length ∧ data[0]? = some 0x1a ∧
        data[1]? = some EventKind.serialAscii.byte
    · rw [decide_eq_true serial]
      exact congrArg some (if_pos serial).symm
    · rw [decide_eq_false serial]
      exact congrArg some (if_neg serial).symm

end Indexed

/-- What events cover of a notification: they start with its bytes, each from the tag of a message
on, and no further message can start behind them. -/
structure Accounts (data : Bytes) (events : List DeviceEvent) (rest : Bytes) : Prop where
  split : data = (events.map DeviceEvent.raw).flatten ++ rest
  long : ∀ event ∈ events, 3 ≤ event.raw.length
  tagged : ∀ event ∈ events, event.raw.head? = some 0x1a
  stopped : rest.length < 3 ∨ rest.head? ≠ some 0x1a

theorem Accounts.whole {data : Bytes} {event : DeviceEvent} (raw : event.raw = data)
    (long : 3 ≤ data.length) (tagged : data.head? = some 0x1a) : Accounts data [event] [] where
  split := by simp [raw]
  long := by
    intro other member
    obtain rfl := List.mem_singleton.mp member
    rw [raw]
    exact long
  tagged := by
    intro other member
    obtain rfl := List.mem_singleton.mp member
    rw [raw]
    exact tagged
  stopped := .inl (by decide)

theorem Accounts.nothing {data : Bytes} (stopped : data.length < 3 ∨ data.head? ≠ some 0x1a) :
    Accounts data [] data where
  split := rfl
  long := fun _ member => absurd member List.not_mem_nil
  tagged := fun _ member => absurd member List.not_mem_nil
  stopped := stopped

/-- One more message in front. -/
theorem Accounts.cons {data : Bytes} {events : List DeviceEvent} {rest : Bytes}
    (accounts : Accounts data events rest) (subType value : UInt8) :
    Accounts (0x1a :: subType :: value :: data) (parseOne 0x1a subType value :: events) rest where
  split := by
    rw [List.map_cons, List.flatten_cons, List.append_assoc, ← accounts.split]
    rfl
  long := List.forall_mem_cons.mpr ⟨le_rfl, accounts.long⟩
  tagged := List.forall_mem_cons.mpr ⟨rfl, accounts.tagged⟩
  stopped := accounts.stopped

theorem parseTriples_accounts (data : Bytes) : ∃ rest, Accounts data (parseTriples data) rest := by
  fun_induction parseTriples data with
  | case1 subType value data ih =>
      obtain ⟨rest, accounts⟩ := ih
      exact ⟨rest, accounts.cons subType value⟩
  | case2 tag subType value data other =>
      have stopped : (tag :: subType :: value :: data).head? ≠ some 0x1a :=
        fun starts => other (Option.some.inj starts)
      exact ⟨_, .nothing (.inr stopped)⟩
  | case3 data short =>
      have few : data.length < 3 := by
        obtain _ | ⟨tag, _ | ⟨subType, _ | ⟨value, rest⟩⟩⟩ := data
        · decide
        · simp
        · simp
        · exact absurd rfl (short tag subType value rest)
      exact ⟨_, .nothing (.inl few)⟩

/-- The parser reads only bytes that are there and comes to an end, whatever they are; its events
take a prefix of them apart, and behind it no message can start. -/
theorem parseNotification_accounts (data : Bytes) :
    ∃ events, Indexed.parseNotification data = some events ∧ ∃ rest, Accounts data events rest := by
  refine ⟨parseNotification data, Indexed.parseNotification_eq data, ?_⟩
  have tagged : data[0]? = some 0x1a → data.head? = some 0x1a := fun first => by
    rw [List.head?_eq_getElem?]
    exact first
  unfold parseNotification
  split
  · next firmware =>
      have long : 3 ≤ data.length := by omega
      exact ⟨[], .whole rfl long (tagged firmware.2.1)⟩
  · split
    · next serial =>
        have long : 3 ≤ data.length := by omega
        exact ⟨[], .whole rfl long (tagged serial.2.1)⟩
    · exact parseTriples_accounts data

/-- A message as the printer sends it. -/
inductive DeviceMessage where
  /-- `1a <sub-type> <data>`. -/
  | event (subType value : UInt8) (notFirmware : subType ≠ EventKind.firmware.byte)
      (notSerial : subType ≠ EventKind.serialAscii.byte)
  /-- `1a 07 <major> <minor> <patch>`. -/
  | firmware (major minor patch : UInt8)
  /-- `1a 08` and 15 ASCII bytes. -/
  | serial (text : Bytes) (length : text.length = 15) (ascii : ∀ byte ∈ text, byte < 128)

namespace DeviceMessage

/-- The bytes of a message. -/
def bytes : DeviceMessage → Bytes
  | event subType value _ _ => [0x1a, subType, value]
  | firmware major minor patch => [0x1a, EventKind.firmware.byte, major, minor, patch]
  | serial text _ _ => 0x1a :: EventKind.serialAscii.byte :: text

/-- A message of three bytes. -/
def IsEvent : DeviceMessage → Prop
  | event _ _ _ _ => True
  | _ => False

instance : DecidablePred IsEvent := fun message => by
  cases message <;> unfold IsEvent <;> infer_instance

/-- The bytes of several messages in one notification. -/
def batch (messages : List DeviceMessage) : Bytes := messages.flatMap bytes

@[simp]
theorem batch_nil : batch [] = [] := rfl

@[simp]
theorem batch_cons (message : DeviceMessage) (messages : List DeviceMessage) :
    batch (message :: messages) = message.bytes ++ batch messages := rfl

/-- The notification gives one event for each message, the one it gives when it comes alone. -/
def Splits (messages : List DeviceMessage) : Prop :=
  List.Forall₂ (fun message event => parseNotification message.bytes = [event]) messages
    (parseNotification (batch messages))

/-- A three-byte message at the start leaves the rest to the loop. -/
theorem parseNotification_event {subType : UInt8} (value : UInt8)
    (notFirmware : subType ≠ EventKind.firmware.byte)
    (notSerial : subType ≠ EventKind.serialAscii.byte) (rest : Bytes) :
    parseNotification (0x1a :: subType :: value :: rest) =
      parseOne 0x1a subType value :: parseTriples rest := by
  simp [parseNotification, parseTriples, notFirmware, notSerial]

/-- A firmware report takes the notification it starts as a whole. -/
theorem parseNotification_firmware (major minor patch : UInt8) (rest : Bytes) :
    ∃ event, event.data = .firmware major.toNat minor.toNat patch.toNat ∧
      parseNotification
        (0x1a :: EventKind.firmware.byte :: major :: minor :: patch :: rest) = [event] := by
  simp [parseNotification]

/-- So does a serial report. -/
theorem parseNotification_serial {text : Bytes} (long : 2 ≤ text.length) :
    ∃ event value, event.data = .serial value ∧ event.raw.length = text.length + 2 ∧
      parseNotification (0x1a :: EventKind.serialAscii.byte :: text) = [event] := by
  have notFirmware : EventKind.serialAscii.byte ≠ EventKind.firmware.byte := by decide
  have enough : 3 < text.length + 1 + 1 := by omega
  simp [parseNotification, notFirmware, enough]

/-- A message alone gives one event. -/
theorem parse_alone (message : DeviceMessage) :
    ∃ event, parseNotification message.bytes = [event] := by
  cases message with
  | event subType value notFirmware notSerial =>
      exact ⟨_, parseNotification_event value notFirmware notSerial []⟩
  | firmware major minor patch =>
      obtain ⟨event, -, parsed⟩ := parseNotification_firmware major minor patch []
      exact ⟨event, parsed⟩
  | serial text length _ =>
      obtain ⟨event, _, -, -, parsed⟩ := @parseNotification_serial text (by omega)
      exact ⟨event, parsed⟩

/-- The loop never gives the event of a firmware or serial report. -/
theorem triples_ne_report {message : DeviceMessage} (report : ¬message.IsEvent) {rest : Bytes}
    {event : DeviceEvent} {events : List DeviceEvent}
    (parsed : parseTriples (message.bytes ++ rest) = event :: events) :
    parseNotification message.bytes ≠ [event] := by
  intro alone
  cases message with
  | event subType value notFirmware notSerial => exact report trivial
  | firmware major minor patch =>
      obtain ⟨reported, data, parsed'⟩ := parseNotification_firmware major minor patch []
      simp only [bytes, List.cons_append, parseTriples, if_true, List.cons.injEq] at parsed
      have same : reported = event := by simpa [bytes, parsed'] using alone
      rw [same, ← parsed.1] at data
      cases data
  | serial text length ascii =>
      obtain ⟨reported, value, -, raw, parsed'⟩ := @parseNotification_serial text (by omega)
      have same : reported = event := by simpa [bytes, parsed'] using alone
      obtain ⟨first, others, rfl⟩ := List.exists_cons_of_length_pos (l := text) (by omega)
      simp only [bytes, List.cons_append, parseTriples, if_true, List.cons.injEq] at parsed
      rw [same, ← parsed.1] at raw
      change 3 = others.length + 1 + 2 at raw
      change others.length + 1 = 15 at length
      omega

/-- The loop splits a batch exactly if all its messages are of three bytes. -/
theorem triples_split_iff (messages : List DeviceMessage) :
    List.Forall₂ (fun message event => parseNotification message.bytes = [event]) messages
        (parseTriples (batch messages)) ↔
      ∀ message ∈ messages, message.IsEvent := by
  induction messages with
  | nil => simp [parseTriples]
  | cons message messages ih =>
      by_cases isEvent : message.IsEvent
      · cases message with
        | firmware major minor patch => cases isEvent
        | serial text length ascii => cases isEvent
        | event subType value notFirmware notSerial =>
            have alone := parseNotification_event value notFirmware notSerial []
            simp only [batch_cons, bytes, List.cons_append, List.nil_append, parseTriples, if_true,
              List.forall₂_cons, alone, true_and, List.mem_cons, forall_eq_or_imp, IsEvent]
            exact ih
      · constructor
        · intro splits
          obtain ⟨event, events, alone, -, parsed⟩ := List.forall₂_cons_left_iff.mp splits
          exact absurd alone (triples_ne_report isEvent parsed)
        · exact fun all => absurd (all message List.mem_cons_self) isEvent

/-- A notification is split into its messages if and only if it carries a single one or only
messages of three bytes. -/
theorem parseNotification_splits_iff (messages : List DeviceMessage) (nonempty : messages ≠ []) :
    Splits messages ↔ messages.length = 1 ∨ ∀ message ∈ messages, message.IsEvent := by
  obtain ⟨message, messages, rfl⟩ := List.exists_cons_of_ne_nil nonempty
  cases messages with
  | nil =>
      obtain ⟨event, alone⟩ := parse_alone message
      simp [Splits, alone]
  | cons second others =>
      have several : (message :: second :: others).length ≠ 1 := by simp
      rw [or_iff_right several]
      by_cases isEvent : message.IsEvent
      · have looped : parseNotification (batch (message :: second :: others)) =
            parseTriples (batch (message :: second :: others)) := by
          cases message with
          | event subType value notFirmware notSerial =>
              exact parseNotification_event value notFirmware notSerial _
          | firmware major minor patch => cases isEvent
          | serial text length ascii => cases isEvent
        rw [Splits, looped]
        exact triples_split_iff _
      · have absorbed : ∃ event,
            parseNotification (batch (message :: second :: others)) = [event] := by
          cases message with
          | event subType value notFirmware notSerial => exact absurd trivial isEvent
          | firmware major minor patch =>
              obtain ⟨event, -, parsed⟩ := parseNotification_firmware major minor patch
                (batch (second :: others))
              exact ⟨event, parsed⟩
          | serial text length ascii =>
              have long : 2 ≤ (text ++ batch (second :: others)).length := by
                rw [List.length_append]
                omega
              obtain ⟨event, _, -, -, parsed⟩ := parseNotification_serial long
              exact ⟨event, parsed⟩
        obtain ⟨event, parsed⟩ := absorbed
        constructor
        · intro splits
          have lengths := splits.length_eq
          rw [parsed] at lengths
          simp at lengths
        · exact fun all => absurd (all message List.mem_cons_self) isEvent

/-- Two sensor events in one notification. -/
theorem parseNotification_splits_sensors :
    Splits [.event 0x05 0x98 (by decide) (by decide), .event 0x06 0x88 (by decide) (by decide)] :=
  (parseNotification_splits_iff _ (by simp)).mpr (.inr (by simp [IsEvent]))

/-- A lid event behind a firmware report is lost. -/
theorem parseNotification_absorbs_lid :
    ¬Splits [.firmware 1 1 3, .event 0x05 0x99 (by decide) (by decide)] := by
  intro splits
  exact absurd splits.length_eq (by decide)

end DeviceMessage

end Phomemo
