import Phomemo.Bridge.LetterCase
import Phomemo.Bridge.Unattended
import Phomemo.Eject
import Phomemo.PageEnd.Head
import Phomemo.Upkeep.Establish

/-!
# Looking for printers

`Bridge.discover` connects briefly to the printers whose names leave the model open.  The printer
the bridge holds stays as it was, unless its link is lost meanwhile or cannot be written to, and no
brief connection is left open.
-/

namespace Phomemo

open Async Coroutine

/-! ## What may happen meanwhile -/

/-- Incidents that can take the link of a printer: the peer drops it, or the disconnect of a hold
that has expired starts or ends. -/
inductive Incident.Unlinks (p : PrinterId) : Incident → Prop where
  | dropped : Unlinks p (.dropped p)
  | holdStarts : Unlinks p .holdStarts
  | holdEnds : Unlinks p (.holdEnds p)

/-- Incidents that can stop the hold timer. -/
inductive Incident.Disarms : Incident → Prop where
  | holdExpires : Disarms .holdExpires
  | holdStarts : Disarms .holdStarts

/-- An incident of a kind ran during one of the awaits. -/
def Occurred (kind : Incident → Prop) (past : List TraceEvent) : Prop :=
  ∃ answer, .tick answer ∈ past ∧ ∃ incident ∈ answer.incidents, kind incident

theorem Occurred.append {kind : Incident → Prop} {past : List TraceEvent}
    (occurred : Occurred kind past) (later : List TraceEvent) : Occurred kind (past ++ later) := by
  obtain ⟨answer, member, incident⟩ := occurred
  exact ⟨answer, List.mem_append_left _ member, incident⟩

/-- The link of a printer was taken from outside. -/
def LinkTaken (p : PrinterId) (past : List TraceEvent) : Prop := Occurred (Incident.Unlinks p) past

/-- The link was taken, or a write on it failed. -/
def LinkLost (p : PrinterId) (past : List TraceEvent) : Prop :=
  LinkTaken p past ∨ .writeFailed p ∈ past

theorem LinkLost.append {p : PrinterId} {past : List TraceEvent} (lost : LinkLost p past)
    (later : List TraceEvent) : LinkLost p (past ++ later) :=
  lost.imp (fun taken => Occurred.append taken later) (List.mem_append_left _)

namespace World

variable {w : World}

/-- Other incidents leave a transport alone. -/
theorem happen_transport {incident : Incident} {p : PrinterId} (stays : ¬incident.Unlinks p) :
    ((w.happen incident).1.printers p).transport = (w.printers p).transport := by
  cases incident with
  | abort => rfl
  | dropped q =>
      have other : p ≠ q := fun same => stays (same ▸ .dropped)
      change ((w.setConnected q false).printers p).transport = _
      rw [setConnected, setTransport_printers, if_neg other]
  | notified q events =>
      change ((w.setListeners q fun listeners => listeners.notify events).printers p).transport = _
      rw [setListeners, setPrinter_printers]
      split
      · rename_i same
        rw [same]
      · rfl
  | holdExpires =>
      rw [happen]
      split <;> rfl
  | holdStarts => exact absurd .holdStarts stays
  | holdEnds q =>
      have other : p ≠ q := fun same => stays (same ▸ .holdEnds)
      rw [happen]
      split
      · change ((w.hangUp q).printers p).transport = _
        rw [hangUp, setTransport_printers, if_neg other]
      · rfl

theorem happen_holdArmed {incident : Incident} (stays : ¬incident.Disarms) :
    (w.happen incident).1.bridge.holdArmed = w.bridge.holdArmed := by
  cases incident with
  | abort => rfl
  | dropped q => rfl
  | notified q events => rfl
  | holdExpires => exact absurd .holdExpires stays
  | holdStarts => exact absurd .holdStarts stays
  | holdEnds q =>
      rw [happen]
      split <;> rfl

/-- What all incidents of an await leave alone, the await leaves alone. -/
theorem happenAll_same {β : Type} (field : World → β) {kind : Incident → Prop}
    (step : ∀ (w : World) incident, ¬kind incident → field (w.happen incident).1 = field w)
    {incidents : List Incident} (stay : ∀ incident ∈ incidents, ¬kind incident) :
    field (w.happenAll incidents).1 = field w := by
  induction incidents generalizing w with
  | nil => rfl
  | cons incident incidents ih =>
      obtain ⟨first, others⟩ := List.forall_mem_cons.mp stay
      exact (@ih (w.happen incident).1 others).trans (step w incident first)

/-- No hold concerns this printer. -/
def Untended (w : World) (q : PrinterId) : Prop :=
  w.bridge.printer ≠ some q ∧ q ∉ w.bridge.holdInFlight

/-- Printer objects yet to be made are no hold's concern. -/
def Numbered (w : World) : Prop := ∀ q, w.nextPrinter ≤ q → w.Untended q

theorem Numbered.allocated (numbered : w.Numbered) : w.Allocated := by
  intro p held
  by_contra later
  exact (numbered p (not_lt.mp later)).1 held

/-- The client of such a printer is left to whoever dialed it. -/
structure Spared (q : PrinterId) (w after : World) : Prop where
  untended : after.Untended q
  client : (after.printers q).transport.client = (w.printers q).transport.client

namespace Untended

variable {q : PrinterId}

theorem startHoldTask (untended : w.Untended q) : Spared q w w.startHoldTask.1 := by
  obtain ⟨other, free⟩ := untended
  unfold World.startHoldTask
  dsimp only
  split
  · exact ⟨⟨other, free⟩, rfl⟩
  · next p held =>
      have apart : q ≠ p := fun same => other (same ▸ held)
      split
      · refine ⟨⟨other, fun awaited => (List.mem_cons.mp awaited).elim apart free⟩, ?_⟩
        change ((w.cancelHold.setConnected p false).printers q).transport.client = _
        rw [setConnected, setTransport_printers, if_neg apart]
        rfl
      · exact ⟨⟨other, free⟩, rfl⟩

theorem happen (untended : w.Untended q) (incident : Incident) :
    Spared q w (w.happen incident).1 := by
  obtain ⟨other, free⟩ := untended
  cases incident with
  | abort => exact ⟨⟨other, free⟩, rfl⟩
  | dropped p =>
      refine ⟨⟨other, free⟩, ?_⟩
      change ((w.setConnected p false).printers q).transport.client = _
      rw [setConnected, setTransport_printers]
      dsimp only
      split <;> rfl
  | notified p events =>
      have quiet := quiet_setListeners (w := w) p fun listeners => listeners.notify events
      exact ⟨⟨other, free⟩, quiet.client q⟩
  | holdExpires =>
      rw [World.happen]
      split <;> exact ⟨⟨other, free⟩, rfl⟩
  | holdStarts =>
      rw [World.happen]
      cases w.bridge.holdScheduled with
      | zero => exact ⟨⟨other, free⟩, rfl⟩
      | succ count =>
          have scheduled := startHoldTask (w := w.setBridge fun bridge =>
            { bridge with holdScheduled := count }) ⟨other, free⟩
          exact ⟨scheduled.untended, scheduled.client⟩
  | holdEnds p =>
      rw [World.happen]
      split
      · next awaited =>
          have apart : q ≠ p := fun same => free (same ▸ awaited)
          refine ⟨⟨other, fun left => free (List.mem_of_mem_erase left)⟩, ?_⟩
          change ((w.hangUp p).printers q).transport.client = _
          rw [hangUp, setTransport_printers, if_neg apart]
      · exact ⟨⟨other, free⟩, rfl⟩

theorem awaken (untended : w.Untended q) (answer : Tick) : Spared q w (w.awaken answer) := by
  have happened : ∀ incidents, Spared q w (w.happenAll incidents).1 := by
    intro incidents
    induction incidents generalizing w with
    | nil => exact ⟨untended, rfl⟩
    | cons incident incidents ih =>
        have first := untended.happen incident
        have later := ih first.untended
        exact ⟨later.untended, later.client.trans first.client⟩
  obtain ⟨untended, client⟩ := happened answer.incidents
  exact ⟨untended, client⟩

end Untended

end World

/-! ## What a scan finds -/

namespace Env

/-- The devices that a scan for the models' joined pattern reports, sorted by name: the pattern is
found in the name, and so is that of a model. -/
def scanned (env : Env) (search : String → Bool) (devices : List Device) : List Device :=
  (devices.filter fun device =>
    device.name.any search && !(env.registry.profilesForName device.name).isEmpty).insertionSort
      fun left right => left.name.getD "" ≤ right.name.getD ""

end Env

/-- What a search for printers does, where `lost` says what may have ended a hold. -/
structure Discovers (env : Env) (lost : PrinterId → List TraceEvent → Prop) (w : World)
    (found : List Found) (final : World) (trace : List TraceEvent) : Prop where
  /-- One entry for each device of a known model, in the order of the scan. -/
  entries : ∃ answer later search, trace = .tick answer :: later ∧
    env.registry.compile env.registry.joinedPattern = .ok search ∧
    found.map Found.device = env.scanned search answer.devices
  profiles : ∀ entry ∈ found, entry.profile ∈ env.registry.profilesForName entry.device.name
  /-- Connections are made by new printer objects, to devices of several candidates, and not to
  the printer that is held. -/
  probes : Throughout (fun before event => ∀ q address overlapped,
    event = .dialed q address overlapped → w.nextPrinter ≤ q ∧
      (∃ entry ∈ found, entry.device.address = address ∧
        2 ≤ (env.registry.profilesForName entry.device.name).length) ∧
      ∀ p, w.bridge.printer = some p → w.isConnected p →
        env.upper ((w.printers p).addressText.getD "") = env.upper address → lost p before) trace
  printer : final.bridge.printer = w.bridge.printer
  profile : ∀ p, w.bridge.printer = some p → (final.printers p).profile = (w.printers p).profile
  link : ∀ p, w.bridge.printer = some p →
    (final.printers p).transport = (w.printers p).transport ∨ lost p trace
  timer : final.bridge.holdArmed = w.bridge.holdArmed ∨ Occurred Incident.Disarms trace
  closed : ∀ q, w.nextPrinter ≤ q → q < final.nextPrinter →
    (final.printers q).transport.client = none

/-! ## While the search goes on -/

/-- A connection that may be made: by a new printer object, to a device that is to be asked and is
not the printer that is held. -/
def MayDial (env : Env) (w : World) (devices : List Device) (before : List TraceEvent)
    (event : TraceEvent) : Prop :=
  ∀ q address overlapped, event = .dialed q address overlapped → w.nextPrinter ≤ q ∧
    (∃ device ∈ devices, device.address = address ∧
      2 ≤ (env.registry.profilesForName device.name).length) ∧
    ∀ p, w.bridge.printer = some p → w.isConnected p →
      env.upper ((w.printers p).addressText.getD "") = env.upper address → LinkLost p before

/-- How the bridge stands during a search that began in `start`; `brief` may be connected. -/
structure Searching (env : Env) (start : World) (devices : List Device) (brief : Option PrinterId)
    (w : World) (past : List TraceEvent) : Prop where
  printer : w.bridge.printer = start.bridge.printer
  next : start.nextPrinter ≤ w.nextPrinter
  new : ∀ q, brief = some q → start.nextPrinter ≤ q
  untended : ∀ q, start.nextPrinter ≤ q → w.Untended q
  profile : ∀ p, start.bridge.printer = some p →
    (w.printers p).profile = (start.printers p).profile
  address : ∀ p, start.bridge.printer = some p →
    (w.printers p).address = (start.printers p).address
  link : ∀ p, start.bridge.printer = some p →
    (w.printers p).transport = (start.printers p).transport ∨ LinkLost p past
  timer : w.bridge.holdArmed = start.bridge.holdArmed ∨ Occurred Incident.Disarms past
  closed : ∀ q, start.nextPrinter ≤ q → q < w.nextPrinter → brief ≠ some q →
    (w.printers q).transport.client = none
  dials : Throughout (MayDial env start devices) past

/-- An event alone, other than a dial. -/
theorem undialed_singleton {event : TraceEvent}
    (other : ∀ q address overlapped, event ≠ .dialed q address overlapped) :
    ∀ alone ∈ [event], ∀ q address overlapped, alone ≠ .dialed q address overlapped := by
  intro alone member
  rw [List.mem_singleton.mp member]
  exact other

theorem undialed_wire {event : TraceEvent} (wire : event.OfWire) (q : PrinterId)
    (address : String) (overlapped : Bool) : event ≠ .dialed q address overlapped := by
  rintro rfl
  cases wire

namespace Searching

variable {env : Env} {start w : World} {devices : List Device} {brief : Option PrinterId}
  {past : List TraceEvent}

theorem begins (env : Env) (numbered : start.Numbered) (devices : List Device) :
    Searching env start devices none start [] where
  printer := rfl
  next := le_rfl
  new := nofun
  untended := numbered
  profile := fun _ _ => rfl
  address := fun _ _ => rfl
  link := fun _ _ => .inl rfl
  timer := .inl rfl
  closed := fun _ old new => absurd (old.trans_lt new) (lt_irrefl _)
  dials := throughout_nil

/-- Another state with the same links, and later events that are no connections. -/
theorem move (searching : Searching env start devices brief w past) {after : World}
    (printer : after.bridge.printer = w.bridge.printer)
    (next : after.nextPrinter = w.nextPrinter)
    (untended : ∀ q, w.Untended q → after.Untended q)
    (profile : ∀ p, (after.printers p).profile = (w.printers p).profile)
    (address : ∀ p, (after.printers p).address = (w.printers p).address)
    {later : List TraceEvent}
    (link : ∀ p, (after.printers p).transport = (w.printers p).transport ∨
      LinkLost p (past ++ later))
    (timer : after.bridge.holdArmed = w.bridge.holdArmed ∨
      Occurred Incident.Disarms (past ++ later))
    (client : ∀ q, (w.printers q).transport.client = none →
      (after.printers q).transport.client = none)
    (undialed : ∀ event ∈ later, ∀ q address overlapped, event ≠ .dialed q address overlapped) :
    Searching env start devices brief after (past ++ later) where
  printer := printer.trans searching.printer
  next := searching.next.trans next.ge
  new := searching.new
  untended := fun q new => untended q (searching.untended q new)
  profile := fun p held => (profile p).trans (searching.profile p held)
  address := fun p held => (address p).trans (searching.address p held)
  link := fun p held => by
    rcases searching.link p held with same | lost
    · exact (link p).imp_left fun still => still.trans same
    · exact .inr (lost.append later)
  timer := by
    rcases searching.timer with same | disarmed
    · exact timer.imp_left fun still => still.trans same
    · exact .inr (disarmed.append later)
  closed := fun q new old other =>
    client q (searching.closed q new (next ▸ old) other)
  dials := searching.dials.append fun event member _ q address overlapped same =>
    absurd same (undialed event member q address overlapped)

/-- Events that are no connections. -/
theorem record (searching : Searching env start devices brief w past) (later : List TraceEvent)
    (undialed : ∀ event ∈ later, ∀ q address overlapped, event ≠ .dialed q address overlapped) :
    Searching env start devices brief w (past ++ later) :=
  searching.move rfl rfl (fun _ => id) (fun _ => rfl) (fun _ => rfl) (fun _ => .inl rfl) (.inl rfl)
    (fun _ => id) undialed

theorem awaken (searching : Searching env start devices brief w past) (answer : Tick) :
    Searching env start devices brief (w.awaken answer) (past ++ w.awakening answer) := by
  have awaited := @World.awaited_awaken w answer
  have here : .tick answer ∈ past ++ w.awakening answer :=
    List.mem_append_right _ List.mem_cons_self
  apply searching.move awaited.printer awaited.nextPrinter
    (fun q untended => (untended.awaken answer).untended) awaited.profile awaited.address
  · intro p
    by_cases taken : ∃ incident ∈ answer.incidents, incident.Unlinks p
    · exact .inr (.inl ⟨answer, here, taken⟩)
    · refine .inl ?_
      have stay : ∀ incident ∈ answer.incidents, ¬incident.Unlinks p :=
        fun incident member unlinks => taken ⟨incident, member, unlinks⟩
      exact World.happenAll_same (fun w => (w.printers p).transport)
        (fun w incident => World.happen_transport) stay
  · by_cases disarmed : ∃ incident ∈ answer.incidents, incident.Disarms
    · exact .inr ⟨answer, here, disarmed⟩
    · refine .inl ?_
      have stay : ∀ incident ∈ answer.incidents, ¬incident.Disarms :=
        fun incident member disarms => disarmed ⟨incident, member, disarms⟩
      exact World.happenAll_same (fun w => w.bridge.holdArmed)
        (fun w incident => World.happen_holdArmed) stay
  · intro q none
    rcases (awaited.transport q).client with ⟨same, -⟩ | gone
    · exact same.trans none
    · exact gone
  · intro event member q address overlapped same
    cases World.awakening_events answer event member <;> cases same

theorem quiet (searching : Searching env start devices brief w past) {after : World}
    (quiet : w.Quiet after) : Searching env start devices brief after past := by
  rw [← List.append_nil past]
  have fields : ∀ first second : Transport, first.profile = second.profile →
      first.client = second.client → first.connected = second.connected →
        first.effectiveChunkBytes = second.effectiveChunkBytes → first = second := by
    rintro ⟨_, _, _, _⟩ ⟨_, _, _, _⟩ rfl rfl rfl rfl
    rfl
  have transport : ∀ p, (after.printers p).transport = (w.printers p).transport := fun p =>
    fields _ _ (quiet.transportProfile p) (quiet.client p) (quiet.connected p) (quiet.chunk p)
  have untended : ∀ q, w.Untended q → after.Untended q := by
    intro q untended
    unfold World.Untended
    rw [quiet.bridge]
    exact untended
  apply searching.move quiet.printer quiet.nextPrinter untended quiet.profile quiet.address
  · exact fun p => .inl (transport p)
  · refine .inl ?_
    rw [quiet.bridge]
  · intro q none
    rw [transport q]
    exact none
  · exact fun _ member => absurd member List.not_mem_nil

theorem idle (env : Env) (start : World) (devices : List Device) (brief : Option PrinterId)
    (rely : TraceEvent → Prop) : IdleStable rely (Searching env start devices brief) where
  awaken := fun _ _ answer searching _ => searching.awaken answer
  quiet := fun _ _ _ quiet searching => searching.quiet quiet
  event := by
    intro w past event wire searching _
    exact searching.record _ (undialed_singleton (undialed_wire wire))

/-- A write that fails ends the hold of its printer. -/
theorem wire (env : Env) (start : World) (devices : List Device) (rely : TraceEvent → Prop)
    (p : PrinterId) : WireStable rely (Searching env start devices none) p where
  toIdleStable := idle env start devices none rely
  wrote := by
    intro w past client data searching _ _ _
    exact searching.record _ (undialed_singleton fun _ _ _ same => by cases same)
  lost := by
    intro w past searching _
    have other : ∀ q, q ≠ p → (w.setConnected p false).printers q = w.printers q := by
      intro q other
      rw [World.setConnected, World.setTransport_printers, if_neg other]
    have awaited := @World.awaited_setConnected w p
    apply searching.move awaited.printer awaited.nextPrinter (fun _ => id) awaited.profile
      awaited.address
    · intro q
      by_cases same : q = p
      · exact .inr (.inr (same ▸ List.mem_append_right _ (List.mem_singleton_self _)))
      · exact .inl (congrArg Printer.transport (other q same))
    · exact .inl rfl
    · intro q none
      rcases (awaited.transport q).client with ⟨same, -⟩ | gone
      · exact same.trans none
      · exact gone
    · exact undialed_singleton fun _ _ _ same => by cases same

/-- The object of a brief connection may change as it likes. -/
theorem elsewhere {q : PrinterId} (allocated : start.Allocated)
    (searching : Searching env start devices (some q) w past) {after : World}
    (bridge : after.bridge = w.bridge) (next : after.nextPrinter = w.nextPrinter)
    (others : ∀ r, r ≠ q → after.printers r = w.printers r) :
    Searching env start devices (some q) after past := by
  have new := searching.new q rfl
  have other : ∀ p, start.bridge.printer = some p → after.printers p = w.printers p :=
    fun p held => others p ((allocated p held).trans_le new).ne
  exact {
    printer := bridge ▸ searching.printer
    next := next ▸ searching.next
    new := searching.new
    untended := fun r new => by
      unfold World.Untended
      rw [bridge]
      exact searching.untended r new
    profile := fun p held => by rw [other p held]; exact searching.profile p held
    address := fun p held => by rw [other p held]; exact searching.address p held
    link := fun p held => by rw [other p held]; exact searching.link p held
    timer := bridge ▸ searching.timer
    closed := fun r new old apart => by
      rw [others r fun same => apart (same ▸ rfl)]
      exact searching.closed r new (next ▸ old) apart
    dials := searching.dials }

/-- A brief connection that is closed is none. -/
theorem ends {q : PrinterId} (searching : Searching env start devices (some q) w past)
    (closed : (w.printers q).transport.client = none) :
    Searching env start devices none w past :=
  { searching with
    new := nofun
    closed := fun r new old _ => by
      by_cases same : q = r
      · exact same ▸ closed
      · exact searching.closed r new old fun other => same (Option.some.inj other) }

/-- A new printer object for a device. -/
theorem made (searching : Searching env start devices none w past) (profile : PrinterProfile)
    (address : Option PrinterAddress) (allocated : start.Allocated) :
    Searching env start devices (some w.nextPrinter) (w.withPrinter profile address) past := by
  have other : ∀ p, p ≠ w.nextPrinter →
      (w.withPrinter profile address).printers p = w.printers p :=
    fun p other => World.withPrinter_other other profile address
  have held_other : ∀ p, start.bridge.printer = some p →
      (w.withPrinter profile address).printers p = w.printers p :=
    fun p held => other p ((allocated p held).trans_le searching.next).ne
  exact {
    printer := searching.printer
    next := Nat.le_succ_of_le searching.next
    new := by
      rintro _ ⟨⟩
      exact searching.next
    untended := searching.untended
    profile := fun p held => by rw [held_other p held]; exact searching.profile p held
    address := fun p held => by rw [held_other p held]; exact searching.address p held
    link := fun p held => by rw [held_other p held]; exact searching.link p held
    timer := searching.timer
    closed := fun r new old apart => by
      have earlier : r ≠ w.nextPrinter := fun same => apart (same ▸ rfl)
      rw [other r earlier]
      exact searching.closed r new ((Nat.lt_succ_iff.mp old).lt_of_ne earlier) nofun
    dials := searching.dials }

end Searching

/-- The object of a brief connection to a device that is to be asked. -/
structure Brief (env : Env) (start : World) (devices : List Device) (q : PrinterId)
    (device : Device) (w : World) (past : List TraceEvent) : Prop extends
    Searching env start devices (some q) w past where
  named : (w.printers q).address = some (.device device)
  apart : ∀ p, start.bridge.printer = some p → start.isConnected p →
    env.upper ((start.printers p).addressText.getD "") = env.upper device.address → LinkLost p past

namespace Brief

variable {env : Env} {start w : World} {devices : List Device} {q : PrinterId} {device : Device}
  {past : List TraceEvent}

theorem record (brief : Brief env start devices q device w past) (later : List TraceEvent)
    (undialed : ∀ event ∈ later, ∀ q address overlapped, event ≠ .dialed q address overlapped) :
    Brief env start devices q device w (past ++ later) :=
  ⟨brief.toSearching.record later undialed, brief.named,
    fun p held connected same => (brief.apart p held connected same).append later⟩

theorem change (allocated : start.Allocated) (brief : Brief env start devices q device w past)
    {after : World} (bridge : after.bridge = w.bridge) (next : after.nextPrinter = w.nextPrinter)
    (others : ∀ r, r ≠ q → after.printers r = w.printers r)
    (address : (after.printers q).address = (w.printers q).address) :
    Brief env start devices q device after past :=
  ⟨brief.toSearching.elsewhere allocated bridge next others, address.trans brief.named, brief.apart⟩

theorem setTransport (allocated : start.Allocated)
    (brief : Brief env start devices q device w past) (change : Transport → Transport) :
    Brief env start devices q device (w.setTransport q change) past := by
  refine brief.change allocated rfl rfl (fun r other => ?_) (World.setTransport_address ..)
  rw [World.setTransport_printers, if_neg other]

theorem idle (env : Env) (start : World) (devices : List Device) (q : PrinterId) (device : Device)
    (rely : TraceEvent → Prop) : IdleStable rely (Brief env start devices q device) where
  awaken := fun w past answer brief _ =>
    ⟨brief.toSearching.awaken answer, ((World.awaited_awaken answer).address q).trans brief.named,
      fun p held connected same => (brief.apart p held connected same).append _⟩
  quiet := fun w after past quiet brief =>
    ⟨brief.toSearching.quiet quiet, (quiet.address q).trans brief.named, brief.apart⟩
  event := by
    intro w past event wire brief _
    exact brief.record _ (undialed_singleton (undialed_wire wire))

/-- All work on the brief connection. -/
theorem connection (allocated : start.Allocated) (asked : device ∈ devices)
    (several : 2 ≤ (env.registry.profilesForName device.name).length) (rely : TraceEvent → Prop) :
    LinkStable rely (Brief env start devices q device) q
      fun address found => address = some (.device device) → found = device where
  toIdleStable := idle env start devices q device rely
  wrote := by
    intro w past client data brief _ _ _
    exact brief.record _ (undialed_singleton fun _ _ _ same => by cases same)
  lost := by
    intro w past brief _
    exact (brief.setTransport allocated _).record _
      (undialed_singleton fun _ _ _ same => by cases same)
  downed := fun w past brief => brief.setTransport allocated _
  hungUp := fun w past brief => brief.setTransport allocated _
  unset := fun w past brief => brief.setTransport allocated _
  dialed := by
    intro w past found brief near _
    obtain rfl := near brief.named
    have changed := brief.setTransport allocated fun transport =>
      { transport with client := some ⟨w.nextClient, found.address⟩ }
    have held : Brief env start devices q found
        { w.setClient q (some ⟨w.nextClient, found.address⟩) with
          nextClient := w.nextClient + 1 } past :=
      changed.change allocated rfl rfl (fun _ _ => rfl) rfl
    refine ⟨{ held.toSearching with
      link := fun p bridge => (held.link p bridge).imp_right fun lost => lost.append _
      timer := held.timer.imp_right fun disarmed => disarmed.append _
      dials := held.dials.concat ?_ }, held.named,
      fun p held connected same => (brief.apart p held connected same).append _⟩
    rintro other address overlapped ⟨⟩
    exact ⟨held.new _ rfl, ⟨found, asked, rfl, several⟩, brief.apart⟩
  up := fun w past brief => brief.setTransport allocated _
  negotiated := fun w past chunk _ brief => brief.setTransport allocated _
  named := by
    intro w past found brief unknown
    rw [brief.named] at unknown
    cases unknown
  learned := nofun
  sought := nofun
  handed := by
    rintro found ⟨⟩
    rfl
  resolved := by
    intro w past asked found brief _
    exact brief.record _ (undialed_singleton fun _ _ _ same => by cases same)

end Brief

/-! ## Closing brief connections -/

/-- The last that happened is that a disconnect of this printer raised. -/
def EndsUnclosed (q : PrinterId) (past : List TraceEvent) : Prop :=
  ∃ earlier, past = earlier ++ [.disconnectFailed q]

/-- A connection is set up that no hold concerns. -/
structure Dialing (q : PrinterId) (w : World) : Prop where
  untended : w.Untended q
  client : (w.printers q).transport.client.isSome = true

section Closing

variable {rely : TraceEvent → Prop} {q : PrinterId} {w : World} {past : List TraceEvent}

theorem Dialing.awaken (dialing : Dialing q w) (answer : Tick) : Dialing q (w.awaken answer) := by
  have spared := dialing.untended.awaken answer
  refine ⟨spared.untended, ?_⟩
  rw [spared.client]
  exact dialing.client

theorem Dialing.setTransport (dialing : Dialing q w) {change : Transport → Transport}
    (client : ∀ transport, (change transport).client = transport.client) :
    Dialing q (w.setTransport q change) := by
  refine ⟨dialing.untended, ?_⟩
  rw [World.setTransport_printers, if_pos rfl, client]
  exact dialing.client

/-- A disconnect lets go of the client, also when it fails. -/
theorem ensures_letGo :
    Ensures rely (BleTransport.disconnect q)
      ⟨fun _ w _ => (w.printers q).transport.client = none,
        fun _ w past => (w.printers q).transport.client = none ∧ EndsUnclosed q past,
        fun _ _ => True⟩ w past := by
  have gone : ∀ w : World, ((w.hangUp q).printers q).transport.client = none := by
    intro w
    rw [World.hangUp, World.setTransport_printers, if_pos rfl]
  apply Ensures.read_bind
  apply Ensures.ite
  · intro _
    apply Ensures.modify_bind
    apply ensures_tick_bind trivial
    intro answer _
    apply Ensures.modify_bind
    cases answer.bleakError with
    | none => exact Ensures.pure (gone _)
    | some text =>
        apply Ensures.emit_bind
        exact fun _ => Ensures.raise ⟨gone _, _, rfl⟩
  · intro absent
    exact Ensures.pure (Option.not_isSome_iff_eq_none.mp absent)

/-- Negotiating raises nothing. -/
theorem ensures_negotiates (dialing : Dialing q w) :
    Ensures rely (BleTransport.negotiate q)
      ⟨fun _ w _ => Dialing q w, fun _ _ _ => False, fun _ _ => True⟩ w past := by
  apply Ensures.read_bind
  apply Ensures.ite
  · intro _
    apply ensures_tick_bind trivial
    intro answer _
    have awake := dialing.awaken answer
    cases answer.mtu with
    | none => exact Ensures.pure awake
    | some mtu =>
        apply Ensures.ite
        · exact fun _ => Ensures.modify (awake.setTransport fun _ => rfl)
        · exact fun _ => Ensures.pure awake
  · exact fun _ => Ensures.pure dialing

/-- A connect that raises leaves no client, and the error is a `ConnectionError` unless taking the
connection down again failed. -/
theorem ensures_refused (device : Device) (untended : w.Untended q)
    (unlinked : w.isConnected q = false) :
    Ensures rely (BleTransport.connect q device)
      ⟨fun _ _ _ => True,
        fun error w past => (w.printers q).transport.client = none ∧
          (error.IsConnectionError ∨ EndsUnclosed q past),
        fun _ _ => True⟩ w past := by
  have subscribes : ∀ w past, Dialing q w → Ensures rely (BleTransport.subscribe q device)
      ⟨fun _ _ _ => True,
        fun error w past => (w.printers q).transport.client = none ∧
          (error.IsConnectionError ∨ EndsUnclosed q past),
        fun _ _ => True⟩ w past := by
    intro w past dialing
    apply Ensures.read_bind
    apply Ensures.ite
    · intro _
      apply ensures_tick_bind trivial
      intro answer _
      cases answer.bleakError with
      | none => exact Ensures.pure trivial
      | some text =>
          apply Ensures.seq ensures_letGo
          · exact fun _ _ _ gone => Ensures.raise ⟨gone, .inl trivial⟩
          · exact fun _ _ _ failed => failed.imp_right .inr
          · exact fun _ _ => id
    · exact fun absent => absurd dialing.client absent
  apply Ensures.read_bind
  apply Ensures.ite
  · exact fun connected => absurd connected (Bool.eq_false_iff.mp unlinked)
  · intro _
    apply Ensures.bind
    apply Ensures.read_bind
    apply Ensures.modify_bind
    apply Ensures.emit
    intro _
    apply ensures_tick_bind trivial
    intro answer _
    have dialed : Dialing q
        { w.setClient q (some ⟨w.nextClient, device.address⟩) with
          nextClient := w.nextClient + 1 } := by
      refine ⟨untended, ?_⟩
      change ((w.setClient q _).printers q).transport.client.isSome = true
      rw [World.setClient, World.setTransport_printers, if_pos rfl]
      rfl
    cases answer.bleakError with
    | some text =>
        apply Ensures.modify_bind
        refine Ensures.raise ⟨?_, .inl trivial⟩
        rw [World.setClient, World.setTransport_printers, if_pos rfl]
    | none =>
        have up : ∀ w, Dialing q w → Dialing q (w.setConnected q true) :=
          fun w dialing => dialing.setTransport fun _ => rfl
        apply Ensures.modify_bind
        apply Ensures.seq (ensures_negotiates (up _ (dialed.awaken answer)))
        · exact fun _ w past => subscribes w past
        · exact fun _ _ _ => False.elim
        · exact fun _ _ => id

end Closing

/-! ## The search -/

section

variable {env : Env} {start w : World} {devices : List Device} {past : List TraceEvent}

/-- A brief connection could not be closed while it was set up. -/
def LeftUnclosed (start : World) (past : List TraceEvent) : Prop :=
  ∃ q earlier, start.nextPrinter ≤ q ∧ past = earlier ++ [.disconnectFailed q]

/-- A brief connection comes up, or is refused and leaves nothing open. -/
theorem Brief.ensures_linked {q : PrinterId} {device : Device} (allocated : start.Allocated)
    (asked : device ∈ devices) (several : 2 ≤ (env.registry.profilesForName device.name).length)
    (brief : Brief env start devices q device w past) (unlinked : w.isConnected q = false) :
    Ensures (fun _ => True)
      (excepting (fun exc => exc.IsConnectionError) (Printer.connect env q))
      ⟨fun linked w past => (linked = none → Searching env start devices none w past) ∧
          (linked = some () → Brief env start devices q device w past),
        fun _ _ past => LeftUnclosed start past, fun _ _ => True⟩ w past := by
  have new := brief.new q rfl
  have connection :=
    @Brief.connection env start devices q device allocated asked several fun _ => True
  have refuses : Ensures (fun _ => True) (Printer.connect env q)
      ⟨fun _ _ _ => True,
        fun error w past => (w.printers q).transport.client = none ∧
          (error.IsConnectionError ∨ EndsUnclosed q past),
        fun _ _ => True⟩ w past := by
    apply Ensures.read_bind
    rw [brief.named]
    exact ensures_refused device (brief.untended q new) unlinked
  apply Ensures.handle
  apply Ensures.bind
  apply ((connection.connect env w past brief).and refuses).mono
  · rintro _ w past ⟨brief, -⟩
    exact Ensures.pure ⟨nofun, fun _ => brief⟩
  · rintro error w past ⟨⟨brief, -⟩, closed, reason⟩
    apply Ensures.ite
    · exact fun _ => Ensures.pure ⟨fun _ => brief.toSearching.ends closed, nofun⟩
    · intro other
      obtain ⟨earlier, ended⟩ := reason.resolve_left fun connection =>
        other (decide_eq_true connection)
      exact Ensures.raise ⟨q, earlier, new, ended⟩
  · exact fun _ _ _ => trivial

/-- It is closed whatever becomes of the query. -/
theorem Brief.ensures_asked {q : PrinterId} {device : Device} (allocated : start.Allocated)
    (asked : device ∈ devices) (several : 2 ≤ (env.registry.profilesForName device.name).length)
    (brief : Brief env start devices q device w past) :
    Ensures (fun _ => True)
      (andFinally (Bridge.querySerial q) (handle (Printer.disconnect q) fun _ => pure ()))
      ⟨fun _ => Searching env start devices none, fun _ _ _ => False, fun _ _ => True⟩ w past := by
  have connection :=
    @Brief.connection env start devices q device allocated asked several fun _ => True
  have asks : Upholds (fun _ => True) (Brief env start devices q device) (fun _ => False)
      (Bridge.querySerial q) := connection.toWireStable.bridgeSerial
  have hangsUp : Keeps (fun _ => True) (Brief env start devices q device)
      (BleTransport.disconnect q) := connection.disconnect fun _ => trivial
  apply Ensures.andFinally
  apply (asks w past brief).mono
  · intro _ w past brief
    apply Ensures.handle
    apply ((hangsUp w past brief).and ensures_letGo).mono
    · exact fun _ _ _ ended => ended.1.toSearching.ends ended.2
    · exact fun _ _ _ ended => Ensures.pure (ended.1.1.toSearching.ends ended.2.1)
    · exact fun _ _ _ => trivial
  · exact fun _ _ _ failed => failed.2.elim
  · exact fun _ _ _ => trivial

/-- Reading a serial leaves no connection behind. -/
theorem Searching.ensures_readSerial {device : Device} (allocated : start.Allocated)
    (asked : device ∈ devices) (several : 2 ≤ (env.registry.profilesForName device.name).length)
    (searching : Searching env start devices none w past) :
    Ensures (fun _ => True) (Bridge.readSerial env device)
      ⟨fun _ => Searching env start devices none, fun _ _ past => LeftUnclosed start past,
        fun _ _ => True⟩ w past := by
  apply Ensures.read_bind
  dsimp only
  split
  · next p found =>
      have asks : Upholds (fun _ => True) (Searching env start devices none) (fun _ => False)
          (Bridge.querySerial p) := (Searching.wire env start devices _ p).bridgeSerial
      exact (asks w past searching).mono (fun _ _ _ => id) (fun _ _ _ failed => failed.2.elim)
        fun _ _ _ => trivial
  · next absent =>
      obtain ⟨profile, chosen⟩ := @Registry.exists_profileForName env.registry device.name none
        (List.ne_nil_of_length_pos (Nat.zero_lt_two.trans_le several))
      unfold Bridge.factoryForName
      rw [chosen]
      apply Ensures.bind
      apply Ensures.read_bind
      apply Ensures.modify_bind
      apply Ensures.pure
      have made := searching.made profile (some (.device device)) allocated
      have brief : Brief env start devices w.nextPrinter device
          (w.withPrinter profile (some (.device device))) past := by
        refine ⟨made, ?_, fun p held connected same => ?_⟩
        · rw [World.withPrinter_new]
          rfl
        · have address : (w.printers p).addressText = (start.printers p).addressText :=
            congrArg (Option.map PrinterAddress.toText) (searching.address p held)
          refine (searching.link p held).resolve_left fun still => ?_
          have linked : w.isConnected p = true := by
            rw [World.isConnected, still]
            exact connected
          rw [searching.printer, held] at absent
          have away := Option.filter_eq_none_iff.mp absent p rfl
          exact away (decide_eq_true ⟨linked, by rw [address]; exact same⟩)
      have unlinked : (w.withPrinter profile (some (.device device))).isConnected w.nextPrinter =
          false := by
        rw [World.isConnected, World.withPrinter_new]
        rfl
      apply Ensures.seq (brief.ensures_linked allocated asked several unlinked)
      · rintro linked w past ⟨refused, brief⟩
        cases linked with
        | none => exact Ensures.pure (refused rfl)
        | some _ =>
            exact ((brief rfl).ensures_asked allocated asked several).mono (fun _ _ _ => id)
              (fun _ _ _ => False.elim) fun _ _ => id
      · exact fun _ _ _ => id
      · exact fun _ _ => id

/-- The devices that are left. -/
theorem Searching.ensures_identifyAll (allocated : start.Allocated) {left : List Device}
    (asked : ∀ device ∈ left, device ∈ devices)
    (known : ∀ device ∈ left, env.registry.profilesForName device.name ≠ [])
    (searching : Searching env start devices none w past) :
    Ensures (fun _ => True) (Bridge.identifyAll env left)
      ⟨fun _ => Searching env start devices none, fun _ _ past => LeftUnclosed start past,
        fun _ _ => True⟩ w past := by
  induction left generalizing w past with
  | nil => exact Ensures.pure searching
  | cons device left ih =>
      obtain ⟨first, others⟩ := List.forall_mem_cons.mp asked
      obtain ⟨first_known, others_known⟩ := List.forall_mem_cons.mp known
      have rest : ∀ (found : Found) w past, Searching env start devices none w past →
          Ensures (fun _ => True) (do
            let others ← Bridge.identifyAll env left
            return found :: others)
          ⟨fun _ => Searching env start devices none, fun _ _ past => LeftUnclosed start past,
            fun _ _ => True⟩ w past := by
        intro found w past searching
        apply Ensures.seq (ih others others_known searching)
        · exact fun _ _ _ => Ensures.pure
        · exact fun _ _ _ => id
        · exact fun _ _ => id
      unfold Bridge.identifyAll
      split
      · apply Ensures.bind
        exact Ensures.pure (rest _ w past searching)
      · next candidates several =>
          have two : 2 ≤ (env.registry.profilesForName device.name).length := by
            rcases shape : env.registry.profilesForName device.name with _ | ⟨first, _ | ⟨_, _⟩⟩
            · exact absurd shape first_known
            · exact absurd shape (several first)
            · simp
          apply Ensures.bind
          apply (searching.ensures_readSerial allocated first two).mono
          · intro serial w past searching
            obtain ⟨profile, chosen⟩ :=
              @Registry.exists_profileForName env.registry device.name serial first_known
            dsimp only
            rw [chosen]
            have notes : Upholds (fun _ => True) (Searching env start devices none) (fun _ => False)
                (Bridge.remember (some device.address)
                  [("serial", .ofString serial), ("model", .str profile.name)]) :=
              (Searching.idle env start devices none _).remember _ _
            apply Ensures.bind
            apply (notes w past searching).mono
            · intro _ w past searching
              apply Ensures.bind
              exact Ensures.pure (rest _ w past searching)
            · exact fun _ _ _ failed => failed.2.elim
            · exact fun _ _ _ => trivial
          · exact fun _ _ _ => id
          · exact fun _ _ => id

/-- Each device has an entry with one of its candidates. -/
theorem yields_identifyAll (env : Env) (devices : List Device) :
    Yields (fun found : List Found => found.map Found.device = devices ∧
      ∀ entry ∈ found, entry.profile ∈ env.registry.profilesForName entry.device.name)
      (Bridge.identifyAll env devices) := by
  induction devices with
  | nil => exact Yields.pure ⟨rfl, fun _ member => absurd member List.not_mem_nil⟩
  | cons device devices ih =>
      have rest : ∀ found : Found, found.device = device →
          found.profile ∈ env.registry.profilesForName device.name →
            Yields (fun all : List Found => all.map Found.device = device :: devices ∧
              ∀ entry ∈ all, entry.profile ∈ env.registry.profilesForName entry.device.name)
            (do
              let others ← Bridge.identifyAll env devices
              return found :: others) := by
        rintro found rfl candidate state past
        apply Ensures.seq (ih state past)
        · rintro others _ _ ⟨devices_eq, profiles⟩
          apply Ensures.pure
          exact ⟨congrArg _ devices_eq, List.forall_mem_cons.mpr ⟨candidate, profiles⟩⟩
        · exact fun _ _ _ => id
        · exact fun _ _ => id
      unfold Bridge.identifyAll
      split
      · next candidate only =>
          intro state past
          apply Ensures.bind
          apply Ensures.pure
          refine rest _ rfl ?_ state past
          rw [only]
          exact List.mem_singleton_self _
      · apply Yields.bind
        intro serial
        cases chosen : env.registry.profileForName device.name serial with
        | none => exact fun _ _ => Ensures.bind (Ensures.raise trivial)
        | some profile =>
            apply Yields.bind
            intro _ state past
            apply Ensures.bind
            apply Ensures.pure
            exact rest _ rfl (env.registry.profileForName_mem chosen) state past

/-- Inserting into a sorted list and filtering commute. -/
theorem filter_orderedInsert {α : Type} {le : α → α → Prop} [DecidableRel le] [IsTrans α le]
    (keep : α → Bool) (item : α) {items : List α} (sorted : items.Pairwise le) :
    (items.orderedInsert le item).filter keep =
      if keep item then (items.filter keep).orderedInsert le item else items.filter keep := by
  induction items with
  | nil => by_cases kept : keep item <;> simp [kept]
  | cons first items ih =>
      obtain ⟨least, others⟩ := List.pairwise_cons.mp sorted
      by_cases before : le item first
      · rw [List.orderedInsert_cons_of_le le items before]
        by_cases kept : keep item
        · have lowest : ∀ other ∈ (first :: items).filter keep, le item other := by
            intro other member
            rcases List.mem_cons.mp (List.mem_of_mem_filter member) with rfl | later
            · exact before
            · exact IsTrans.trans item first other before (least other later)
          rw [if_pos kept, List.filter_cons_of_pos kept]
          cases rest : (first :: items).filter keep with
          | nil => rfl
          | cons next rest' =>
              rw [rest] at lowest
              exact (List.orderedInsert_cons_of_le le _ (lowest next List.mem_cons_self)).symm
        · rw [if_neg kept, List.filter_cons_of_neg kept]
      · rw [List.orderedInsert_of_not_le le items before]
        by_cases known : keep first
        · rw [List.filter_cons_of_pos known, List.filter_cons_of_pos known, ih others]
          by_cases kept : keep item
          · rw [if_pos kept, if_pos kept, List.orderedInsert_of_not_le le _ before]
          · rw [if_neg kept, if_neg kept]
        · rw [List.filter_cons_of_neg known, List.filter_cons_of_neg known, ih others]

/-- Sorting and filtering commute. -/
theorem filter_insertionSort {α : Type} {le : α → α → Prop} [DecidableRel le] [IsTrans α le]
    [Std.Total le] (keep : α → Bool) (items : List α) :
    (items.insertionSort le).filter keep = (items.filter keep).insertionSort le := by
  induction items with
  | nil => rfl
  | cons item items ih =>
      have sorted := List.pairwise_insertionSort le items
      rw [List.insertionSort_cons, filter_orderedInsert keep item sorted, ih]
      by_cases kept : keep item
      · rw [if_pos kept, List.filter_cons_of_pos kept, List.insertionSort_cons]
      · rw [if_neg kept, List.filter_cons_of_neg kept]

/-- The scan raised: Bluetooth failed, or the patterns joined are no regular expression. -/
def ScanFails (env : Env) (trace : List TraceEvent) : Prop :=
  ∃ answer later, trace = .tick answer :: later ∧
    (answer.bleakError.isSome = true ∨
      ∃ text, env.registry.compile env.registry.joinedPattern = .error text)

/-- What the scan finds, less the devices of no known model. -/
theorem Env.filter_scan (env : Env) (search : String → Bool) (devices : List Device) :
    ((devices.filter fun device =>
        match device.name with
        | some name => name ≠ "" ∧ search name
        | none => false).insertionSort fun left right =>
          left.name.getD "" ≤ right.name.getD "").filter
        (fun device => !(env.registry.profilesForName device.name).isEmpty) =
      env.scanned search devices := by
  have trans : IsTrans Device fun left right => left.name.getD "" ≤ right.name.getD "" :=
    ⟨fun _ _ _ => String.le_trans⟩
  have total : Std.Total fun left right : Device => left.name.getD "" ≤ right.name.getD "" :=
    ⟨fun _ _ => String.le_total _ _⟩
  rw [filter_insertionSort, List.filter_filter, Env.scanned]
  congr 1
  apply List.filter_congr
  intro device _
  cases device.name with
  | none => rfl
  | some name =>
      by_cases empty : name = ""
      · simp [Registry.profilesForName, empty]
      · simp [empty, Bool.and_comm]

/-- A scan reports the devices of known models. -/
theorem ensures_scanned (env : Env) (numbered : start.Numbered) :
    Ensures (fun _ => True) (Bridge.scan env)
      ⟨fun devices w past =>
          (∃ answer later search, past = .tick answer :: later ∧
            env.registry.compile env.registry.joinedPattern = .ok search ∧
            devices = env.scanned search answer.devices) ∧
            ∀ targets, Searching env start targets none w past,
        fun _ _ past => ScanFails env past, fun _ _ => True⟩ start [] := by
  apply Ensures.bind
  apply ensures_tick_bind trivial
  intro answer _
  cases failed : answer.bleakError with
  | some text => exact Ensures.raise ⟨answer, _, rfl, .inl (by rw [failed]; rfl)⟩
  | none =>
      cases compiled : env.registry.compile env.registry.joinedPattern with
      | error text => exact Ensures.raise ⟨answer, _, rfl, .inr ⟨text, compiled⟩⟩
      | ok search =>
          apply Ensures.pure
          apply Ensures.pure
          refine ⟨⟨answer, _, search, rfl, rfl, ?_⟩, fun targets => ?_⟩
          · exact env.filter_scan search answer.devices
          · exact (Searching.begins env numbered targets).awaken answer

/-- A search tells the model of each printer and leaves the bridge's own as it was. -/
theorem ensures_discovers (env : Env) (numbered : start.Numbered) :
    Ensures (fun _ => True) (Bridge.discover env)
      ⟨fun found w past => Discovers env LinkLost start found w past,
        fun _ _ past => ScanFails env past ∨ LeftUnclosed start past, fun _ _ => True⟩
      start [] := by
  apply Ensures.seq (ensures_scanned env numbered)
  · rintro devices w past ⟨⟨answer, later, search, rfl, compiled, reported⟩, searching⟩
    have known : ∀ device ∈ devices, env.registry.profilesForName device.name ≠ [] := by
      intro device member
      rw [reported, Env.scanned, List.mem_insertionSort, List.mem_filter] at member
      simpa using (Bool.and_eq_true_iff.mp member.2).2
    have first : Ensures (fun _ => True) (Bridge.identifyAll env devices)
        ⟨fun _ _ trace => ∃ later, trace = .tick answer :: later,
          fun _ _ trace => ∃ later, trace = .tick answer :: later,
          fun _ trace => ∃ later, trace = .tick answer :: later⟩ w (.tick answer :: later) :=
      Ensures.of_past fun more => ⟨later ++ more, rfl⟩
    have entries := yields_identifyAll env devices w (.tick answer :: later)
    have searched := (searching devices).ensures_identifyAll numbered.allocated (fun _ => id) known
    apply ((first.and entries).and searched).mono
    · rintro found final trace ⟨⟨⟨more, same⟩, devices_eq, profiles⟩, searched⟩
      exact {
        entries := ⟨answer, more, search, same, compiled, devices_eq.trans reported⟩
        profiles := profiles
        probes := by
          intro before event after split q address overlapped dialed
          obtain ⟨new, ⟨device, member, at_device, several⟩, apart⟩ :=
            searched.dials before event after split q address overlapped dialed
          rw [← devices_eq] at member
          obtain ⟨entry, listed, rfl⟩ := List.mem_map.mp member
          exact ⟨new, ⟨entry, listed, at_device, several⟩, apart⟩
        printer := searched.printer
        profile := searched.profile
        link := searched.link
        timer := searched.timer
        closed := fun q new old => searched.closed q new old nofun }
    · exact fun _ _ _ failed => .inr failed.2
    · exact fun _ _ _ => trivial
  · exact fun _ _ _ => .inl
  · exact fun _ _ => id

end

/-! ## The awaits of a search -/

theorem BleTransport.within_disconnect (q : PrinterId) : Within 1 (BleTransport.disconnect q) := by
  apply Within.free_bind Within.read
  intro w
  apply Within.ite
  · apply Within.free_bind (Within.modify _)
    intro _
    apply within_tick_bind
    intro answer
    apply Within.free_bind (Within.modify _)
    intro _
    cases answer.bleakError with
    | none => exact Within.pure _
    | some text => exact Within.bind (Within.emit _) fun _ => Within.raise _
  · exact (Within.pure _).mono (Nat.zero_le 1)

theorem BleTransport.within_connect (q : PrinterId) (device : Device) :
    Within 4 (BleTransport.connect q device) := by
  have raises : ∀ (count : Nat) error, Within count (raise error : Py Unit) :=
    fun count error => (Within.raise error).mono (Nat.zero_le count)
  have negotiates : Within 1 (BleTransport.negotiate q) := by
    apply Within.free_bind Within.read
    intro w
    apply Within.ite
    · apply within_tick_bind
      intro answer
      cases answer.mtu with
      | none => exact Within.pure _
      | some mtu => exact Within.ite (Within.modify _) (Within.pure _)
    · exact (Within.pure _).mono (Nat.zero_le 1)
  have subscribes : Within 2 (BleTransport.subscribe q device) := by
    apply Within.free_bind Within.read
    intro w
    apply Within.ite
    · apply within_tick_bind
      intro answer
      cases answer.bleakError with
      | none => exact (Within.pure _).mono (Nat.zero_le 1)
      | some text => exact Within.bind (BleTransport.within_disconnect q) fun _ => Within.raise _
    · exact raises _ _
  have dials : Within 0 (BleTransport.dial q device) :=
    Within.bind Within.read fun _ => Within.bind (Within.modify _) fun _ => Within.emit _
  apply Within.free_bind Within.read
  intro w
  apply Within.ite
  · exact raises _ _
  · apply Within.free_bind dials
    intro _
    apply within_tick_bind
    intro answer
    cases answer.bleakError with
    | none =>
        apply Within.free_bind (Within.modify _)
        exact fun _ => Within.bind negotiates fun _ => subscribes
    | some text =>
        exact (Within.bind (Within.modify _) fun _ => Within.raise _).mono (Nat.zero_le 3)

theorem within_connect (env : Env) (q : PrinterId) : Within 5 (Printer.connect env q) := by
  have raises : ∀ (count : Nat) error, Within count (raise error : Py Unit) :=
    fun count error => (Within.raise error).mono (Nat.zero_le count)
  have scans : ∀ search, Within 1 (scanDevices (.ok search)) := by
    intro search
    apply within_tick_bind
    intro answer
    cases answer.bleakError with
    | none => exact Within.pure _
    | some text => exact Within.raise _
  apply Within.free_bind Within.read
  intro w
  cases (w.printers q).address with
  | none =>
      apply Within.free_bind Within.read
      intro w
      apply @Within.bind _ _ _ _ _ _ 1 4 _ _ (scans _)
      intro devices
      rcases devices with _ | ⟨device, _ | ⟨other, devices⟩⟩
      · exact raises _ _
      · exact Within.free_bind (Within.modify _) fun _ => BleTransport.within_connect q device
      · exact raises _ _
  | some address =>
      cases address with
      | text address =>
          apply within_tick_bind
          intro answer
          cases answer.bleakError with
          | some text => exact raises _ _
          | none =>
              cases answer.found with
              | none => exact raises _ _
              | some device =>
                  exact Within.free_bind (Within.emit _) fun _ =>
                    Within.free_bind (Within.modify _) fun _ => BleTransport.within_connect q device
      | device device => exact (BleTransport.within_connect q device).mono (by decide)

theorem within_querySerial (p : PrinterId) : Within 2 (Bridge.querySerial p) :=
  Within.handle (Within.bind (within_query p .serialAscii .serialEvent) fun _ => Within.pure _)
    fun _ => Within.pure _

theorem within_readSerial (env : Env) (device : Device) :
    Within 9 (Bridge.readSerial env device) := by
  have links : ∀ q, Within 5
      (excepting (fun exc => exc.IsConnectionError) (Printer.connect env q)) := by
    intro q
    have linked : Within 5 (Printer.connect env q >>= fun value => pure (some value)) :=
      Within.bind (within_connect env q) fun _ => Within.pure _
    exact Within.handle linked fun error => Within.ite (Within.pure _) (Within.raise _)
  have hangsUp : ∀ q, Within 1 (handle (Printer.disconnect q) fun _ => pure ()) := fun q =>
    Within.handle (BleTransport.within_disconnect q) fun _ => Within.pure ()
  have asks : ∀ q, Within 4
      (andFinally (Bridge.querySerial q) (handle (Printer.disconnect q) fun _ => pure ())) :=
    fun q => Within.andFinally (within_querySerial q) (hangsUp q)
  apply Within.free_bind Within.read
  intro w
  dsimp only
  split
  · next p held => exact (within_querySerial p).mono (by decide)
  · unfold Bridge.factoryForName
    cases env.registry.profileForName device.name none with
    | none => exact (Within.raise _).mono (Nat.zero_le 9)
    | some profile =>
        have makes : Within 0 (Bridge.factory profile (some (.device device))) :=
          Within.bind Within.read fun _ => Within.bind (Within.modify _) fun _ => Within.pure _
        apply Within.free_bind makes
        intro q
        apply @Within.bind _ _ _ _ _ _ 5 4 _ _ (links q)
        intro linked
        cases linked with
        | none => exact (Within.pure _).mono (Nat.zero_le 4)
        | some _ => exact asks q

theorem within_identifyAll (env : Env) (devices : List Device) :
    Within (9 * devices.length) (Bridge.identifyAll env devices) := by
  induction devices with
  | nil => exact Within.pure []
  | cons device devices ih =>
      have rest : ∀ found : Found, Within (9 * devices.length) (do
          let others ← Bridge.identifyAll env devices
          return found :: others) :=
        fun found => Within.bind ih fun _ => Within.pure _
      unfold Bridge.identifyAll
      rw [List.length_cons, Nat.mul_succ, Nat.add_comm]
      split
      · next candidate _ =>
          exact (Within.free_bind (Within.pure _) rest).mono (Nat.le_add_left _ _)
      · refine Within.bind (within_readSerial env device) fun serial => ?_
        cases env.registry.profileForName device.name serial with
        | none => exact Within.free_bind ((Within.raise _).mono le_rfl) rest
        | some profile =>
            have notes : Within 0 (Bridge.remember (some device.address)
                [("serial", .ofString serial), ("model", .str profile.name)]) := Within.modify _
            exact Within.free_bind notes fun _ => Within.free_bind (Within.pure _) rest

/-- A scan awaits one answer, and reports none but its devices. -/
theorem scan_takes (env : Env) (w : World) (answer : Tick) (script : List Tick) :
    (∀ devices final rest,
        (Bridge.scan env w (answer :: script)).ending = .returned devices final rest →
          rest = script ∧ devices.length ≤ answer.devices.length) ∧
      ∀ final, (Bridge.scan env w (answer :: script)).ending ≠ .waiting final := by
  simp only [Bridge.scan, scanDevices, bind, Coroutine.bind, tick_cons]
  cases answer.bleakError with
  | some text =>
      constructor
      · rintro devices final rest ⟨⟩
      · rintro final ⟨⟩
  | none =>
      cases env.registry.compile env.registry.joinedPattern with
      | error text =>
          constructor
          · rintro devices final rest ⟨⟩
          · rintro final ⟨⟩
      | ok search =>
          constructor
          · rintro devices final rest ⟨⟩
            refine ⟨rfl, (List.length_filter_le _ _).trans ?_⟩
            rw [List.length_insertionSort]
            exact List.length_filter_le _ _
          · rintro final ⟨⟩

/-- A search that returns has told the model of each printer and left the bridge's own as it was,
but for the loss of its link.  It raises only when the scan does or when a brief connection cannot
be taken down after a failed subscribe, and otherwise returns. -/
theorem discover_leaves (env : Env) (w : World) (numbered : w.Numbered) (script : List Tick) :
    (∀ found final rest, (Bridge.discover env w script).ending = .returned found final rest →
        Discovers env LinkLost w found final (Bridge.discover env w script).trace) ∧
      (∀ error final rest, (Bridge.discover env w script).ending = .raised error final rest →
        ScanFails env (Bridge.discover env w script).trace ∨
          LeftUnclosed w (Bridge.discover env w script).trace) ∧
      ∀ answer later, script = answer :: later → 9 * answer.devices.length ≤ later.length →
        ∀ final, (Bridge.discover env w script).ending ≠ .waiting final := by
  refine ⟨?_, ?_, ?_⟩
  · intro found final rest returned
    exact (ensures_discovers env numbered script fun _ _ => trivial).returned returned
  · intro error final rest raised
    exact (ensures_discovers env numbered script fun _ _ => trivial).raised raised
  · rintro answer later rfl enough
    obtain ⟨returns, ends⟩ := scan_takes env w answer later
    change ∀ final,
      (Coroutine.bind (Bridge.scan env) (Bridge.identifyAll env) w (answer :: later)).ending ≠ _
    unfold Coroutine.bind
    generalize Bridge.scan env w (answer :: later) = outcome at returns ends ⊢
    obtain ⟨trace, ⟨devices, middle, left⟩ | ⟨error, middle, left⟩ | ⟨middle⟩⟩ := outcome
    · obtain ⟨rfl, few⟩ := returns devices middle left rfl
      intro final waits
      have within := within_identifyAll env devices middle left
      simp only [Run.after_ending] at waits
      rw [waits] at within
      dsimp only at within
      omega
    · rintro final ⟨⟩
    · exact absurd rfl (ends middle)

theorem linkedBridge_numbered : Session.linkedBridge.Numbered := by
  refine fun q new => ⟨?_, List.not_mem_nil⟩
  rintro ⟨⟩
  exact absurd new (by decide)

/-- One printer is the held one, the other is asked over a brief connection. -/
theorem discover_leaves_two_printers :
    ∃ found final rest, (Bridge.discover twoStripsEnv Session.linkedBridge
        [{ devices := [⟨"S", some "S"⟩, ⟨"T", some "T"⟩] }, {},
          { incidents := [.notified 0 [⟨0, [], .serial "W1"⟩]] }, {}, {}, {}, {},
          { incidents := [.notified 1 [⟨0, [], .serial "W1"⟩]] }, {}]).ending =
        .returned found final rest ∧
      Discovers twoStripsEnv LinkLost Session.linkedBridge found final
        (Bridge.discover twoStripsEnv Session.linkedBridge
          [{ devices := [⟨"S", some "S"⟩, ⟨"T", some "T"⟩] }, {},
            { incidents := [.notified 0 [⟨0, [], .serial "W1"⟩]] }, {}, {}, {}, {},
            { incidents := [.notified 1 [⟨0, [], .serial "W1"⟩]] }, {}]).trace := by
  have returns : (Bridge.discover twoStripsEnv Session.linkedBridge
        [{ devices := [⟨"S", some "S"⟩, ⟨"T", some "T"⟩] }, {},
          { incidents := [.notified 0 [⟨0, [], .serial "W1"⟩]] }, {}, {}, {}, {},
          { incidents := [.notified 1 [⟨0, [], .serial "W1"⟩]] }, {}]).hasReturned = true := by
    decide +kernel
  obtain ⟨trace, found, final, rest, run⟩ := Run.exists_of_hasReturned returns
  have returned := congrArg Run.ending run
  exact ⟨found, final, rest, returned,
    (discover_leaves twoStripsEnv _ linkedBridge_numbered _).1 found final rest returned⟩

/-- A printer whose name is the letter twice. -/
def twice (letter pattern : String) : PrinterProfile :=
  { strip with name := letter, bleNamePattern := pattern }

theorem twice_nodup :
    ([twice "A" "^(A)\\1$", twice "B" "^(B)\\1$"].map PrinterProfile.name).Nodup := by
  decide

/-- Two patterns with a group each.  In the joined pattern both back references mean the first
group, so the second model's name is not found. -/
def doubled (pattern : String) : Except String (String → Bool) :=
  .ok fun name =>
    if pattern = "^(B)\\1$" then name = "BB" ∨ name = "BB\n" else name = "AA" ∨ name = "AA\n"

theorem doubled_compiles : ∀ profile ∈ [twice "A" "^(A)\\1$", twice "B" "^(B)\\1$"],
    ∃ search, doubled profile.bleNamePattern = .ok search :=
  fun _ _ => ⟨_, rfl⟩

/-- The surroundings with these models. -/
def doubledEnv : Env :=
  { stripEnv with
    registry :=
      { profiles := [twice "A" "^(A)\\1$", twice "B" "^(B)\\1$"]
        compile := doubled
        names_nodup := twice_nodup
        compiles := doubled_compiles } }

/-- A write of the serial query fails on the held connection, which nothing else has taken; and a
device whose name a model's own pattern matches is left out by the joined one. -/
theorem discover_unlinks_held :
    ∃ found final, Session.linkedBridge.Numbered ∧
      (Bridge.discover twoStripsEnv Session.linkedBridge
        [{ devices := [⟨"S", some "S"⟩] }, { bleakError := some "lost" }]).ending =
        .returned found final [] ∧
      ¬Discovers twoStripsEnv LinkTaken Session.linkedBridge found final
        (Bridge.discover twoStripsEnv Session.linkedBridge
          [{ devices := [⟨"S", some "S"⟩] }, { bleakError := some "lost" }]).trace ∧
      (∃ later, (Bridge.discover doubledEnv Session.linkedBridge
        [{ devices := [⟨"B", some "BB"⟩] }]).ending = .returned [] later []) ∧
      (doubledEnv.registry.profilesForName (some "BB")).map PrinterProfile.name = ["B"] := by
  have run : ∃ found final bytes, Bridge.discover twoStripsEnv Session.linkedBridge
        [{ devices := [⟨"S", some "S"⟩] }, { bleakError := some "lost" }] =
      ⟨[.tick { devices := [⟨"S", some "S"⟩] }, .wrote 0 "S" bytes,
        .tick { bleakError := some "lost" }, .writeFailed 0], .returned found final []⟩ ∧
      (final.printers 0).transport.connected = false := ⟨_, _, _, rfl, rfl⟩
  obtain ⟨found, final, bytes, run, down⟩ := run
  refine ⟨found, final, linkedBridge_numbered, congrArg Run.ending run, ?_, ⟨_, rfl⟩, by decide⟩
  rw [run]
  intro discovers
  rcases discovers.link 0 rfl with same | ⟨answer, member, incident, happened, -⟩
  · rw [same] at down
    exact absurd down.symm Bool.false_ne_true
  · have quiet : answer.incidents = [] := by
      rcases List.mem_cons.mp member with first | member
      · exact congrArg Tick.incidents (TraceEvent.tick.inj first)
      · simp only [List.mem_cons, reduceCtorEq, false_or, List.not_mem_nil, or_false] at member
        exact congrArg Tick.incidents (TraceEvent.tick.inj member)
    rw [quiet] at happened
    exact absurd happened List.not_mem_nil

end Phomemo
