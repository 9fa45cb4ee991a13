import Mathlib.Data.Set.Insert
import Phomemo.Upkeep.Commands

/-!
# Connections while a page is interrupted

The interruptions a page survives, and what they leave alone: no hold's disconnect is under way,
no abort was asked for, and the printers whose clients are in use keep them.  Under them the work
on a printer and every attempt to connect one fail with a `ConnectionError` only.
-/

namespace Phomemo

open Async Coroutine

/-- The interruptions a page survives.  An MTU is at least 23, and what is ruled out takes a client
away for good, ends the wait for a sheet, or starts an attempt without a link. -/
def Interruptions : TraceEvent → Prop
  | .tick answer => .abort ∉ answer.incidents ∧ ∀ mtu ∈ answer.mtu, 23 ≤ mtu
  | .holdDropped _ => False
  | .disconnectFailed _ => False
  | .printCalled call => call.linked = true
  | .recoveryFailed => False
  | .oldSheetStuck _ => False
  | _ => True

instance : DecidablePred Interruptions := fun event => by
  unfold Interruptions
  split <;> infer_instance

/-- What stays as it is while no hold's disconnect takes effect and no abort arrives. -/
structure World.Settled (before after : World) : Prop where
  printer : after.bridge.printer = before.bridge.printer
  inFlight : after.bridge.holdInFlight = before.bridge.holdInFlight
  abort : after.session.abort = before.session.abort
  profile : ∀ p, (after.printers p).profile = (before.printers p).profile
  transportProfile : ∀ p,
    (after.printers p).transport.profile = (before.printers p).transport.profile
  client : ∀ p, (after.printers p).transport.client = (before.printers p).transport.client
  chunk : ∀ p, (after.printers p).transport.effectiveChunkBytes =
    (before.printers p).transport.effectiveChunkBytes
  connected : ∀ p, (after.printers p).transport.connected = true →
    (before.printers p).transport.connected = true

namespace World

variable {w after : World}

theorem Settled.refl (w : World) : w.Settled w :=
  ⟨rfl, rfl, rfl, fun _ => rfl, fun _ => rfl, fun _ => rfl, fun _ => rfl, fun _ => id⟩

theorem Settled.trans {third : World} (earlier : w.Settled after) (later : after.Settled third) :
    w.Settled third where
  printer := later.printer.trans earlier.printer
  inFlight := later.inFlight.trans earlier.inFlight
  abort := later.abort.trans earlier.abort
  profile := fun p => (later.profile p).trans (earlier.profile p)
  transportProfile := fun p => (later.transportProfile p).trans (earlier.transportProfile p)
  client := fun p => (later.client p).trans (earlier.client p)
  chunk := fun p => (later.chunk p).trans (earlier.chunk p)
  connected := fun p connected => earlier.connected p (later.connected p connected)

theorem Quiet.settled (quiet : w.Quiet after) : w.Settled after where
  printer := quiet.printer
  inFlight := by rw [quiet.bridge]
  abort := quiet.abort
  profile := quiet.profile
  transportProfile := quiet.transportProfile
  client := quiet.client
  chunk := quiet.chunk
  connected := fun p connected => (quiet.connected p).symm.trans connected

/-- A link that is down stays down. -/
theorem Settled.offline (settled : w.Settled after) {p : PrinterId}
    (offline : w.isConnected p = false) : after.isConnected p = false := by
  by_contra online
  simp only [isConnected, Transport.isConnected, Bool.not_eq_false, Bool.and_eq_true] at online
  have before : w.isConnected p = true := by
    simp only [isConnected, Transport.isConnected, Bool.and_eq_true]
    exact ⟨settled.connected p online.1, by rw [← settled.client p]; exact online.2⟩
  exact Bool.false_ne_true (offline.symm.trans before)

theorem settled_setBridge {change : Bridge → Bridge}
    (printer : (change w.bridge).printer = w.bridge.printer)
    (inFlight : (change w.bridge).holdInFlight = w.bridge.holdInFlight) :
    w.Settled (w.setBridge change) :=
  ⟨printer, inFlight, rfl, fun _ => rfl, fun _ => rfl, fun _ => rfl, fun _ => rfl, fun _ => id⟩

/-- A change of what a printer object knows of its device. -/
theorem settled_setPrinter (p : PrinterId) {change : Printer → Printer}
    (profile : (change (w.printers p)).profile = (w.printers p).profile)
    (transport : (change (w.printers p)).transport = (w.printers p).transport) :
    w.Settled (w.setPrinter p change) := by
  refine ⟨rfl, rfl, rfl, ?_, ?_, ?_, ?_, ?_⟩ <;> intro q <;> rw [setPrinter_printers] <;> split
  · exact ‹q = p› ▸ profile
  · rfl
  all_goals first
    | rw [transport, ‹q = p›]
    | rfl
    | exact id
  exact id

/-- A link goes down. -/
theorem settled_setConnected (p : PrinterId) : w.Settled (w.setConnected p false) := by
  refine ⟨rfl, rfl, rfl, ?_, ?_, ?_, ?_, ?_⟩ <;> intro q <;>
    rw [setConnected, setTransport_printers] <;> dsimp only <;> split
  case refine_5.isTrue => exact fun up => Bool.noConfusion up
  case refine_5.isFalse => exact id
  all_goals rfl

theorem settled_startHoldTask (undropped : ∀ pending, .holdDropped pending ∉ w.startHoldTask.2) :
    w.Settled w.startHoldTask.1 := by
  have cancelled : w.Settled w.cancelHold := settled_setBridge rfl rfl
  unfold startHoldTask at undropped ⊢
  simp only at undropped ⊢
  cases held : w.cancelHold.bridge.printer with
  | none => simpa only [held] using cancelled
  | some p =>
      simp only [held] at undropped ⊢
      split
      · next online => simp [online] at undropped
      · exact cancelled

theorem settled_happen {incident : Incident} (unheld : w.bridge.holdInFlight = [])
    (other : incident ≠ .abort)
    (undropped : ∀ pending, .holdDropped pending ∉ (w.happen incident).2) :
    w.Settled (w.happen incident).1 := by
  cases incident with
  | abort => exact absurd rfl other
  | dropped p => exact settled_setConnected p
  | notified p events =>
      exact (quiet_setListeners p fun listeners => listeners.notify events).settled
  | holdExpires =>
      simp only [happen]
      split
      · dsimp only
        apply settled_setBridge <;> rfl
      · exact .refl w
  | holdStarts =>
      simp only [happen] at undropped ⊢
      cases scheduled : w.bridge.holdScheduled with
      | zero => exact .refl w
      | succ count =>
          simp only [scheduled] at undropped
          apply Settled.trans _ (settled_startHoldTask undropped)
          apply settled_setBridge <;> rfl
  | holdEnds p =>
      simp only [happen, unheld]
      exact .refl w

/-- An await of a page that is not aborted, while no hold's disconnect takes effect. -/
theorem settled_awaken {answer : Tick} (unheld : w.bridge.holdInFlight = [])
    (relied : ∀ event ∈ w.awakening answer, Interruptions event) :
    w.Settled (w.awaken answer) := by
  have unaborted : ∀ incident ∈ answer.incidents, incident ≠ .abort := by
    rintro _ member rfl
    exact (relied (.tick answer) List.mem_cons_self).1 member
  have settled : w.Settled (w.happenAll answer.incidents).1 := by
    apply @happenAll_induction w Interruptions (fun now _ => w.Settled now) _ _ _ unaborted []
      (.refl w) fun event member => relied event (List.mem_cons_of_mem _ member)
    intro now _ incident other settled calm
    apply settled.trans
    apply settled_happen (settled.inFlight.trans unheld) other
    exact fun pending member => calm _ member
  exact ⟨settled.printer, settled.inFlight, settled.abort, settled.profile,
    settled.transportProfile, settled.client, settled.chunk, settled.connected⟩

end World

/-- A profile whose numbers fit the print commands, with chunks no query exceeds. -/
structure PrinterProfile.Usable (profile : PrinterProfile) : Prop where
  fits : profile.Fits
  chunk : 20 ≤ profile.maxChunkBytes

/-- A printer object of usable profiles. -/
structure Printer.Usable (printer : Printer) : Prop where
  profile : printer.profile.Usable
  transportProfile : printer.transport.profile.Usable
  chunk : 20 ≤ printer.transport.effectiveChunkBytes

theorem Printer.usable_new {profile : PrinterProfile} (usable : profile.Usable)
    (address : Option PrinterAddress) : (Printer.new profile address).Usable :=
  ⟨usable, usable, usable.chunk⟩

/-- The bridge holds a printer, nothing takes clients away, and those in use are there. -/
structure Calm (mine : Set PrinterId) (w : World) : Prop where
  usable : ∀ p, (w.printers p).Usable
  unheld : w.bridge.holdInFlight = []
  unaborted : w.session.abort = false
  held : w.bridge.printer ≠ none
  clients : ∀ p ∈ mine, (w.printers p).transport.client.isSome

namespace Calm

variable {mine fewer : Set PrinterId} {p : PrinterId} {w after : World}

theorem settle (calm : Calm mine w) (settled : w.Settled after) : Calm mine after where
  usable := fun p => by
    have before := calm.usable p
    refine ⟨?_, ?_, ?_⟩
    · rw [settled.profile]
      exact before.profile
    · rw [settled.transportProfile]
      exact before.transportProfile
    · rw [settled.chunk]
      exact before.chunk
  unheld := settled.inFlight.trans calm.unheld
  unaborted := settled.abort.trans calm.unaborted
  held := by
    rw [settled.printer]
    exact calm.held
  clients := fun p inHand => by
    rw [settled.client]
    exact calm.clients p inHand

theorem mono (calm : Calm mine w) (subset : fewer ⊆ mine) : Calm fewer w :=
  { calm with clients := fun p inHand => calm.clients p (subset inHand) }

theorem bare (calm : Calm mine w) : Calm ∅ w := calm.mono (Set.empty_subset mine)

/-- A printer with a live link has its client. -/
theorem insert_of_connected (calm : Calm mine w) (online : w.isConnected p = true) :
    Calm (insert p mine) w :=
  { calm with
    clients := by
      rintro q (rfl | inHand)
      · simp only [World.isConnected, Transport.isConnected, Bool.and_eq_true] at online
        exact online.2
      · exact calm.clients q inHand }

/-- A change of one transport that keeps its profile and enough chunk size. -/
theorem setTransport (calm : Calm mine w) {change : Transport → Transport}
    (profile : (change (w.printers p).transport).profile.Usable)
    (chunk : 20 ≤ (change (w.printers p).transport).effectiveChunkBytes)
    (clients : ∀ q ∈ fewer, q ≠ p → q ∈ mine)
    (client : p ∈ fewer → (change (w.printers p).transport).client.isSome) :
    Calm fewer (w.setTransport p change) where
  usable := fun q => by
    rw [World.setTransport_printers]
    have before := calm.usable q
    by_cases same : q = p
    · subst q
      simpa using ⟨before.profile, profile, chunk⟩
    · simpa [same] using ⟨before.profile, before.transportProfile, before.chunk⟩
  unheld := calm.unheld
  unaborted := calm.unaborted
  held := calm.held
  clients := fun q inHand => by
    rw [World.setTransport_printers]
    by_cases same : q = p
    · subst q
      simpa using client inHand
    · simpa [same] using calm.clients q (clients q inHand same)

end Calm

/-! ## Work on a printer in use -/

/-- The program keeps the state calm and raises only what `fails` allows. -/
abbrev KeepsCalm {α : Type} (mine : Set PrinterId) (fails : PyExc → Prop) (program : Py α) :
    Prop :=
  Upholds Interruptions (fun w _ => Calm mine w) fails program

/-- From a calm state the program comes back to one, and raises nothing. -/
abbrev Survives {α : Type} (mine : Set PrinterId) (program : Py α) : Prop :=
  KeepsCalm mine (fun _ => False) program

/-- From a calm state the program comes back to one, or loses its connection. -/
abbrev MayLose {α : Type} (mine : Set PrinterId) (program : Py α) : Prop :=
  KeepsCalm mine PyExc.IsConnectionError program

/-- What settled states keep, awaits and work on printers keep. -/
theorem settled_wire {inv : World → Prop} (unheld : ∀ w, inv w → w.bridge.holdInFlight = [])
    (kept : ∀ w after, w.Settled after → inv w → inv after) (p : PrinterId) :
    WireStable Interruptions (fun w _ => inv w) p where
  awaken := fun w _ _ holds relied =>
    kept w _ (World.settled_awaken (unheld w holds) relied) holds
  quiet := fun w after _ quiet holds => kept w after quiet.settled holds
  event := fun _ _ _ _ holds _ => holds
  wrote := fun _ _ _ _ holds _ _ _ => holds
  lost := fun w _ holds _ => kept w _ (World.settled_setConnected p) holds

namespace Calm

variable {mine : Set PrinterId} {p : PrinterId}

theorem wire (p : PrinterId) : WireStable Interruptions (fun w _ => Calm mine w) p :=
  settled_wire (fun _ => Calm.unheld) (fun _ _ settled calm => calm.settle settled) p

theorem idle : IdleStable Interruptions fun w _ => Calm mine w := (wire 0).toIdleStable

/-- A calm state with a known chunk size. -/
abbrev Sized (mine : Set PrinterId) (p : PrinterId) (chunk : Int) (w : World) : Prop :=
  Calm mine w ∧ (w.printers p).transport.effectiveChunkBytes = chunk

theorem sized_wire (chunk : Int) :
    WireStable Interruptions (fun w _ => Sized mine p chunk w) p :=
  settled_wire (fun _ sized => sized.1.unheld)
    (fun _ _ settled sized => ⟨sized.1.settle settled, (settled.chunk p).trans sized.2⟩) p

/-- A printer in use fails by losing its connection only. -/
theorem sized_fails {chunk : Int} (inHand : p ∈ mine) :
    WireFails (fun w _ => Sized mine p chunk w) p PyExc.IsConnectionError where
  connection := fun _ => trivial
  unconnected := by
    intro w _ sized absent
    have present := sized.1.clients p inHand
    rw [absent] at present
    exact absurd present Bool.false_ne_true
  oversize := by
    intro size within _ _ sized tooLong _
    have enough := (sized.1.usable p).chunk
    rw [sized.2] at tooLong enough
    rcases within with small | ⟨other, _, sized', fits⟩
    · omega
    · rw [sized'.2] at fits
      omega

/-- Work that keeps the chunk size. -/
theorem ofSized {α : Type} {program : Py α} {fails : PyExc → Prop}
    (upholds : ∀ chunk, Upholds Interruptions (fun w _ => Sized mine p chunk w) fails program) :
    KeepsCalm mine fails program :=
  fun _ _ calm => (upholds _).ensures ⟨calm, rfl⟩ (fun _ _ _ => And.left)
    (fun _ _ _ sized failed => ⟨sized.1, failed⟩) (fun _ _ => And.left)

theorem queryLid (inHand : p ∈ mine) : MayLose mine (Printer.queryLid p) :=
  ofSized fun chunk => (sized_wire chunk).queryLid (sized_fails inHand)

theorem queryPaper (inHand : p ∈ mine) : MayLose mine (Printer.queryPaper p) :=
  ofSized fun chunk => (sized_wire chunk).queryPaper (sized_fails inHand)

theorem checkReady (inHand : p ∈ mine) : MayLose mine (Printer.checkReady p) :=
  ofSized fun chunk => (sized_wire chunk).checkReady (sized_fails inHand)

theorem ejectPaper (inHand : p ∈ mine) : MayLose mine (Printer.ejectPaper p) :=
  ofSized fun chunk => (sized_wire chunk).ejectPaper (sized_fails inHand)

end Calm

/-! ## Connecting -/

/-- Once connected the printer is in use; a connection that fails leaves the others in use. -/
abbrev Connects (mine : Set PrinterId) (p : PrinterId) : Post PyExc World TraceEvent Unit where
  returned := fun _ w _ => Calm (insert p mine) w
  raised := fun error w _ => error.IsConnectionError ∧ Calm (mine \ {p}) w
  waiting := fun w _ => Calm ∅ w

/-- A calm state in which a printer's link is down. -/
structure Offline (mine : Set PrinterId) (p : PrinterId) (w : World) : Prop where
  calm : Calm mine w
  unlinked : w.isConnected p = false

namespace Offline

variable {mine : Set PrinterId} {p : PrinterId} {w after : World}

theorem settle (offline : Offline mine p w) (settled : w.Settled after) : Offline mine p after :=
  ⟨offline.calm.settle settled, settled.offline offline.unlinked⟩

/-- The printer object learns about its device. -/
theorem rename (offline : Offline mine p w) {change : Printer → Printer}
    (profile : ∀ printer, (change printer).profile = printer.profile)
    (transport : ∀ printer, (change printer).transport = printer.transport) :
    Offline mine p (w.setPrinter p change) :=
  offline.settle (World.settled_setPrinter p (profile _) (transport _))

end Offline

namespace Calm

variable {mine : Set PrinterId} {p : PrinterId} {w : World} {past : List TraceEvent}

theorem offline_wire (q : PrinterId) : WireStable Interruptions (fun w _ => Offline mine p w) q :=
  settled_wire (fun _ offline => offline.calm.unheld)
    (fun _ _ settled offline => offline.settle settled) q

theorem hangUp (calm : Calm mine w) (p : PrinterId) : Offline (mine \ {p}) p (w.hangUp p) := by
  constructor
  · apply calm.setTransport
    · exact (calm.usable p).transportProfile
    · exact (calm.usable p).transportProfile.chunk
    · exact fun _ inHand _ => inHand.1
    · exact fun inHand => absurd rfl inHand.2
  · simp [World.isConnected, World.hangUp, World.setTransport_printers, Transport.isConnected]

theorem up (calm : Calm mine w) (p : PrinterId) : Calm mine (w.setConnected p true) := by
  apply calm.setTransport
  · exact (calm.usable p).transportProfile
  · exact (calm.usable p).chunk
  · exact fun _ inHand _ => inHand
  · exact calm.clients p

theorem disconnect (p : PrinterId) (calm : Calm mine w) :
    Ensures Interruptions (BleTransport.disconnect p)
      ⟨fun _ w _ => Offline (mine \ {p}) p w, fun _ _ _ => False, fun w _ => Calm ∅ w⟩
      w past := by
  apply Ensures.read_bind
  apply Ensures.ite
  · intro _
    apply Ensures.modify_bind
    have lost : Calm mine (w.setConnected p false) :=
      calm.settle (World.settled_setConnected p)
    apply ensures_tick_bind lost.bare
    intro answer relied
    have awake := lost.settle (World.settled_awaken lost.unheld relied)
    apply Ensures.modify_bind
    cases answer.bleakError with
    | none => exact Ensures.pure (awake.hangUp p)
    | some text =>
        apply Ensures.emit_bind
        exact False.elim
  · intro absent
    apply Ensures.pure
    refine ⟨calm.mono Set.sdiff_subset, ?_⟩
    rw [World.isConnected, Transport.isConnected, Bool.eq_false_of_not_eq_true absent,
      Bool.and_false]

theorem negotiate (mine : Set PrinterId) (p : PrinterId) :
    Survives mine (BleTransport.negotiate p) := by
  intro w past calm
  apply Ensures.read_bind
  apply Ensures.ite
  · intro _
    apply ensures_tick_bind calm
    intro answer relied
    have awake := calm.settle (World.settled_awaken calm.unheld relied)
    have usual := (relied (.tick answer) List.mem_cons_self).2
    cases measured : answer.mtu with
    | none => exact Ensures.pure awake
    | some mtu =>
        have enough : 23 ≤ mtu := usual mtu measured
        apply Ensures.ite
        · intro _
          apply Ensures.modify
          apply awake.setTransport
          · exact (awake.usable p).transportProfile
          · exact Int.le_sub_right_of_add_le enough
          · exact fun _ inHand _ => inHand
          · exact awake.clients p
        · exact fun _ => Ensures.pure awake
  · exact fun _ => Ensures.pure calm

theorem subscribe (device : Device) (inHand : p ∈ mine) (calm : Calm mine w) :
    Ensures Interruptions (BleTransport.subscribe p device)
      ⟨fun _ w _ => Calm mine w, fun error w _ => error.IsConnectionError ∧ Calm (mine \ {p}) w,
        fun w _ => Calm ∅ w⟩ w past := by
  apply Ensures.read_bind
  apply Ensures.ite
  · intro _
    apply ensures_tick_bind calm.bare
    intro answer relied
    have awake := calm.settle (World.settled_awaken calm.unheld relied)
    cases answer.bleakError with
    | none => exact Ensures.pure awake
    | some text =>
        apply Ensures.seq (awake.disconnect p)
        · exact fun _ _ _ offline => Ensures.raise ⟨trivial, offline.calm⟩
        · exact fun _ _ _ => False.elim
        · exact fun _ _ => id
  · exact fun absent => absurd (calm.clients p inHand) absent

theorem connectDevice (device : Device) (offline : Offline mine p w) :
    Ensures Interruptions (BleTransport.connect p device) (Connects mine p) w past := by
  obtain ⟨calm, unlinked⟩ := offline
  apply Ensures.read_bind
  rw [unlinked]
  apply Ensures.bind
  apply Ensures.read_bind
  apply Ensures.modify_bind
  apply Ensures.emit
  intro _
  have client : Calm (insert p mine) (w.setClient p (some ⟨w.nextClient, device.address⟩)) := by
    apply calm.setTransport
    · exact (calm.usable p).transportProfile
    · exact (calm.usable p).chunk
    · exact fun _ inHand other => inHand.resolve_left other
    · exact fun _ => rfl
  have dialed : Calm (insert p mine)
      { w.setClient p (some ⟨w.nextClient, device.address⟩) with
        nextClient := w.nextClient + 1 } :=
    client.settle
      ⟨rfl, rfl, rfl, fun _ => rfl, fun _ => rfl, fun _ => rfl, fun _ => rfl, fun _ => id⟩
  have others : ∀ {w}, Calm (insert p mine \ {p}) w → Calm (mine \ {p}) w :=
    fun calm => calm.mono fun q inHand => ⟨.inr inHand.1, inHand.2⟩
  apply ensures_tick_bind dialed.bare
  intro answer relied
  have awake := dialed.settle (World.settled_awaken dialed.unheld relied)
  cases answer.bleakError with
  | some text =>
      apply Ensures.modify_bind
      apply Ensures.raise
      refine ⟨trivial, ?_⟩
      apply awake.setTransport
      · exact (awake.usable p).transportProfile
      · exact (awake.usable p).chunk
      · exact fun _ inHand other => .inr inHand.1
      · exact fun inHand => absurd rfl inHand.2
  | none =>
      apply Ensures.modify_bind
      apply Upholds.seq (negotiate _ p) (awake.up p)
      · intro _ w past calm
        apply (calm.subscribe device (Set.mem_insert p mine)).mono
        · exact fun _ _ _ => id
        · exact fun _ _ _ failed => ⟨failed.1, others failed.2⟩
        · exact fun _ _ => id
      · exact fun _ _ _ _ => False.elim
      · exact fun _ _ => bare

theorem connectByName (env : Env) (offline : Offline mine p w) :
    Ensures Interruptions (Printer.connectByName env p) (Connects mine p) w past := by
  have scans : ∀ search, Upholds Interruptions (fun w _ => Offline mine p w)
      PyExc.IsConnectionError (scanDevices (.ok search)) :=
    fun search => (offline_wire p).scanByName (fun _ => trivial) search
  have fewer : ∀ {w}, Offline mine p w → Calm (mine \ {p}) w :=
    fun offline => offline.calm.mono Set.sdiff_subset
  apply Ensures.read_bind
  apply Upholds.seq (scans _) offline
  · rintro (_ | ⟨device, _ | ⟨_, _⟩⟩) w past offline
    · exact Ensures.raise ⟨trivial, fewer offline⟩
    · apply Ensures.modify_bind
      exact connectDevice device (offline.rename (fun _ => rfl) fun _ => rfl)
    · exact Ensures.raise ⟨trivial, fewer offline⟩
  · exact fun _ _ _ offline failed => ⟨failed, fewer offline⟩
  · exact fun _ _ offline => offline.calm.bare

theorem connectByAddress (address : String) (offline : Offline mine p w) :
    Ensures Interruptions (Printer.connectByAddress p address) (Connects mine p) w past := by
  apply ensures_tick_bind offline.calm.bare
  intro answer relied
  have awake := (offline_wire p).awaken w [] answer offline relied
  have fewer := awake.calm.mono (Set.sdiff_subset (t := {p}))
  cases answer.bleakError with
  | some text => exact Ensures.raise ⟨trivial, fewer⟩
  | none =>
      cases answer.found with
      | none => exact Ensures.raise ⟨trivial, fewer⟩
      | some device =>
          apply Ensures.emit_bind
          intro _
          apply Ensures.modify_bind
          exact connectDevice device (awake.rename (fun _ => rfl) fun _ => rfl)

theorem connect (env : Env) (offline : Offline mine p w) :
    Ensures Interruptions (Printer.connect env p) (Connects mine p) w past := by
  apply Ensures.read_bind
  cases (w.printers p).address with
  | none => exact connectByName env offline
  | some known =>
      cases known with
      | text address => exact connectByAddress address offline
      | device device => exact connectDevice device offline

theorem reconnect (env : Env) (p : PrinterId) (calm : Calm mine w) :
    Ensures Interruptions (Printer.reconnect env p) (Connects mine p) w past := by
  apply Ensures.seq (calm.disconnect p)
  · intro _ w past offline
    apply (connect env offline).mono
    · exact fun _ _ _ calm => calm.mono (by simp)
    · exact fun _ _ _ failed => ⟨failed.1, failed.2.mono (by simp)⟩
    · exact fun _ _ => id
  · exact fun _ _ _ => False.elim
  · exact fun _ _ => id

end Calm

end Phomemo
