import Phomemo.Bridge.NamedModel

/-!
# The address a client named

The target of the bridge lives in its printer object, which an open drops before the new printer
is found.  When it is not found, a later command without an address scans for any printer.  As
long as no such scan is made, the bridge keeps to the address named last.
-/

namespace Phomemo

open Async Coroutine

/-- What an event does to the address in force. -/
def aim (env : Env) (aimed : Option String) : TraceEvent → Option String
  | .openAnswered (some address) model _ => if env.Unknown model then aimed else some address
  | .connectCalled (some address) _ _ =>
      if aimed.map env.upper = some (env.upper address) then aimed else none
  | _ => aimed

/-- The address the last answered open that named one named, until an open names another. -/
def aimedAt (env : Env) (past : List TraceEvent) : Option String :=
  past.foldl (aim env) none

theorem aimedAt_concat (env : Env) (past : List TraceEvent) (event : TraceEvent) :
    aimedAt env (past ++ [event]) = aim env (aimedAt env past) event := by
  simp [aimedAt]

/-- An answered open puts its own address in force, if any. -/
theorem aimedAt_answer {env : Env} {past : List TraceEvent} {address model : Option String}
    {connected : Bool} {named : String}
    (inForce : aimedAt env (past ++ [.openAnswered address model connected]) = some named) :
    aimedAt env past = some named ∨ ¬env.Unknown model ∧ address = some named := by
  rw [aimedAt_concat] at inForce
  cases address with
  | none => exact .inl inForce
  | some asked =>
      rw [aim] at inForce
      split at inForce
      · exact .inl inForce
      · exact .inr ⟨‹_›, inForce⟩

/-- What an event says of the command that runs: whether it is a scan for all printers. -/
def discover (discovering : Bool) : TraceEvent → Bool
  | .commandBegan name _ => name = .discover
  | .replied _ _ => false
  | _ => discovering

/-- Whether a scan for all printers runs. -/
def discovering (past : List TraceEvent) : Bool :=
  past.foldl discover false

theorem discovering_concat (past : List TraceEvent) (event : TraceEvent) :
    discovering (past ++ [event]) = discover (discovering past) event := by
  simp [discovering]

/-- Ordinary events neither name an address nor begin a command. -/
theorem TraceEvent.Ordinary.aims {event : TraceEvent} (ordinary : event.Ordinary) (env : Env)
    (aimed : Option String) (scanning : Bool) :
    aim env aimed event = aimed ∧ discover scanning event = scanning := by
  cases ordinary with
  | await kind => cases kind <;> exact ⟨rfl, rfl⟩
  | wire kind => cases kind <;> exact ⟨rfl, rfl⟩
  | connect kind => cases kind <;> exact ⟨rfl, rfl⟩
  | waits kind => cases kind <;> exact ⟨rfl, rfl⟩
  | writeFailed p => exact ⟨rfl, rfl⟩
  | wrote p address data => exact ⟨rfl, rfl⟩
  | dialed p address overlapped => exact ⟨rfl, rfl⟩
  | resolved asked found => exact ⟨rfl, rfl⟩
  | usedProfile p old new => exact ⟨rfl, rfl⟩
  | replacedPrinter old new => exact ⟨rfl, rfl⟩

/-- The address of a device that is connected to or written to. -/
def TraceEvent.reached : TraceEvent → Option String
  | .dialed _ address _ => some address
  | .wrote _ address _ => some address
  | _ => none

/-- A device that is reached outside a scan for all printers has the address in force. -/
def OnTarget (env : Env) (before : List TraceEvent) (event : TraceEvent) : Prop :=
  ∀ address reached, aimedAt env before = some address → discovering before = false →
    event.reached = some reached → env.upper reached = env.upper address

theorem onTarget_of_unreached {env : Env} {past : List TraceEvent} {event : TraceEvent}
    (unreached : event.reached = none) : OnTarget env past event :=
  fun _ _ _ _ reached => absurd (reached.symm.trans unreached) (Option.some_ne_none _)

/-- While an address is in force, no connect without one scans for any printer, and none names
another model than that of the printer at hand. -/
def KeepsAim (env : Env) (before : List TraceEvent) : TraceEvent → Prop
  | .lookedFor none _ => aimedAt env before = none
  | .connectCalled none (some model) current =>
      model ∉ env.registry.listProfiles ∨ aimedAt env before = none ∨
        current.map Target.model = some model
  | _ => True

instance (env : Env) (before : List TraceEvent) : DecidablePred (KeepsAim env before) :=
  fun event => by
    unfold KeepsAim
    split <;> infer_instance

/-- An address scan answers with a device at the address that was asked for. -/
def ResolvesAddress (env : Env) : TraceEvent → Prop
  | .resolved asked found => env.upper found.address = env.upper asked
  | _ => True

instance (env : Env) : DecidablePred (ResolvesAddress env) := fun event => by
  apply @TraceEvent.casesOn (fun event => Decidable (ResolvesAddress env event)) event <;>
    intros <;>
    first | exact .isTrue trivial | exact inferInstanceAs (Decidable (_ = _))

namespace Printer

variable {env : Env} {printer other : Printer}

/-- The printer object knows its device by this address. -/
def At (env : Env) (printer : Printer) (address : String) : Prop :=
  ∃ known, printer.address = some known ∧ env.upper known.toText = env.upper address

/-- The client of a printer object is that of its device. -/
def LinksHome (env : Env) (printer : Printer) : Prop :=
  ∀ client, printer.transport.client = some client → printer.At env client.address

theorem At.of_address {address : String} (at' : printer.At env address)
    (same : other.address = printer.address) : other.At env address := by
  obtain ⟨known, has, near⟩ := at'
  exact ⟨known, same.trans has, near⟩

/-- The client is the same or gone. -/
theorem LinksHome.of_client (home : printer.LinksHome env) (same : other.address = printer.address)
    (client : other.transport.client = printer.transport.client ∨ other.transport.client = none) :
    other.LinksHome env := by
  intro linked has
  rcases client with kept | gone
  · exact (home linked (kept.symm.trans has)).of_address same
  · exact absurd (has.symm.trans gone) (Option.some_ne_none _)

end Printer

/-- The devices at the address of a printer object. -/
def atHome (env : Env) : Near := fun address device =>
  ∃ known, address = some known ∧ env.upper known.toText = env.upper device.address

/-- A printer object the bridge holds or a command has in hand. -/
def World.InUse (w : World) (mine : List PrinterId) (p : PrinterId) : Prop :=
  w.bridge.printer = some p ∨ p ∈ mine

/-- All that was reached is on target, and the printers in use are; `goal` is the address of an
open under way. -/
structure Aimed (env : Env) (goal : Option String) (scanning : Bool) (mine : List PrinterId)
    (w : World) (past : List TraceEvent) : Prop where
  onTarget : Throughout (OnTarget env) past
  scans : discovering past = scanning
  allocated : ∀ p, w.InUse mine p → p < w.nextPrinter
  home : ∀ p, w.InUse mine p → (w.printers p).LinksHome env
  aimed : ∀ address, aimedAt env past = some address ∨ goal = some address →
    ∀ p, w.InUse mine p → (w.printers p).At env address
  sought : goal ≠ none → w.bridge.printer ≠ none

namespace Aimed

variable {env : Env} {goal : Option String} {scanning : Bool} {mine : List PrinterId}
  {w after : World} {past : List TraceEvent}

/-- The same printers in use, at the same addresses. -/
theorem move (aimed : Aimed env goal scanning mine w past)
    (next : w.nextPrinter ≤ after.nextPrinter)
    (printer : after.bridge.printer = w.bridge.printer)
    (address : ∀ p, w.InUse mine p → (after.printers p).address = (w.printers p).address)
    (home : ∀ p, w.InUse mine p → (after.printers p).LinksHome env) :
    Aimed env goal scanning mine after past := by
  have used : ∀ p, after.InUse mine p → w.InUse mine p := fun p => Or.imp_left printer.symm.trans
  exact {
    onTarget := aimed.onTarget
    scans := aimed.scans
    allocated := fun p inUse => (aimed.allocated p (used p inUse)).trans_le next
    home := fun p inUse => home p (used p inUse)
    aimed := fun named chosen p inUse =>
      (aimed.aimed named chosen p (used p inUse)).of_address (address p (used p inUse))
    sought := fun underWay => printer.symm ▸ aimed.sought underWay }

/-- A client is at most taken away. -/
theorem keep (aimed : Aimed env goal scanning mine w past)
    (next : w.nextPrinter ≤ after.nextPrinter)
    (printer : after.bridge.printer = w.bridge.printer)
    (address : ∀ p, w.InUse mine p → (after.printers p).address = (w.printers p).address)
    (client : ∀ p, w.InUse mine p →
      (after.printers p).transport.client = (w.printers p).transport.client ∨
        (after.printers p).transport.client = none) :
    Aimed env goal scanning mine after past :=
  aimed.move next printer address fun p inUse =>
    (aimed.home p inUse).of_client (address p inUse) (client p inUse)

/-- One more event that names no address. -/
theorem next {event : TraceEvent} (aimed : Aimed env goal scanning mine w past)
    (reached : OnTarget env past event) (aims : aim env (aimedAt env past) event = aimedAt env past)
    (scans : discover scanning event = scanning) :
    Aimed env goal scanning mine w (past ++ [event]) where
  onTarget := aimed.onTarget.concat reached
  scans := by rw [discovering_concat, aimed.scans, scans]
  allocated := aimed.allocated
  home := aimed.home
  aimed := by
    rw [aimedAt_concat, aims]
    exact aimed.aimed
  sought := aimed.sought

/-- One more event of the work on printers. -/
theorem note {event : TraceEvent} (aimed : Aimed env goal scanning mine w past)
    (ordinary : event.Ordinary) (reached : OnTarget env past event) :
    Aimed env goal scanning mine w (past ++ [event]) :=
  aimed.next reached (ordinary.aims env _ scanning).1 (ordinary.aims env none scanning).2

/-- A device linked to a printer in use is on target. -/
theorem reaches {p : PrinterId} {address : String} {event : TraceEvent}
    (aimed : Aimed env goal scanning mine w past) (inUse : w.InUse mine p)
    (home : (w.printers p).At env address) (reached : event.reached = some address) :
    OnTarget env past event := by
  intro named found inForce _ hit
  obtain rfl := Option.some.inj (reached.symm.trans hit)
  obtain ⟨known, has, near⟩ := home
  obtain ⟨other, has', near'⟩ := aimed.aimed named (.inl inForce) p inUse
  obtain rfl := Option.some.inj (has.symm.trans has')
  exact near.symm.trans near'

/-- Only a printer taken in hand or one put in place is new among those in use. -/
theorem taken (aimed : Aimed env goal scanning mine w past) {p : PrinterId}
    (held : w.bridge.printer = some p) : Aimed env goal scanning (p :: mine) w past := by
  have used : ∀ q, w.InUse (p :: mine) q → w.InUse mine q := by
    rintro q (bridge | member)
    · exact .inl bridge
    · rcases List.mem_cons.mp member with rfl | member
      · exact .inl held
      · exact .inr member
  exact {
    onTarget := aimed.onTarget
    scans := aimed.scans
    allocated := fun q inUse => aimed.allocated q (used q inUse)
    home := fun q inUse => aimed.home q (used q inUse)
    aimed := fun named chosen q inUse => aimed.aimed named chosen q (used q inUse)
    sought := aimed.sought }

theorem letGo {p : PrinterId} (aimed : Aimed env goal scanning (p :: mine) w past) :
    Aimed env goal scanning mine w past := by
  have used : ∀ q, w.InUse mine q → w.InUse (p :: mine) q :=
    fun q => Or.imp_right (List.mem_cons_of_mem p)
  exact {
    onTarget := aimed.onTarget
    scans := aimed.scans
    allocated := fun q inUse => aimed.allocated q (used q inUse)
    home := fun q inUse => aimed.home q (used q inUse)
    aimed := fun named chosen q inUse => aimed.aimed named chosen q (used q inUse)
    sought := aimed.sought }

/-- The bridge takes a new printer object. -/
theorem adopt {before : Option String} (aimed : Aimed env before scanning mine w past)
    (others : before = goal ∨ mine = []) {profile : PrinterProfile}
    {address : Option PrinterAddress} {explicit : Bool}
    (at' : ∀ named, aimedAt env past = some named ∨ goal = some named →
      (Printer.new profile address).At env named) :
    Aimed env goal scanning mine ((w.withPrinter profile address).adopt w.nextPrinter explicit)
      past := by
  have split : ∀ q, ((w.withPrinter profile address).adopt w.nextPrinter explicit).InUse mine q →
      q = w.nextPrinter ∨ q ∈ mine :=
    fun q inUse => inUse.imp_left fun held => (Option.some.inj held).symm
  have old : ∀ q ∈ mine, (w.withPrinter profile address).printers q = w.printers q :=
    fun q member => World.withPrinter_other (aimed.allocated q (.inr member)).ne _ _
  exact {
    onTarget := aimed.onTarget
    scans := aimed.scans
    allocated := by
      intro q inUse
      rcases split q inUse with rfl | member
      · exact Nat.lt_succ_self _
      · exact (aimed.allocated q (.inr member)).trans (Nat.lt_succ_self _)
    home := by
      intro q inUse
      rw [World.adopt_printers]
      rcases split q inUse with rfl | member
      · rw [World.withPrinter_new]
        exact fun client linked => by cases linked
      · rw [old q member]
        exact aimed.home q (.inr member)
    aimed := by
      intro named chosen q inUse
      rw [World.adopt_printers]
      rcases split q inUse with rfl | member
      · rw [World.withPrinter_new]
        exact at' named chosen
      · rw [old q member]
        rcases others with rfl | rfl
        · exact aimed.aimed named chosen q (.inr member)
        · cases member
    sought := fun _ absent => by cases absent }

/-- An open is answered. -/
theorem answer (aimed : Aimed env goal scanning mine w past) {address model : Option String}
    {connected : Bool}
    (at' : ∀ named, aimedAt env (past ++ [.openAnswered address model connected]) = some named →
      ∀ q, w.InUse mine q → (w.printers q).At env named) :
    Aimed env none scanning mine w (past ++ [.openAnswered address model connected]) where
  onTarget := aimed.onTarget.concat (onTarget_of_unreached rfl)
  scans := (discovering_concat _ _).trans aimed.scans
  allocated := aimed.allocated
  home := aimed.home
  aimed := fun named chosen => at' named (chosen.resolve_right fun same => by cases same)
  sought := fun none => absurd rfl none

end Aimed

/-- As long as every connect kept to the aim. -/
def Sighted (env : Env) (goal : Option String) (scanning : Bool) (mine : List PrinterId)
    (w : World) (past : List TraceEvent) : Prop :=
  Throughout (KeepsAim env) past → Aimed env goal scanning mine w past

namespace Sighted

variable {env : Env} {goal : Option String} {scanning : Bool} {mine : List PrinterId}
  {w after : World} {past : List TraceEvent}

/-- One more event, judged by what came before it. -/
theorem next {event : TraceEvent} (sighted : Sighted env goal scanning mine w past)
    {goal' : Option String} {scanning' : Bool} {mine' : List PrinterId}
    (step : Aimed env goal scanning mine w past → KeepsAim env past event →
      Aimed env goal' scanning' mine' after (past ++ [event])) :
    Sighted env goal' scanning' mine' after (past ++ [event]) :=
  fun keeps => step (sighted keeps.of_concat) keeps.last

/-- One more event of the work on printers that reaches no device. -/
theorem note {event : TraceEvent} (sighted : Sighted env goal scanning mine w past)
    (ordinary : event.Ordinary) (unreached : event.reached = none) :
    Sighted env goal scanning mine w (past ++ [event]) :=
  sighted.next fun aimed _ => aimed.note ordinary (onTarget_of_unreached unreached)

theorem append {later : List TraceEvent} (sighted : Sighted env goal scanning mine w past)
    (awaits : ∀ event ∈ later, event.OfAwait) :
    Sighted env goal scanning mine w (past ++ later) := by
  induction later generalizing past with
  | nil => simpa using sighted
  | cons event later ih =>
      have await := awaits event List.mem_cons_self
      have here := sighted.note (.await await) (by cases await <;> rfl)
      have rest := ih here fun other member => awaits other (List.mem_cons_of_mem _ member)
      simpa using rest

theorem idle : IdleStable (ResolvesAddress env) (Sighted env goal scanning mine) where
  awaken := fun w past answer sighted _ keeps =>
    have awaited := World.awaited_awaken (w := w) answer
    (sighted.append (World.awakening_events answer) keeps).keep awaited.nextPrinter.ge
      awaited.printer (fun p _ => awaited.address p)
      fun p _ => (awaited.transport p).client.imp_left And.left
  quiet := fun _ _ _ quiet sighted keeps => (sighted keeps).keep quiet.nextPrinter.ge
    quiet.printer (fun p _ => quiet.address p) fun p _ => .inl (quiet.client p)
  event := fun _ _ _ wire sighted _ => sighted.note (.wire wire) (by cases wire <;> rfl)

/-- A change of the transport of one printer that takes its client away at most. -/
theorem setTransport {q : PrinterId} {change : Transport → Transport}
    (sighted : Sighted env goal scanning mine w past)
    (client : (change (w.printers q).transport).client = (w.printers q).transport.client ∨
      (change (w.printers q).transport).client = none) :
    Sighted env goal scanning mine (w.setTransport q change) past :=
  fun keeps => (sighted keeps).keep le_rfl rfl (fun p _ => by simp) fun p _ => by
    rw [World.setTransport_printers]
    split
    · subst p
      exact client
    · exact .inl rfl

/-- A printer in hand is written to at its own address. -/
theorem wrote {q : PrinterId} {client : Client} (sighted : Sighted env goal scanning mine w past)
    (inHand : q ∈ mine) (writable : Writable w q client) (data : Bytes) :
    Sighted env goal scanning mine w (past ++ [.wrote q client.address data]) :=
  sighted.next fun aimed _ =>
    aimed.note (.wrote q client.address data)
      (aimed.reaches (.inr inHand) (aimed.home q (.inr inHand) client writable.1) rfl)

theorem link {q : PrinterId} (inHand : q ∈ mine) :
    LinkStable (ResolvesAddress env) (Sighted env goal scanning mine) q (atHome env) where
  toIdleStable := idle
  wrote := fun _ _ _ data sighted writable _ _ => sighted.wrote inHand writable data
  lost := fun _ _ sighted _ => (sighted.note (.writeFailed q) rfl).setTransport (.inl rfl)
  downed := fun _ _ sighted => sighted.setTransport (.inl rfl)
  hungUp := fun _ _ sighted => sighted.setTransport (.inr rfl)
  unset := fun _ _ sighted => sighted.setTransport (.inr rfl)
  dialed := by
    intro w past device sighted near _
    apply sighted.next
    intro aimed _
    have noted := aimed.note (.dialed q device.address (q ∈ w.bridge.holdInFlight))
      (aimed.reaches (.inr inHand) near rfl)
    refine noted.move ?_ ?_ ?_ ?_
    · exact le_rfl
    · rfl
    · intro p _
      unfold World.setClient
      simp
    · intro p inUse client has
      unfold World.setClient at has ⊢
      dsimp only at has ⊢
      rw [World.setTransport_printers] at has ⊢
      dsimp only at has
      split at has
      · subst p
        obtain rfl := Option.some.inj has
        exact near
      · exact (aimed.home p inUse client has).of_address rfl
  up := fun _ _ sighted => sighted.setTransport (.inl rfl)
  negotiated := fun _ _ _ _ sighted => sighted.setTransport (.inl rfl)
  named := by
    intro w past device sighted unknown keeps
    have aimed := sighted keeps
    have lost : ∀ address, ¬(w.printers q).At env address := by
      rintro address ⟨known, has, -⟩
      exact absurd (has.symm.trans unknown) (Option.some_ne_none _)
    have free : ∀ address, ¬(aimedAt env past = some address ∨ goal = some address) :=
      fun address chosen => lost address (aimed.aimed address chosen q (.inr inHand))
    exact {
      onTarget := aimed.onTarget
      scans := aimed.scans
      allocated := aimed.allocated
      home := by
        intro p inUse client has
        unfold World.learn at has ⊢
        rw [World.setPrinter_printers] at has ⊢
        split at has
        · exact absurd (aimed.home q (.inr inHand) client has) (lost _)
        · next other =>
            rw [if_neg other]
            exact aimed.home p inUse client has
      aimed := fun address chosen => absurd chosen (free address)
      sought := aimed.sought }
  learned := fun device => ⟨_, rfl, rfl⟩
  sought := fun _ _ resolves => ⟨_, rfl, resolves.symm⟩
  handed := fun device => ⟨_, rfl, rfl⟩
  resolved := fun _ _ _ _ sighted _ => sighted.note (.resolved _ _) rfl

theorem bridge (env : Env) (goal : Option String) (scanning : Bool) :
    BridgeStable env (ResolvesAddress env) (Sighted env goal scanning) (atHome env) where
  idle := fun _ => idle
  link := fun _ _ inHand => link inHand
  hold := fun _ _ _ _ sighted held keeps => (sighted keeps).taken held
  letGo := fun _ _ _ _ sighted keeps => (sighted keeps).letGo
  marked := fun _ _ _ sighted keeps =>
    (sighted keeps).keep le_rfl rfl (fun _ _ => rfl) fun _ _ => .inl rfl
  event := fun _ _ _ _ waits sighted _ => sighted.note (.waits waits) (by cases waits <;> rfl)
  connecting := fun _ _ _ _ connect sighted _ =>
    sighted.note (.connect connect) (by cases connect <;> rfl)
  cancelHold := fun _ _ _ sighted keeps =>
    (sighted keeps).keep le_rfl rfl (fun _ _ => rfl) fun _ _ => .inl rfl
  adopted := by
    intro mine w past device profile sighted absent _ _
    apply sighted.next
    intro aimed keeps
    have noted := aimed.note (.connect (.lookedFor true)) (onTarget_of_unreached rfl)
    apply noted.adopt (.inl rfl)
    rintro named (inForce | underWay)
    · rw [aimedAt_concat] at inForce
      exact absurd (inForce.symm.trans keeps) (Option.some_ne_none _)
    · have seeks : goal ≠ none := fun none => Option.some_ne_none _ (underWay.symm.trans none)
      exact absurd absent (aimed.sought seeks)
  usedProfile := by
    intro mine w past p profile sighted _ _ _ _
    apply sighted.next
    intro aimed _
    have noted := aimed.note (.usedProfile p (w.printers p).profile profile)
      (onTarget_of_unreached rfl)
    have same : ∀ q, ((w.useProfile p profile).printers q).address = (w.printers q).address ∧
        ((w.useProfile p profile).printers q).transport.client =
          (w.printers q).transport.client := by
      intro q
      unfold World.useProfile
      rw [World.setPrinter_printers]
      split
      · subst q
        exact ⟨rfl, rfl⟩
      · exact ⟨rfl, rfl⟩
    exact noted.keep le_rfl rfl (fun q _ => (same q).1) fun q _ => .inl (same q).2
  replaced := by
    intro mine w past p profile sighted held _ _ _
    apply sighted.next
    intro aimed _
    have noted := aimed.note (.replacedPrinter p w.nextPrinter) (onTarget_of_unreached rfl)
    apply noted.adopt (.inl rfl)
    intro named chosen
    obtain ⟨known, has, near⟩ := noted.aimed named chosen p (.inl held)
    exact ⟨.text known.toText, by simp [Printer.new, Printer.addressText, has], near⟩

theorem handlers (env : Env) (scanning : Bool) :
    HandlerStable env (ResolvesAddress env) (Sighted env none scanning) where
  toWaitStable := (bridge env none scanning).waits
  page := fun _ _ _ _ page sighted _ => sighted.next fun aimed _ =>
    aimed.next (onTarget_of_unreached (by cases page <;> rfl)) (by cases page <;> rfl)
      (by cases page <;> rfl)
  streamed := fun _ p inHand _ _ client data sighted writable _ =>
    sighted.wrote inHand writable data

/-- A connect puts no address in force. -/
theorem call (sighted : Sighted env goal scanning mine w past) (address model : Option String)
    (current : Option Target) :
    Sighted env goal scanning mine w (past ++ [.connectCalled address model current]) := by
  apply sighted.next
  intro aimed _
  have fewer : ∀ named, aimedAt env (past ++ [.connectCalled address model current]) = some named →
      aimedAt env past = some named := by
    intro named inForce
    rw [aimedAt_concat] at inForce
    cases address with
    | none => exact inForce
    | some asked =>
        rw [aim] at inForce
        split at inForce
        · exact inForce
        · cases inForce
  exact {
    onTarget := aimed.onTarget.concat (onTarget_of_unreached rfl)
    scans := (discovering_concat _ _).trans aimed.scans
    allocated := aimed.allocated
    home := aimed.home
    aimed := fun named chosen => aimed.aimed named (chosen.imp_left (fewer named))
    sought := aimed.sought }

/-- The address in force is the one the open names, unless the open scans for any printer. -/
def Decided (env : Env) (address model : Option String) (past : List TraceEvent) : Prop :=
  Throughout (KeepsAim env) past → ∀ named, aimedAt env past = some named →
    (∃ asked, address = some asked ∧ env.upper asked = env.upper named) ∨
      address = none ∧ model = none

theorem Decided.kept (address model : Option String) :
    KeptByOrdinary (ResolvesAddress env) (Decided env address model) := by
  intro past event ordinary decided _ keeps named inForce
  rw [aimedAt_concat, (ordinary.aims env _ false).1] at inForce
  exact decided keeps.of_concat named inForce

/-- A connect that another printer is to be found for has decided on its address. -/
theorem decides (w : World) (past : List TraceEvent) {address model : Option String}
    (known : ¬env.Unknown model)
    (other : ∀ p, w.bridge.printer = some p →
      Bridge.retargets address model (w.printers p) = true) :
    Decided env address model
      (past ++ [.connectCalled address model (Bridge.currentTarget w)]) := by
  intro keeps named inForce
  rw [aimedAt_concat] at inForce
  cases address with
  | some asked =>
      rw [aim] at inForce
      split at inForce
      · next same =>
          rw [inForce] at same
          exact .inl ⟨asked, rfl, (Option.some.inj same).symm⟩
      · cases inForce
  | none =>
      cases model with
      | none => exact .inr ⟨rfl, rfl⟩
      | some name =>
          have inForce : aimedAt env past = some named := inForce
          rcases keeps.last with unlisted | free | same
          · exact absurd ⟨name, rfl, unlisted⟩ known
          · exact absurd (inForce.symm.trans free) (Option.some_ne_none _)
          · obtain ⟨target, found, model⟩ := Option.map_eq_some_iff.mp same
            obtain ⟨p, held, rfl⟩ := Option.map_eq_some_iff.mp found
            have retargets := other p held
            simp [Bridge.retargets, ← model] at retargets

/-- An open ends with its address in force. -/
theorem opens (env : Env) (address model : Option String) :
    OpenStable env (ResolvesAddress env) (Sighted env none false) (Sighted env address false)
      (fun w past => Sighted env none false [] w past ∧ Decided env address model past)
      (fun _ past => Throughout (KeepsAim env) past → Throughout (OnTarget env) past)
      (Decided env address model) (atHome env) address model where
  before := bridge env none false
  after := bridge env address false
  seeks := idle.withTrace (Decided.kept address model)
  remembered := Decided.kept address model
  called := fun _ _ sighted _ => sighted.call address model _
  kept := by
    intro w past p sighted _ _ held same keeps
    have called := sighted.call address model (Bridge.currentTarget w) keeps
    simp only [Bridge.retargets, Bool.or_eq_false_iff] at same
    have only : ∀ q, w.InUse [] q → q = p := by
      rintro q (bridge | member)
      · exact Option.some.inj (bridge.symm.trans held)
      · cases member
    exact {
      onTarget := called.onTarget
      scans := called.scans
      allocated := called.allocated
      home := called.home
      aimed := by
        rintro named (inForce | rfl) q inUse
        · exact called.aimed named (.inl inForce) q inUse
        · obtain rfl := only q inUse
          have address_eq : some named = (w.printers q).addressText := by simpa using same.1
          obtain ⟨known, has, text⟩ := Option.map_eq_some_iff.mp address_eq.symm
          exact ⟨known, has, congrArg env.upper text⟩
      sought := fun _ absent => absurd (held.symm.trans absent) (Option.some_ne_none _) }
  decides := fun w past _ _ => decides w past
  dropped := by
    intro w past sighted decided
    refine ⟨fun keeps => ?_, decided⟩
    have aimed := sighted keeps
    have unused : ∀ q, ¬w.dropPrinter.InUse [] q := by
      rintro q (bridge | member)
      · cases bridge
      · cases member
    exact {
      onTarget := aimed.onTarget
      scans := aimed.scans
      allocated := fun q inUse => absurd inUse (unused q)
      home := fun q inUse => absurd inUse (unused q)
      aimed := fun _ _ q inUse => absurd inUse (unused q)
      sought := fun none => absurd rfl none }
  modelled := by
    rintro w past name profile ⟨sighted, decided⟩ rfl _ keeps
    apply (sighted keeps).adopt (.inr rfl)
    rintro named (inForce | rfl)
    · rcases decided keeps named inForce with ⟨asked, rfl, near⟩ | ⟨-, unnamed⟩
      · exact ⟨.text asked, rfl, near⟩
      · cases unnamed
    · exact ⟨.text named, rfl, rfl⟩
  scanned := by
    rintro w past device profile ⟨sighted, decided⟩ _ near _ _ keeps
    have noted : Aimed env none false [] w (past ++ [.lookedFor address true]) :=
      (sighted keeps.of_concat).next (onTarget_of_unreached rfl) rfl rfl
    apply noted.adopt (.inr rfl)
    rintro named (inForce | rfl)
    · rw [aimedAt_concat] at inForce
      rcases decided keeps.of_concat named inForce with ⟨asked, rfl, same⟩ | ⟨rfl, -⟩
      · exact ⟨.device device, rfl, (near asked rfl).trans same⟩
      · exact absurd (inForce.symm.trans keeps.last) (Option.some_ne_none _)
    · exact ⟨.device device, rfl, near named rfl⟩
  unfound := fun w past sought _ _ => sought.1.next fun aimed _ =>
    aimed.next (onTarget_of_unreached rfl) rfl rfl
  forget := by
    intro w past sighted keeps
    have aimed := sighted keeps
    exact {
      onTarget := aimed.onTarget
      scans := aimed.scans
      allocated := aimed.allocated
      home := aimed.home
      aimed := fun named chosen => aimed.aimed named (chosen.imp_right fun same => by cases same)
      sought := fun none => absurd rfl none }
  answered := by
    intro w past connected sighted _
    apply sighted.next
    intro aimed _
    apply aimed.answer
    exact fun named inForce => aimed.aimed named ((aimedAt_answer inForce).imp_right And.right)
  refused := by
    intro w past sighted refuses _
    apply sighted.next
    intro aimed _
    apply aimed.answer
    intro named inForce q inUse
    rcases refuses with unknown | ⟨-, -, absent⟩
    · rcases aimedAt_answer inForce with before | ⟨known, -⟩
      · exact aimed.aimed named (.inl before) q inUse
      · exact absurd unknown known
    · rcases inUse with bridge | member
      · exact absurd (bridge.symm.trans absent) (Option.some_ne_none _)
      · cases member
  waiting := fun _ _ sighted keeps => (sighted keeps).onTarget
  waitingSought := fun _ _ sought keeps => (sought.1 keeps).onTarget

/-- A brief connection to a printer the bridge does not hold. -/
def Probing (env : Env) (q : PrinterId) (w : World) (past : List TraceEvent) : Prop :=
  Throughout (KeepsAim env) past → Aimed env none true [] w past ∧ w.bridge.printer ≠ some q

theorem Probing.sighted {q : PrinterId} (probing : Probing env q w past) :
    Sighted env none true [] w past := fun keeps => (probing keeps).1

/-- Work on that printer leaves those in use as they are. -/
theorem Probing.move {q : PrinterId} (probing : Probing env q w past)
    (next : after.nextPrinter = w.nextPrinter) (bridge : after.bridge = w.bridge)
    (others : ∀ p ≠ q, after.printers p = w.printers p) : Probing env q after past := by
  intro keeps
  obtain ⟨aimed, free⟩ := probing keeps
  have same : ∀ p, w.InUse [] p → after.printers p = w.printers p := by
    rintro p (held | member)
    · exact others p fun eq => free (eq ▸ held)
    · cases member
  refine ⟨aimed.move next.ge (by rw [bridge]) ?_ ?_, by rwa [bridge]⟩
  · exact fun p inUse => by rw [same p inUse]
  · exact fun p inUse => by rw [same p inUse]; exact aimed.home p inUse

/-- Devices reached in a scan for all printers need not be on target. -/
theorem Probing.note {q : PrinterId} {event : TraceEvent} (probing : Probing env q w past)
    (ordinary : event.Ordinary) : Probing env q w (past ++ [event]) := by
  intro keeps
  obtain ⟨aimed, free⟩ := probing keeps.of_concat
  refine ⟨aimed.note ordinary ?_, free⟩
  exact fun _ _ _ driven _ => absurd (driven.symm.trans aimed.scans) Bool.false_ne_true

theorem probing_link (q : PrinterId) :
    LinkStable (ResolvesAddress env) (Probing env q) q fun _ _ => True where
  awaken := fun w past answer probing relied keeps =>
    ⟨idle.awaken w past answer probing.sighted relied keeps, by
      rw [(World.awaited_awaken answer).printer]
      exact (probing keeps.of_append).2⟩
  quiet := fun w after past quiet probing keeps =>
    ⟨idle.quiet w after past quiet probing.sighted keeps, by
      rw [quiet.printer]
      exact (probing keeps).2⟩
  event := fun _ _ _ wire probing _ => probing.note (.wire wire)
  wrote := fun _ _ _ _ probing _ _ _ => probing.note (.wrote _ _ _)
  lost := fun _ _ probing _ => (probing.note (.writeFailed q)).move rfl rfl fun p other => by
    unfold World.setConnected
    rw [World.setTransport_printers, if_neg other]
  downed := fun _ _ probing => probing.move rfl rfl fun p other => by
    unfold World.setConnected
    rw [World.setTransport_printers, if_neg other]
  hungUp := fun _ _ probing => probing.move rfl rfl fun p other => by
    unfold World.hangUp
    rw [World.setTransport_printers, if_neg other]
  unset := fun _ _ probing => probing.move rfl rfl fun p other => by
    unfold World.setClient
    rw [World.setTransport_printers, if_neg other]
  dialed := fun _ _ _ probing _ _ => (probing.note (.dialed _ _ _)).move rfl rfl fun p other => by
    unfold World.setClient
    dsimp only
    rw [World.setTransport_printers, if_neg other]
  up := fun _ _ probing => probing.move rfl rfl fun p other => by
    unfold World.setConnected
    rw [World.setTransport_printers, if_neg other]
  negotiated := fun _ _ _ _ probing => probing.move rfl rfl fun p other => by
    unfold World.setChunkBytes
    rw [World.setTransport_printers, if_neg other]
  named := fun _ _ _ probing _ => probing.move rfl rfl fun p other => by
    unfold World.learn
    rw [World.setPrinter_printers, if_neg other]
  learned := fun _ => trivial
  sought := fun _ _ _ => trivial
  handed := fun _ => trivial
  resolved := fun _ _ _ _ probing _ => probing.note (.resolved _ _)

theorem probes (env : Env) :
    ProbeStable env (ResolvesAddress env) (Sighted env none true) (Probing env) where
  toHandStable := (bridge env none true).toHandStable
  wire := fun _ => (link List.mem_cons_self).toWireStable
  probed := by
    intro w past device profile sighted _ keeps
    have aimed := sighted keeps
    have free : w.bridge.printer ≠ some w.nextPrinter :=
      fun held => absurd (aimed.allocated _ (.inl held)) (lt_irrefl _)
    have same : ∀ p, w.InUse [] p →
        (w.withPrinter profile (some (.device device))).printers p = w.printers p :=
      fun p inUse => World.withPrinter_other (aimed.allocated p inUse).ne _ _
    refine ⟨aimed.move (Nat.le_succ _) rfl ?_ ?_, free⟩
    · exact fun p inUse => by rw [same p inUse]
    · exact fun p inUse => by rw [same p inUse]; exact aimed.home p inUse
  probe := fun q => (probing_link q).device env
  left := fun _ _ _ => Probing.sighted

theorem timer : KeptByTimer (Sighted env goal scanning mine) :=
  fun _ _ _ sighted keeps =>
    (sighted keeps).keep le_rfl rfl (fun _ _ => rfl) fun _ _ => .inl rfl

/-- The bookkeeping of a session names no address and reaches no device. -/
theorem turn (sighted : Sighted env none scanning [] w past) {event : TraceEvent} {scans : Bool}
    (aims : ∀ aimed, aim env aimed event = aimed) (turns : discover scanning event = scans)
    (unreached : event.reached = none) : Sighted env none scans [] w (past ++ [event]) :=
  sighted.next fun aimed _ => {
    onTarget := aimed.onTarget.concat (onTarget_of_unreached unreached)
    scans := by rw [discovering_concat, aimed.scans, turns]
    allocated := aimed.allocated
    home := aimed.home
    aimed := by
      rw [aimedAt_concat, aims]
      exact aimed.aimed
    sought := aimed.sought }

theorem handled (command : Command) (w : World) (past : List TraceEvent)
    (sighted : Sighted env none (command.name = .discover) [] w past) :
    Ensures (ResolvesAddress env) (Session.handler env command)
      ⟨fun _ => Sighted env none (command.name = .discover) [],
        fun _ => Sighted env none (command.name = .discover) [],
        fun _ past => Throughout (KeepsAim env) past → Throughout (OnTarget env) past⟩ w past := by
  apply (handlers env _).handler
  · exact fun _ _ sighted keeps => (sighted keeps).onTarget
  · rintro address model rfl
    exact (opens env address model).cmdOpen sighted
  · exact fun _ => timer.cmdClose env fun _ _ sighted _ => sighted.turn (fun _ => rfl) rfl rfl
  · exact fun _ => (handlers env _).cmdDisconnect ((bridge env none _).cancelHold [])
      fun _ _ sighted keeps => (sighted keeps).keep le_rfl rfl (fun _ _ => rfl) fun _ _ => .inl rfl
  · rintro timeout rfl
    exact (probes env).cmdDiscover timeout
  · exact sighted

theorem runs (env : Env) :
    RunStable env (ResolvesAddress env) (Sighted env none false [])
      (fun command => Sighted env none (command.name = .discover) []) (Sighted env none false [])
      (fun _ past => Throughout (KeepsAim env) past → Throughout (OnTarget env) past) where
  idle := idle
  begins := Upholds.modify fun w past sighted => by
    split
    · exact sighted
    · exact fun keeps =>
        (sighted keeps).keep le_rfl rfl (fun _ _ => rfl) fun _ _ => .inl rfl
  finishes := timer.finish env
    (fun _ _ sighted keeps =>
      (sighted keeps).keep le_rfl rfl (fun _ _ => rfl) fun _ _ => .inl rfl)
    (fun _ _ sighted _ => sighted.turn (fun _ => rfl) rfl rfl)
  accepted := fun w past command sighted _ keeps =>
    (sighted.turn (fun _ => rfl) rfl rfl keeps).keep le_rfl rfl (fun _ _ => rfl)
      fun _ _ => .inl rfl
  handled := handled
  replied := fun _ _ _ _ sighted _ => sighted.turn (fun _ => rfl) rfl rfl
  answers := idle
  cleared := fun _ _ sighted keeps =>
    (sighted keeps).keep le_rfl rfl (fun _ _ => rfl) fun _ _ => .inl rfl
  resting := fun _ _ sighted keeps => (sighted keeps).onTarget
  finishing := fun _ _ sighted keeps => (sighted keeps).onTarget

end Sighted

/-- In a run where no connect without an address scans for any printer or names another model
while an address is in force, all printers driven outside a scan for all printers have the address
an answered open named last. -/
theorem named_address_stays (env : Env) (w : World) (fresh : w.bridge.printer = none)
    (moves : List Session.Move) (script : List Tick)
    (keeps : Throughout (KeepsAim env) (Session.runMoves env moves w script).trace)
    (resolves : ∀ asked found, .resolved asked found ∈
      (Session.runMoves env moves w script).trace → env.upper found.address = env.upper asked) :
    Throughout (OnTarget env) (Session.runMoves env moves w script).trace := by
  have unused : ∀ q, ¬w.InUse [] q := by
    rintro q (bridge | member)
    · exact absurd (bridge.symm.trans fresh) (Option.some_ne_none _)
    · cases member
  have start : Sighted env none false [] w [] := fun _ => {
    onTarget := throughout_nil
    scans := rfl
    allocated := fun q inUse => absurd inUse (unused q)
    home := fun q inUse => absurd inUse (unused q)
    aimed := fun _ _ q inUse => absurd inUse (unused q)
    sought := fun none => absurd rfl none }
  have relied : ∀ event ∈ (Session.runMoves env moves w script).trace,
      ResolvesAddress env event := by
    intro event member
    unfold ResolvesAddress
    split
    · exact resolves _ _ member
    · trivial
  exact (Sighted.runs env).always moves start relied keeps

/-! ## A printer that is not in range when it is named -/

/-- The printer is out of range at the first open, and the client opens it again. -/
def reopened : Run PyExc World Tick TraceEvent Unit :=
  Session.runMoves stripEnv
    [.begins, .command (.open (some "S") none), .command (.open (some "S") none),
      .command .disconnect, .command .identify] freshWorld
    ({} :: {} :: scanned :: {} :: {} :: {} :: {} :: {} :: {} :: [{}])

/-- The printer is out of range at the open, and the client goes on to identify it. -/
def missed : Run PyExc World Tick TraceEvent Unit :=
  Session.runMoves stripEnv [.begins, .command (.open (some "A") none), .command .identify]
    freshWorld [{}, {}, scanned]

theorem named_address_stays_strip :
    aimedAt stripEnv (reopened.trace.take 26) = some "S" ∧
    reopened.trace[26]?.bind TraceEvent.reached = some "S" ∧
    Throughout (OnTarget stripEnv) reopened.trace := by
  have keeps : Throughout (KeepsAim stripEnv) reopened.trace := by decide +kernel
  have resolves : ∀ event ∈ reopened.trace, ResolvesAddress stripEnv event := by decide +kernel
  refine ⟨by decide +kernel, by decide +kernel, ?_⟩
  exact named_address_stays stripEnv freshWorld rfl _ _ keeps
    fun asked found member => resolves _ member

/-- The open by address lets go of the printer; `identify` then takes whatever a scan finds. -/
theorem named_address_lost :
    aimedAt stripEnv (missed.trace.take 12) = some "A" ∧
    discovering (missed.trace.take 12) = false ∧
    missed.trace[12]?.bind TraceEvent.reached = some "S" ∧
    ¬Throughout (OnTarget stripEnv) missed.trace := by
  have aimed : aimedAt stripEnv (missed.trace.take 12) = some "A" := by decide +kernel
  have driven : discovering (missed.trace.take 12) = false := by decide +kernel
  have reached : missed.trace[12]?.bind TraceEvent.reached = some "S" := by decide +kernel
  refine ⟨aimed, driven, reached, fun onTarget => ?_⟩
  obtain ⟨event, here, hit⟩ := Option.bind_eq_some_iff.mp reached
  obtain ⟨inside, rfl⟩ := List.getElem?_eq_some_iff.mp here
  have same := onTarget (missed.trace.take 12) _ (missed.trace.drop 13) (by simp) "A" "S" aimed
    driven hit
  exact absurd same (by decide)

end Phomemo
