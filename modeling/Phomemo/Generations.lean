import Phomemo.Async.Machine
import Phomemo.World

/-!
# Connection generations

Calls of `connect`, `disconnect` and `write` on one transport, next to the callbacks of the clients
it has created.  Every client is one generation: the calls and the callbacks of all of them share
the fields of the transport.  Each step runs from one await to the next.
-/

namespace Phomemo

open Async

/-- The state `BleTransport.disconnect` leaves. -/
def Transport.hungUp (transport : Transport) : Transport :=
  { transport with
    client := none
    connected := false
    effectiveChunkBytes := transport.profile.maxChunkBytes }

/-- How an awaited call into bleak ends. -/
inductive Awaited (α : Type) where
  | ok (value : α)
  | bleakError
  | error
  | cancelled

/-- The notification channels of a printer. -/
inductive Channel where
  | event
  | status
  deriving DecidableEq

/-- The await a `connect` stands at. -/
inductive ConnectPhase where
  | dialing (channels : List Channel)
  | negotiating (channels : List Channel)
  /-- It awaits one `start_notify`; the channels that follow. -/
  | subscribing (channels : List Channel)
  /-- It awaits the disconnect after a failed `start_notify`. -/
  | undoing
  deriving DecidableEq

/-- An await of `connect` after its client has connected. -/
def ConnectPhase.Linked : ConnectPhase → Prop
  | .negotiating _ | .subscribing _ => True
  | .dialing _ | .undoing => False

/-- What a run records. -/
inductive LinkEvent where
  | returned (client : Nat)
  | dropped (client : Nat)
  | writeFailed (client : Nat)
  | disconnectCalled
  deriving DecidableEq

/-- A transport with the calls in progress on it. -/
structure SharedTransport where
  transport : Transport
  /-- How many clients were created; they are numbered from 0. -/
  made : Nat := 0
  /-- The calls of `connect` in progress, by the client each has created. -/
  connects : Nat → Option ConnectPhase := fun _ => none
  /-- The clients the calls of `disconnect` in progress await. -/
  closing : List Nat := []
  /-- The clients the calls of `write` in progress await. -/
  writing : List Nat := []
  log : List LinkEvent := []

namespace SharedTransport

/-- A transport on which nothing was called. -/
def start (profile : PrinterProfile) : SharedTransport where
  transport := Transport.new profile

/-- The client the transport holds. -/
def held (s : SharedTransport) : Option Nat := s.transport.client.map Client.id

/-- A `connect` goes on to this await, or it has ended. -/
def setConnect (s : SharedTransport) (c : Nat) (phase : Option ConnectPhase) : SharedTransport :=
  { s with connects := Function.update s.connects c phase }

def setConnected (s : SharedTransport) (connected : Bool) : SharedTransport :=
  { s with transport := { s.transport with connected } }

def record (s : SharedTransport) (event : LinkEvent) : SharedTransport :=
  { s with log := s.log ++ [event] }

/-- `connect` reaches its next subscription, or it returns. -/
def subscribe (s : SharedTransport) (c : Nat) : List Channel → SharedTransport
  | [] => (s.setConnect c none).record (.returned c)
  | _ :: channels =>
      match s.held with
      -- `None` has no `start_notify`, an `AttributeError` leaves `connect`.
      | none => s.setConnect c none
      | some _ => s.setConnect c (some (.subscribing channels))

/-- `connect` reads the MTU where the profile asks for it and the backend can. -/
def negotiate (s : SharedTransport) (c : Nat) (acquires : Bool) (channels : List Channel) :
    SharedTransport :=
  if s.transport.profile.negotiateMtu ∧ s.held.isSome ∧ acquires then
    s.setConnect c (some (.negotiating channels))
  else
    s.subscribe c channels

/-- What `connect` does with the answer of `_acquire_mtu`. -/
def takeMtu (s : SharedTransport) : Awaited (Option Int) → SharedTransport
  | .ok (some mtu) =>
      if 3 < mtu then
        { s with transport := { s.transport with effectiveChunkBytes := mtu - 3 } }
      else s
  | _ => s

/-- The subscription of a `connect` has failed, and it calls `disconnect` itself. -/
def undo (s : SharedTransport) (c : Nat) : SharedTransport :=
  match s.held with
  | none => s.setConnect c none
  | some _ => (s.setConnected false).setConnect c (some .undoing)

/-- What happens next on a transport. -/
inductive Action where
  | connect (address : String) (channels : List Channel)
  /-- The client of a `connect` has answered; whether its backend reads the MTU. -/
  | dialed (client : Nat) (answer : Awaited Bool)
  | negotiated (client : Nat) (answer : Awaited (Option Int))
  | subscribed (client : Nat) (answer : Awaited Unit)
  | undone (client : Nat)
  | disconnect
  | disconnected (client : Nat)
  | write (data : Bytes)
  | written (client : Nat) (answer : Awaited Unit)
  | onDisconnected (client : Nat)

/-- One step; `none` when the action cannot happen. -/
def step (s : SharedTransport) : Action → Option SharedTransport
  | .connect address channels =>
      -- A connected transport raises.
      if s.transport.isConnected then some s
      else
        some (({ s with
          transport := { s.transport with client := some ⟨s.made, address⟩ }
          made := s.made + 1 } : SharedTransport).setConnect s.made (some (.dialing channels)))
  | .dialed c answer =>
      match s.connects c with
      | some (.dialing channels) =>
          match answer with
          | .ok acquires => some ((s.setConnected true).negotiate c acquires channels)
          | .bleakError =>
              some (({ s with transport := { s.transport with client := none } } :
                SharedTransport).setConnect c none)
          | _ => some (s.setConnect c none)
      | _ => none
  | .negotiated c answer =>
      match s.connects c with
      | some (.negotiating channels) =>
          match answer with
          -- Only an `Exception` is passed over.
          | .cancelled => some (s.setConnect c none)
          | _ => some ((s.takeMtu answer).subscribe c channels)
      | _ => none
  | .subscribed c answer =>
      match s.connects c with
      | some (.subscribing channels) =>
          match answer with
          | .ok _ => some (s.subscribe c channels)
          | .bleakError => some (s.undo c)
          | _ => some (s.setConnect c none)
      | _ => none
  | .undone c =>
      match s.connects c with
      | some .undoing =>
          some (({ s with transport := s.transport.hungUp } : SharedTransport).setConnect c none)
      | _ => none
  | .disconnect =>
      match s.held with
      | none => some (s.record .disconnectCalled)
      | some c =>
          some (({ s with closing := c :: s.closing } : SharedTransport).setConnected false
            |>.record .disconnectCalled)
  | .disconnected c =>
      if c ∈ s.closing then
        some { s with transport := s.transport.hungUp, closing := s.closing.erase c }
      else none
  | .write data =>
      match s.held with
      | none => some s
      | some c =>
          if s.transport.connected ∧ (data.length : Int) ≤ s.transport.effectiveChunkBytes then
            some { s with writing := c :: s.writing }
          else some s
  | .written c answer =>
      if c ∈ s.writing then
        let s : SharedTransport := { s with writing := s.writing.erase c }
        match answer with
        | .bleakError => some ((s.setConnected false).record (.writeFailed c))
        | _ => some s
      else none
  | .onDisconnected c =>
      if c < s.made then some ((s.setConnected false).record (.dropped c)) else none

/-- A transport from its creation. -/
def run (profile : PrinterProfile) (actions : List Action) : Option SharedTransport :=
  runs step (start profile) actions

/-! ### What the generations owe each other -/

/-- The client whose call or callback an action is. -/
def Action.client : Action → Option Nat
  | .dialed c _ | .negotiated c _ | .subscribed c _ | .undone c | .disconnected c | .written c _
  | .onDisconnected c => some c
  | .connect _ _ | .disconnect | .write _ => none

/-- The action belongs to an earlier client than the one held. -/
def Outdated (s : SharedTransport) (action : Action) : Prop :=
  ∃ c ∈ action.client, ∃ b ∈ s.held, c < b

/-- What belongs to an earlier client leaves a later connection as it is. -/
def Undisturbed (s : SharedTransport) (action : Action) : Prop :=
  s.Outdated action → ∀ next ∈ step s action, next.transport = s.transport

/-- The client was lost: it dropped, or a write on it failed. -/
def Lost (log : List LinkEvent) (c : Nat) : Prop :=
  .dropped c ∈ log ∨ .writeFailed c ∈ log

/-- The `connect` that created the client has returned, `disconnect` was not called after it, and
the client was not lost. -/
def Standing (log : List LinkEvent) (c : Nat) : Prop :=
  ¬ Lost log c ∧
    ∃ before after, log = before ++ .returned c :: after ∧ .disconnectCalled ∉ after

/-- Where an action of an earlier client finds nothing of the later connection to change. -/
def Harmless (s : SharedTransport) : Action → Prop
  | .dialed _ (.ok _) => s.transport.connected = true
  | .negotiated _ (.ok (some mtu)) => mtu ≤ 3 ∨ s.transport.effectiveChunkBytes = mtu - 3
  | .subscribed _ .bleakError | .written _ .bleakError | .onDisconnected _ =>
      s.transport.connected = false
  | .dialed _ .bleakError | .undone _ | .disconnected _ => False
  | _ => True

/-- A `connect` is at its last await, and this answer lets it return. -/
def Returning (s : SharedTransport) : Action → Prop
  | .dialed c (.ok acquires) =>
      s.connects c = some (.dialing []) ∧
        ¬ (s.transport.profile.negotiateMtu ∧ s.held.isSome ∧ acquires)
  | .negotiated _ .cancelled => False
  | .negotiated c _ => s.connects c = some (.negotiating [])
  | .subscribed c (.ok _) => s.connects c = some (.subscribing [])
  | _ => False

/-- Actions of an earlier client find nothing to change, and a `connect` returns only while its
client is held and no `disconnect` awaits it, unless that client was lost. -/
def Orderly (s : SharedTransport) (action : Action) : Prop :=
  (s.Outdated action → s.Harmless action) ∧
    (s.Returning action → ∀ c ∈ action.client,
      Lost s.log c ∨ s.held = some c ∧ c ∉ s.closing)

instance (s : SharedTransport) : DecidablePred s.Outdated :=
  fun action => inferInstanceAs (Decidable (∃ c ∈ action.client, ∃ b ∈ s.held, c < b))

instance (s : SharedTransport) : DecidablePred s.Harmless := fun action => by
  unfold Harmless
  split <;> infer_instance

instance (s : SharedTransport) : DecidablePred s.Returning := fun action => by
  unfold Returning
  split <;> infer_instance

instance (log : List LinkEvent) (c : Nat) : Decidable (Lost log c) :=
  inferInstanceAs (Decidable (_ ∨ _))

instance (s : SharedTransport) : DecidablePred s.Orderly :=
  fun _ => inferInstanceAs (Decidable (_ ∧ _))

/-! ### One step -/

variable {s next : SharedTransport} {c : Nat}

@[simp]
theorem held_setConnect (phase : Option ConnectPhase) : (s.setConnect c phase).held = s.held := rfl

@[simp]
theorem transport_setConnect (phase : Option ConnectPhase) :
    (s.setConnect c phase).transport = s.transport := rfl

@[simp]
theorem transport_record (event : LinkEvent) : (s.record event).transport = s.transport := rfl

theorem subscribe_transport (channels : List Channel) :
    (s.subscribe c channels).transport = s.transport := by
  cases channels with
  | nil => rfl
  | cons channel channels =>
      unfold subscribe
      cases s.held <;> rfl

theorem negotiate_transport (acquires : Bool) (channels : List Channel) :
    (s.negotiate c acquires channels).transport = s.transport := by
  unfold negotiate
  split
  · rfl
  · exact subscribe_transport channels

theorem setConnected_transport (connected : Bool) :
    (s.setConnected connected).transport = s.transport ↔ s.transport.connected = connected := by
  constructor
  · intro same
    rw [← same]
    rfl
  · rintro rfl
    rfl

/-- Only the chunk size depends on the MTU. -/
theorem takeMtu_eq (s : SharedTransport) (answer : Awaited (Option Int)) :
    ∃ chunkBytes, s.takeMtu answer =
      { s with transport := { s.transport with effectiveChunkBytes := chunkBytes } } := by
  unfold takeMtu
  split
  · split
    · exact ⟨_, rfl⟩
    · exact ⟨_, rfl⟩
  · exact ⟨_, rfl⟩

theorem takeMtu_transport (mtu : Int) :
    (s.takeMtu (.ok (some mtu))).transport = s.transport ↔
      mtu ≤ 3 ∨ s.transport.effectiveChunkBytes = mtu - 3 := by
  unfold takeMtu
  dsimp only
  split
  · constructor
    · intro same
      rw [← same]
      exact .inr rfl
    · rintro (small | same)
      · omega
      · rw [← same]
  · constructor
    · exact fun _ => .inl (by omega)
    · exact fun _ => rfl

/-- A held client is no longer held once the transport has hung up. -/
theorem ne_of_client_none {transport : Transport} (none : transport.client = none)
    (holds : s.held.isSome) : transport ≠ s.transport := by
  rintro rfl
  simp [held, none] at holds

/-- Exactly the harmless actions of an earlier client leave the transport as it is. -/
theorem undisturbed_iff {action : Action} (stepped : step s action = some next)
    (outdated : s.Outdated action) : next.transport = s.transport ↔ s.Harmless action := by
  obtain ⟨c, own, b, held, -⟩ := outdated
  have holds : s.held.isSome := Option.isSome_iff_exists.mpr ⟨b, held⟩
  cases action with
  | connect | disconnect | write => exact nomatch own
  | dialed c answer =>
      simp only [step] at stepped
      split at stepped
      · cases answer with
        | ok acquires =>
            obtain rfl := Option.some.inj stepped
            rw [negotiate_transport, setConnected_transport]
            rfl
        | bleakError =>
            obtain rfl := Option.some.inj stepped
            exact iff_of_false (ne_of_client_none rfl holds) id
        | error | cancelled =>
            obtain rfl := Option.some.inj stepped
            exact iff_of_true rfl trivial
      · exact nomatch stepped
  | negotiated c answer =>
      simp only [step] at stepped
      split at stepped
      · cases answer with
        | ok mtu =>
            obtain rfl := Option.some.inj stepped
            rw [subscribe_transport]
            cases mtu with
            | none => exact iff_of_true rfl trivial
            | some mtu => exact takeMtu_transport mtu
        | bleakError | error =>
            obtain rfl := Option.some.inj stepped
            rw [subscribe_transport]
            exact iff_of_true rfl trivial
        | cancelled =>
            obtain rfl := Option.some.inj stepped
            exact iff_of_true rfl trivial
      · exact nomatch stepped
  | subscribed c answer =>
      simp only [step] at stepped
      split at stepped
      · cases answer with
        | ok =>
            obtain rfl := Option.some.inj stepped
            rw [subscribe_transport]
            exact iff_of_true rfl trivial
        | bleakError =>
            obtain rfl := Option.some.inj stepped
            rw [undo, held]
            exact setConnected_transport false
        | error | cancelled =>
            obtain rfl := Option.some.inj stepped
            exact iff_of_true rfl trivial
      · exact nomatch stepped
  | undone c =>
      simp only [step] at stepped
      split at stepped
      · obtain rfl := Option.some.inj stepped
        exact iff_of_false (ne_of_client_none rfl holds) id
      · exact nomatch stepped
  | disconnected c =>
      simp only [step, Option.ite_none_right_eq_some, Option.some.injEq] at stepped
      obtain ⟨-, rfl⟩ := stepped
      exact iff_of_false (ne_of_client_none rfl holds) id
  | written c answer =>
      simp only [step, Option.ite_none_right_eq_some] at stepped
      obtain ⟨-, stepped⟩ := stepped
      cases answer with
      | bleakError =>
          obtain rfl := Option.some.inj stepped
          exact setConnected_transport false
      | ok | error | cancelled =>
          obtain rfl := Option.some.inj stepped
          exact iff_of_true rfl trivial
  | onDisconnected c =>
      simp only [step, Option.ite_none_right_eq_some, Option.some.injEq] at stepped
      obtain ⟨-, rfl⟩ := stepped
      exact setConnected_transport false

/-! ### The invariant -/

/-- What orderly runs keep. -/
structure Consistent (s : SharedTransport) : Prop where
  newest : ∀ c, s.held = some c → c + 1 = s.made
  connects_lt : ∀ c phase, s.connects c = some phase → c < s.made
  closing_lt : ∀ c ∈ s.closing, c < s.made
  writing_lt : ∀ c ∈ s.writing, c < s.made
  /-- A `connect` past its dial is connected, as long as its client is held and wanted. -/
  linked : ∀ c phase, s.connects c = some phase → phase.Linked → s.held = some c →
    c ∉ s.closing → ¬ Lost s.log c → s.transport.connected = true
  /-- A client whose `connect` has returned is held, connected and wanted. -/
  standing : ∀ c, Standing s.log c →
    s.held = some c ∧ s.transport.connected = true ∧ c ∉ s.closing ∧ s.connects c = none

theorem consistent_start (profile : PrinterProfile) : Consistent (start profile) where
  newest := nofun
  connects_lt := nofun
  closing_lt := nofun
  writing_lt := nofun
  linked := nofun
  standing := by
    rintro c ⟨-, before, after, split, -⟩
    simp [start] at split

/-- What one more event leaves standing. -/
theorem Standing.of_concat {log : List LinkEvent} {event : LinkEvent} {c : Nat}
    (standing : Standing (log ++ [event]) c) :
    ¬ Lost log c ∧ event ≠ .dropped c ∧ event ≠ .writeFailed c ∧
      (event = .returned c ∨ event ≠ .disconnectCalled ∧ Standing log c) := by
  obtain ⟨present, before, after, split, uncalled⟩ := standing
  simp only [Lost, List.mem_append, List.mem_singleton, not_or] at present
  obtain ⟨⟨kept, notDropped⟩, wrote, notFailed⟩ := present
  have unlost : ¬ Lost log c := fun lost => lost.elim kept wrote
  refine ⟨unlost, Ne.symm notDropped, Ne.symm notFailed, ?_⟩
  rcases List.eq_nil_or_concat after with rfl | ⟨rest, last, rfl⟩
  · obtain ⟨-, same⟩ := List.append_inj' split rfl
    exact .inl (List.cons.inj same).1
  · rw [List.concat_eq_append, ← List.cons_append, ← List.append_assoc] at split
    obtain ⟨earlier, same⟩ := List.append_inj' split rfl
    obtain ⟨rfl, -⟩ := List.cons.inj same
    rw [List.concat_eq_append, List.mem_append, List.mem_singleton, not_or] at uncalled
    exact .inr ⟨Ne.symm uncalled.2, unlost, before, rest, earlier, uncalled.1⟩

namespace Consistent

/-- A `connect` has ended without returning. -/
theorem ended (inv : Consistent s) : Consistent (s.setConnect c none) where
  newest := inv.newest
  connects_lt := by
    intro d phase here
    simp only [setConnect, Function.update_apply] at here
    split at here
    · exact nomatch here
    · exact inv.connects_lt d phase here
  closing_lt := inv.closing_lt
  writing_lt := inv.writing_lt
  linked := by
    intro d phase here
    simp only [setConnect, Function.update_apply] at here
    split at here
    · exact nomatch here
    · exact inv.linked d phase here
  standing := by
    intro d standing
    obtain ⟨held, connected, wanted, gone⟩ := inv.standing d standing
    refine ⟨held, connected, wanted, ?_⟩
    simp only [setConnect, Function.update_apply]
    split
    · rfl
    · exact gone

/-- A `connect` in progress goes on to another await. -/
theorem goesOn {old phase : ConnectPhase} (inv : Consistent s) (here : s.connects c = some old)
    (linked : phase.Linked → s.held = some c → c ∉ s.closing → ¬ Lost s.log c →
      s.transport.connected = true) : Consistent (s.setConnect c (some phase)) where
  newest := inv.newest
  connects_lt := by
    intro d other there
    simp only [setConnect, Function.update_apply] at there
    split at there
    · subst d
      exact inv.connects_lt c old here
    · exact inv.connects_lt d other there
  closing_lt := inv.closing_lt
  writing_lt := inv.writing_lt
  linked := by
    intro d other there
    simp only [setConnect, Function.update_apply] at there
    split at there
    · subst d
      obtain rfl := Option.some.inj there
      exact linked
    · exact inv.linked d other there
  standing := by
    intro d standing
    obtain ⟨held, connected, wanted, gone⟩ := inv.standing d standing
    have other : d ≠ c := by
      rintro rfl
      rw [here] at gone
      exact nomatch gone
    refine ⟨held, connected, wanted, ?_⟩
    simp only [setConnect, Function.update_of_ne other]
    exact gone

/-- A `connect` returns. -/
theorem returns (inv : Consistent s)
    (linked : s.held = some c → c ∉ s.closing → ¬ Lost s.log c → s.transport.connected = true)
    (own : Lost s.log c ∨ s.held = some c ∧ c ∉ s.closing) :
    Consistent ((s.setConnect c none).record (.returned c)) where
  newest := inv.newest
  connects_lt := inv.ended.connects_lt
  closing_lt := inv.closing_lt
  writing_lt := inv.writing_lt
  linked := by
    intro d phase here isLinked held wanted unlost
    apply inv.ended.linked d phase here isLinked held wanted
    rintro (dropped | failed)
    · exact unlost (.inl (List.mem_append_left _ dropped))
    · exact unlost (.inr (List.mem_append_left _ failed))
  standing := by
    intro d standing
    obtain ⟨unlost, -, -, same | ⟨-, standing⟩⟩ := standing.of_concat
    · obtain rfl := LinkEvent.returned.inj same
      obtain ⟨held, wanted⟩ := own.resolve_left unlost
      refine ⟨held, linked held wanted unlost, wanted, ?_⟩
      exact Function.update_self ..
    · exact inv.ended.standing d standing

/-- A `connect` past its dial reaches its next subscription, or it returns. -/
theorem subscribes {old : ConnectPhase} {channels : List Channel} (inv : Consistent s)
    (here : s.connects c = some old)
    (linked : s.held = some c → c ∉ s.closing → ¬ Lost s.log c → s.transport.connected = true)
    (own : channels = [] → Lost s.log c ∨ s.held = some c ∧ c ∉ s.closing) :
    Consistent (s.subscribe c channels) := by
  cases channels with
  | nil => exact inv.returns linked (own rfl)
  | cons channel channels =>
      unfold subscribe
      cases s.held with
      | none => exact inv.ended
      | some b => exact inv.goesOn here fun _ => linked

/-- The chunk size does not matter. -/
theorem takes_chunk (inv : Consistent s) (chunkBytes : Int) :
    Consistent { s with transport := { s.transport with effectiveChunkBytes := chunkBytes } } :=
  { inv with }

/-- The list of writes in progress changes. -/
theorem writes {writing : List Nat} (inv : Consistent s) (known : ∀ d ∈ writing, d < s.made) :
    Consistent { s with writing } :=
  { inv with writing_lt := known }

/-- The client of a `connect` has connected. -/
theorem connected (inv : Consistent s) : Consistent (s.setConnected true) where
  newest := inv.newest
  connects_lt := inv.connects_lt
  closing_lt := inv.closing_lt
  writing_lt := inv.writing_lt
  linked := fun _ _ _ _ _ _ _ => rfl
  standing := by
    intro d standing
    obtain ⟨held, -, wanted, gone⟩ := inv.standing d standing
    exact ⟨held, rfl, wanted, gone⟩

/-- A `connect` whose client has connected negotiates the MTU, or it goes on. -/
theorem negotiates {acquires : Bool} {channels : List Channel}
    (inv : Consistent (s.setConnected true)) (here : s.connects c = some (.dialing channels))
    (own : channels = [] →
      ¬ (s.transport.profile.negotiateMtu ∧ s.held.isSome ∧ acquires) →
      Lost s.log c ∨ s.held = some c ∧ c ∉ s.closing) :
    Consistent ((s.setConnected true).negotiate c acquires channels) := by
  unfold negotiate
  split
  · exact inv.goesOn here fun _ _ _ _ => rfl
  · rename_i refused
    exact inv.subscribes here (fun _ _ _ => rfl) fun none => own none refused

/-- An action that takes the client away finds no client standing, unless that is its own. -/
theorem nobody_standing (inv : Consistent s) (old : c < s.made)
    (latest : ∀ b, s.held = some b → ¬ c < b) (own : ¬ Standing s.log c) (d : Nat) :
    ¬ Standing s.log d := by
  intro standing
  obtain ⟨held, -⟩ := inv.standing d standing
  have newest := inv.newest d held
  have same : c = d := by
    have := latest d held
    omega
  exact own (same ▸ standing)

/-- The client is taken away. -/
theorem loses_client {transport : Transport} {closing : List Nat} (inv : Consistent s)
    (gone : transport.client = none) (nobody : ∀ d, ¬ Standing s.log d)
    (fewer : closing ⊆ s.closing) : Consistent { s with transport, closing } where
  newest := by
    intro d held
    simp [SharedTransport.held, gone] at held
  connects_lt := inv.connects_lt
  closing_lt := fun d member => inv.closing_lt d (fewer member)
  writing_lt := inv.writing_lt
  linked := by
    intro d phase here isLinked held
    simp [SharedTransport.held, gone] at held
  standing := fun d standing => absurd standing (nobody d)

/-- A client is lost that the transport holds, or that changes nothing. -/
theorem loses {event : LinkEvent} (inv : Consistent s) (old : c < s.made)
    (harmless : ∀ b, s.held = some b → c < b → s.transport.connected = false)
    (loss : event = .dropped c ∨ event = .writeFailed c) :
    Consistent ((s.setConnected false).record event) where
  newest := inv.newest
  connects_lt := inv.connects_lt
  closing_lt := inv.closing_lt
  writing_lt := inv.writing_lt
  linked := by
    intro d phase here isLinked held wanted unlost
    have other : d ≠ c := by
      rintro rfl
      rcases loss with rfl | rfl
      · exact unlost (.inl (List.mem_append_right _ (List.mem_singleton_self _)))
      · exact unlost (.inr (List.mem_append_right _ (List.mem_singleton_self _)))
    have later : c < d := by
      have := inv.newest d held
      omega
    have connected : s.transport.connected = true := by
      apply inv.linked d phase here isLinked held wanted
      rintro (dropped | failed)
      · exact unlost (.inl (List.mem_append_left _ dropped))
      · exact unlost (.inr (List.mem_append_left _ failed))
    rw [harmless d held later] at connected
    exact nomatch connected
  standing := by
    intro d standing
    obtain ⟨-, notDropped, notFailed, rfl | ⟨-, standing⟩⟩ := standing.of_concat
    · rcases loss with same | same <;> exact nomatch same
    · obtain ⟨held, connected, -⟩ := inv.standing d standing
      have other : d ≠ c := by
        rintro rfl
        exact loss.elim notDropped notFailed
      have later : c < d := by
        have := inv.newest d held
        omega
      rw [harmless d held later] at connected
      exact nomatch connected

/-- `disconnect` is called on the held client. -/
theorem disconnects (inv : Consistent s) (held : s.held = some c) :
    Consistent ((({ s with closing := c :: s.closing } : SharedTransport).setConnected false).record
      .disconnectCalled) where
  newest := inv.newest
  connects_lt := inv.connects_lt
  closing_lt := by
    intro d member
    rcases List.mem_cons.mp member with rfl | member
    · have := inv.newest d held
      exact Nat.lt_of_succ_le (Nat.le_of_eq this)
    · exact inv.closing_lt d member
  writing_lt := inv.writing_lt
  linked := by
    intro d phase here isLinked there wanted
    obtain rfl := Option.some.inj (held.symm.trans there)
    exact absurd (List.mem_cons_self ..) wanted
  standing := by
    intro d standing
    obtain ⟨-, -, -, same | ⟨called, -⟩⟩ := standing.of_concat
    · exact nomatch same
    · exact absurd rfl called

/-- `disconnect` is called while no client is held. -/
theorem disconnects_nothing (inv : Consistent s) : Consistent (s.record .disconnectCalled) where
  newest := inv.newest
  connects_lt := inv.connects_lt
  closing_lt := inv.closing_lt
  writing_lt := inv.writing_lt
  linked := by
    intro d phase here isLinked held wanted unlost
    apply inv.linked d phase here isLinked held wanted
    rintro (dropped | failed)
    · exact unlost (.inl (List.mem_append_left _ dropped))
    · exact unlost (.inr (List.mem_append_left _ failed))
  standing := by
    intro d standing
    obtain ⟨-, -, -, same | ⟨called, -⟩⟩ := standing.of_concat
    · exact nomatch same
    · exact absurd rfl called

/-- A `connect` that could not subscribe calls `disconnect`. -/
theorem undoes {old : ConnectPhase} (inv : Consistent s) (here : s.connects c = some old)
    (harmless : ∀ b, s.held = some b → c < b → s.transport.connected = false) :
    Consistent (s.undo c) := by
  unfold undo
  cases held : s.held with
  | none => exact inv.ended
  | some b =>
      have below := inv.connects_lt c old here
      have newest := inv.newest b held
      have down (d : Nat) (there : s.held = some d) (connected : s.transport.connected = true) :
          d = c := by
        obtain rfl := Option.some.inj (held.symm.trans there)
        by_contra other
        have later : c < b := by omega
        rw [harmless b held later] at connected
        exact nomatch connected
      exact {
        newest := inv.newest
        connects_lt := by
          intro d phase there
          simp only [setConnect, Function.update_apply] at there
          split at there
          · subst d
            exact below
          · exact inv.connects_lt d phase there
        closing_lt := inv.closing_lt
        writing_lt := inv.writing_lt
        linked := by
          intro d phase there isLinked holds wanted unlost
          simp only [setConnect, Function.update_apply] at there
          split at there
          · obtain rfl := Option.some.inj there
            exact isLinked.elim
          · rename_i other
            exact absurd (down d holds (inv.linked d phase there isLinked holds wanted unlost))
              other
        standing := by
          intro d standing
          obtain ⟨holds, connected, -, gone⟩ := inv.standing d standing
          obtain rfl := down d holds connected
          rw [here] at gone
          exact nomatch gone }

/-- A new client is created. -/
theorem dials {address : String} {channels : List Channel} (inv : Consistent s)
    (free : s.transport.isConnected = false) :
    Consistent (({ s with
      transport := { s.transport with client := some ⟨s.made, address⟩ }
      made := s.made + 1 } : SharedTransport).setConnect s.made (some (.dialing channels))) := by
  exact {
    newest := by
      intro d held
      obtain rfl := Option.some.inj held
      rfl
    connects_lt := by
      intro d phase here
      simp only [setConnect, Function.update_apply] at here
      split at here
      · subst d
        exact Nat.lt_succ_self _
      · exact Nat.lt_succ_of_lt (inv.connects_lt d phase here)
    closing_lt := fun d member => Nat.lt_succ_of_lt (inv.closing_lt d member)
    writing_lt := fun d member => Nat.lt_succ_of_lt (inv.writing_lt d member)
    linked := by
      intro d phase here isLinked held
      obtain rfl := Option.some.inj held
      simp only [setConnect, Function.update_self] at here
      obtain rfl := Option.some.inj here
      exact isLinked.elim
    standing := by
      intro d standing
      obtain ⟨held, connected, -⟩ := inv.standing d standing
      obtain ⟨client, holds, -⟩ := Option.map_eq_some_iff.mp held
      rw [Transport.isConnected, connected, holds] at free
      exact nomatch free }

/-- Every orderly step keeps the invariant. -/
theorem stays {action : Action} (inv : Consistent s) (orderly : s.Orderly action)
    (stepped : step s action = some next) : Consistent next := by
  obtain ⟨harmless, own⟩ := orderly
  cases action with
  | connect address channels =>
      simp only [step] at stepped
      split at stepped
      · obtain rfl := Option.some.inj stepped
        exact inv
      · rename_i free
        obtain rfl := Option.some.inj stepped
        exact inv.dials (Bool.eq_false_of_not_eq_true free)
  | dialed c answer =>
      simp only [step] at stepped
      split at stepped
      · rename_i channels here
        cases answer with
        | ok acquires =>
            obtain rfl := Option.some.inj stepped
            exact inv.connected.negotiates here fun none refused =>
              own ⟨by rw [here, none], refused⟩ c rfl
        | bleakError =>
            obtain rfl := Option.some.inj stepped
            have nobody := inv.nobody_standing (inv.connects_lt c _ here)
              (fun b held later => harmless ⟨c, rfl, b, held, later⟩)
              (fun standing => by
                have gone := (inv.standing c standing).2.2.2
                rw [here] at gone
                exact nomatch gone)
            exact (inv.loses_client rfl nobody (List.Subset.refl _)).ended
        | error | cancelled =>
            obtain rfl := Option.some.inj stepped
            exact inv.ended
      · exact nomatch stepped
  | negotiated c answer =>
      simp only [step] at stepped
      split at stepped
      · rename_i channels here
        have goesOn (returning : s.Returning (.negotiated c answer) ↔
            s.connects c = some (.negotiating [])) :
            Consistent ((s.takeMtu answer).subscribe c channels) := by
          obtain ⟨chunkBytes, same⟩ := takeMtu_eq s answer
          rw [same]
          apply (inv.takes_chunk chunkBytes).subscribes here (inv.linked c _ here trivial)
          rintro rfl
          exact own (returning.mpr here) c rfl
        cases answer with
        | ok | bleakError | error =>
            obtain rfl := Option.some.inj stepped
            exact goesOn Iff.rfl
        | cancelled =>
            obtain rfl := Option.some.inj stepped
            exact inv.ended
      · exact nomatch stepped
  | subscribed c answer =>
      simp only [step] at stepped
      split at stepped
      · rename_i channels here
        cases answer with
        | ok =>
            obtain rfl := Option.some.inj stepped
            apply inv.subscribes here (inv.linked c _ here trivial)
            rintro rfl
            exact own here c rfl
        | bleakError =>
            obtain rfl := Option.some.inj stepped
            exact inv.undoes here fun b held later => harmless ⟨c, rfl, b, held, later⟩
        | error | cancelled =>
            obtain rfl := Option.some.inj stepped
            exact inv.ended
      · exact nomatch stepped
  | undone c =>
      simp only [step] at stepped
      split at stepped
      · rename_i here
        obtain rfl := Option.some.inj stepped
        have nobody := inv.nobody_standing (inv.connects_lt c _ here)
          (fun b held later => harmless ⟨c, rfl, b, held, later⟩)
          (fun standing => by
            have gone := (inv.standing c standing).2.2.2
            rw [here] at gone
            exact nomatch gone)
        exact (inv.loses_client rfl nobody (List.Subset.refl _)).ended
      · exact nomatch stepped
  | disconnect =>
      simp only [step] at stepped
      split at stepped
      · obtain rfl := Option.some.inj stepped
        exact inv.disconnects_nothing
      · rename_i c held
        obtain rfl := Option.some.inj stepped
        exact inv.disconnects held
  | disconnected c =>
      simp only [step, Option.ite_none_right_eq_some, Option.some.injEq] at stepped
      obtain ⟨member, rfl⟩ := stepped
      have nobody := inv.nobody_standing (inv.closing_lt c member)
        (fun b held later => harmless ⟨c, rfl, b, held, later⟩)
        (fun standing => (inv.standing c standing).2.2.1 member)
      exact inv.loses_client rfl nobody (List.erase_subset ..)
  | write data =>
      simp only [step] at stepped
      split at stepped
      · obtain rfl := Option.some.inj stepped
        exact inv
      · rename_i c held
        split at stepped
        · obtain rfl := Option.some.inj stepped
          refine inv.writes fun d member => ?_
          rcases List.mem_cons.mp member with rfl | member
          · exact Nat.lt_of_succ_le (Nat.le_of_eq (inv.newest d held))
          · exact inv.writing_lt d member
        · obtain rfl := Option.some.inj stepped
          exact inv
  | written c answer =>
      simp only [step, Option.ite_none_right_eq_some] at stepped
      obtain ⟨member, stepped⟩ := stepped
      have written := inv.writes fun d (member : d ∈ s.writing.erase c) =>
        inv.writing_lt d (List.mem_of_mem_erase member)
      cases answer with
      | bleakError =>
          obtain rfl := Option.some.inj stepped
          exact written.loses (inv.writing_lt c member)
            (fun b held later => harmless ⟨c, rfl, b, held, later⟩) (.inr rfl)
      | ok | error | cancelled =>
          obtain rfl := Option.some.inj stepped
          exact written
  | onDisconnected c =>
      simp only [step, Option.ite_none_right_eq_some, Option.some.injEq] at stepped
      obtain ⟨old, rfl⟩ := stepped
      exact inv.loses old (fun b held later => harmless ⟨c, rfl, b, held, later⟩) (.inl rfl)

end Consistent

/-- In every run whose actions are orderly, what belongs to an earlier client leaves the later
connection as it is, and a client whose `connect` has returned is held and connected. -/
theorem connections_undisturbed {profile : PrinterProfile} {actions : List Action}
    {final : SharedTransport} (ran : run profile actions = some final)
    (orderly : Throughout (Meets step (start profile) Orderly) actions) :
    Throughout (Meets step (start profile) Undisturbed) actions ∧
      ∀ c, Standing final.log c → final.transport.isConnected = true ∧ final.held = some c := by
  have kept (s : SharedTransport) (action : Action) (next : SharedTransport)
      (inv : Consistent s) (orderly : s.Orderly action) (stepped : step s action = some next) :
      Consistent next := inv.stays orderly stepped
  refine ⟨meets_of_invariant (consistent_start profile) kept ?_ orderly, ?_⟩
  · intro s action _ orderly outdated next stepped
    exact (undisturbed_iff stepped outdated).mpr (orderly.1 outdated)
  · intro c standing
    have inv := runs_induction_meeting (consistent_start profile) kept ran orderly
    obtain ⟨held, connected, -⟩ := inv.standing c standing
    obtain ⟨client, holds, -⟩ := Option.map_eq_some_iff.mp held
    exact ⟨by rw [Transport.isConnected, connected, holds]; rfl, held⟩

/-- A connection taken down and another made, while the callback of the first fires late. -/
def reconnection : List Action :=
  [.connect "AA:BB" [.event], .dialed 0 (.ok true), .negotiated 0 (.ok (some 247)),
    .subscribed 0 (.ok ()), .write [0x1b, 0x40], .written 0 (.ok ()), .disconnect,
    .disconnected 0, .connect "AA:BB" [.event], .onDisconnected 0, .dialed 1 (.ok false),
    .subscribed 1 (.ok ())]

theorem connections_undisturbed_reconnection :
    ∃ final, run m08f reconnection = some final ∧
      final.transport.isConnected = true ∧ final.held = some 1 := by
  obtain ⟨final, ran⟩ := Option.isSome_iff_exists.mp
    (show (run m08f reconnection).isSome by decide +kernel)
  have log : (run m08f reconnection).map SharedTransport.log =
      some [.returned 0, .disconnectCalled, .dropped 0, .returned 1] := by
    decide +kernel
  have undisturbed := (connections_undisturbed ran (by decide +kernel)).2 1
  rw [ran] at log
  refine ⟨final, ran, undisturbed ?_⟩
  rw [Option.some.inj log]
  exact ⟨by decide, [.returned 0, .disconnectCalled, .dropped 0], [], rfl, List.not_mem_nil⟩

/-- A `disconnect` that still awaits the first client takes the second one away. -/
theorem connection_taken_down : ¬ ∀ profile actions final, run profile actions = some final →
    Throughout (Meets step (start profile) Undisturbed) actions ∧
      ∀ c, Standing final.log c →
        final.transport.isConnected = true ∧ final.held = some c := by
  intro claimed
  let actions : List Action :=
    [.connect "AA:BB" [], .dialed 0 (.ok false), .disconnect, .connect "AA:BB" [],
      .dialed 1 (.ok false), .disconnected 0]
  obtain ⟨final, ran⟩ := Option.isSome_iff_exists.mp
    (show (run m08f actions).isSome by decide +kernel)
  have left : (run m08f actions).map (fun s => (s.log, s.held)) =
      some ([.returned 0, .disconnectCalled, .returned 1], none) := by
    decide +kernel
  rw [ran] at left
  obtain ⟨log, held⟩ := Prod.mk.inj (Option.some.inj left)
  have holds := ((claimed m08f actions final ran).2 1 (by
    rw [log]
    exact ⟨by decide, [.returned 0, .disconnectCalled], [], rfl, List.not_mem_nil⟩)).2
  rw [held] at holds
  exact nomatch holds

end SharedTransport

end Phomemo
