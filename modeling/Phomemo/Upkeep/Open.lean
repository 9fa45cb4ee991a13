import Phomemo.Upkeep.Waits

/-!
# Invariants of opening a printer

A connect that names an address or a model may let go of the bridge's printer, then has none, and
takes a new one.  `OpenStable` says what each of these moments has to do for an invariant.
-/

namespace Phomemo

open Async Coroutine

namespace World

/-- The bridge without its printer. -/
def dropPrinter (w : World) : World := w.setBridge fun bridge => { bridge with printer := none }

theorem dropPrinter_of_none {w : World} (absent : w.bridge.printer = none) : w.dropPrinter = w := by
  obtain ⟨printers, nextPrinter, nextClient, bridge, session, clock⟩ := w
  obtain ⟨printer, modelExplicit, sessionActive, seen, armed, scheduled, inFlight⟩ := bridge
  obtain rfl : printer = none := absent
  rfl

end World

/-- An invariant together with a property of the trace. -/
theorem IdleStable.withTrace {rely : TraceEvent → Prop} {inv : World → List TraceEvent → Prop}
    {keep : List TraceEvent → Prop} (stable : IdleStable rely inv)
    (kept : KeptByOrdinary rely keep) : IdleStable rely fun w past => inv w past ∧ keep past where
  awaken := fun w past answer holds relied =>
    ⟨stable.awaken w past answer holds.1 relied, kept.append holds.2
      (fun event member => .await (World.awakening_events answer event member)) relied⟩
  quiet := fun w after past quiet holds => ⟨stable.quiet w after past quiet holds.1, holds.2⟩
  event := fun w past event wire holds relied =>
    ⟨stable.event w past event wire holds.1 relied, kept past event (.wire wire) holds.2 relied⟩

theorem LinkStable.withTrace {rely : TraceEvent → Prop} {inv : World → List TraceEvent → Prop}
    {p : PrinterId} {near : Near} {keep : List TraceEvent → Prop}
    (stable : LinkStable rely inv p near) (kept : KeptByOrdinary rely keep) :
    LinkStable rely (fun w past => inv w past ∧ keep past) p near where
  toIdleStable := stable.toIdleStable.withTrace kept
  wrote := fun w past client data holds writable relied command =>
    ⟨stable.wrote w past client data holds.1 writable relied command,
      kept past _ (.wrote _ _ _) holds.2 relied⟩
  lost := fun w past holds relied => ⟨stable.lost w past holds.1 relied,
    kept past _ (.writeFailed p) holds.2 relied⟩
  downed := fun w past holds => ⟨stable.downed w past holds.1, holds.2⟩
  hungUp := fun w past holds => ⟨stable.hungUp w past holds.1, holds.2⟩
  unset := fun w past holds => ⟨stable.unset w past holds.1, holds.2⟩
  dialed := fun w past device holds found relied =>
    ⟨stable.dialed w past device holds.1 found relied,
      kept past _ (.dialed _ _ _) holds.2 relied⟩
  up := fun w past holds => ⟨stable.up w past holds.1, holds.2⟩
  negotiated := fun w past chunk positive holds =>
    ⟨stable.negotiated w past chunk positive holds.1, holds.2⟩
  named := fun w past device holds address =>
    ⟨stable.named w past device holds.1 address, holds.2⟩
  learned := stable.learned
  sought := stable.sought
  handed := stable.handed
  resolved := fun w past asked found holds relied =>
    ⟨stable.resolved w past asked found holds.1 relied,
      kept past _ (.resolved _ _) holds.2 relied⟩

/-- A scan turns up printers of known models only. -/
theorem ensures_scan {rely : TraceEvent → Prop} {inv : World → List TraceEvent → Prop} {env : Env}
    {fails : PyExc → Prop} (stable : IdleStable rely inv)
    (failing : ∀ exc, env.registry.ScanRaises exc → fails exc) {w : World} {past : List TraceEvent}
    (holds : inv w past) :
    Ensures rely (Bridge.scan env)
      ⟨fun found w past => inv w past ∧
          ∀ device ∈ found, env.registry.profilesForName device.name ≠ [],
        fun error w past => inv w past ∧ fails error, inv⟩ w past := by
  have scans := stable.scanDevices (fun text => failing _ (.connection text))
    (env.registry.compile env.registry.joinedPattern) fun _ wrong => failing _ (.pattern wrong)
  apply Upholds.seq scans holds
  · intro found w past holds
    apply Ensures.pure
    refine ⟨holds, fun device member => ?_⟩
    have known := (List.mem_filter.mp member).2
    simpa using known
  · exact fun _ _ _ holds failed => ⟨holds, failed⟩
  · exact fun _ _ => id

/-- A device of a known model has a profile. -/
theorem Registry.exists_profileForName {registry : Registry} {name serial : Option String}
    (known : registry.profilesForName name ≠ []) :
    ∃ profile, registry.profileForName name serial = some profile := by
  unfold profileForName
  cases candidates : registry.profilesForName name with
  | nil => exact absurd candidates known
  | cons first others =>
      dsimp only
      split
      · exact ⟨_, rfl⟩
      · split <;> exact ⟨_, rfl⟩

/-- A name no model is registered under. -/
def Env.Unknown (env : Env) (model : Option String) : Prop :=
  ∃ name, model = some name ∧ name ∉ env.registry.listProfiles

instance (env : Env) (model : Option String) : Decidable (env.Unknown model) :=
  match model with
  | none => isFalse fun ⟨_, same, _⟩ => nomatch same
  | some name => decidable_of_iff (name ∉ env.registry.listProfiles)
      ⟨fun unlisted => ⟨name, rfl, unlisted⟩,
        fun ⟨_, same, unlisted⟩ => Option.some.inj same ▸ unlisted⟩

theorem Env.not_unknown_none (env : Env) : ¬env.Unknown none := by
  rintro ⟨name, same, -⟩
  cases same

theorem Env.not_unknown_some (env : Env) {name : String}
    (listed : ¬name ∉ env.registry.listProfiles) : ¬env.Unknown (some name) := by
  rintro ⟨other, same, unlisted⟩
  exact listed (Option.some.inj same ▸ unlisted)

/-- Opening with an address and a model, from `inv` to `opened`; `decided` is what the call leaves
behind in the trace, and `seeking` holds while the bridge has no printer. -/
structure OpenStable (env : Env) (rely : TraceEvent → Prop)
    (inv opened : List PrinterId → World → List TraceEvent → Prop)
    (seeking waits : World → List TraceEvent → Prop) (decided : List TraceEvent → Prop)
    (near : Near) (address model : Option String) : Prop where
  before : BridgeStable env rely inv near
  after : BridgeStable env rely opened near
  seeks : IdleStable rely seeking
  remembered : KeptByOrdinary rely decided
  called : ∀ w past, inv [] w past →
    rely (.connectCalled address model (Bridge.currentTarget w)) →
    inv [] w (past ++ [.connectCalled address model (Bridge.currentTarget w)])
  /-- The bridge has a printer that is what was asked for. -/
  kept : ∀ w past p, inv [] w past →
    rely (.connectCalled address model (Bridge.currentTarget w)) → ¬env.Unknown model →
    w.bridge.printer = some p → Bridge.retargets address model (w.printers p) = false →
    opened [] w.cancelHold (past ++ [.connectCalled address model (Bridge.currentTarget w)])
  /-- It has another, or none. -/
  decides : ∀ w past, inv [] w past →
    rely (.connectCalled address model (Bridge.currentTarget w)) → ¬env.Unknown model →
    (∀ p, w.bridge.printer = some p → Bridge.retargets address model (w.printers p) = true) →
    decided (past ++ [.connectCalled address model (Bridge.currentTarget w)])
  dropped : ∀ w past, inv [] w past → decided past →
    seeking w.dropPrinter past
  /-- A model was named. -/
  modelled : ∀ w past name profile, seeking w past → model = some name →
    env.registry.getProfile name = some profile →
    opened [] ((w.withPrinter profile (address.map .text)).adopt w.nextPrinter true) past
  /-- The scan turned up a printer. -/
  scanned : ∀ w past device profile, seeking w past → model = none →
    (∀ asked ∈ address, env.upper device.address = env.upper asked) →
    env.registry.profileForName device.name none = some profile →
    rely (.lookedFor address true) →
    opened [] ((w.withPrinter profile (some (.device device))).adopt w.nextPrinter false)
      (past ++ [.lookedFor address true])
  unfound : ∀ w past, seeking w past → model = none → rely (.lookedFor address false) →
    inv [] w (past ++ [.lookedFor address false])
  forget : ∀ w past, opened [] w past → inv [] w past
  answered : ∀ w past connected, opened [] w past →
    rely (.openAnswered address model connected) →
    inv [] w (past ++ [.openAnswered address model connected])
  refused : ∀ w past, inv [] w past →
    env.Unknown model ∨
      model = none ∧ rely (.lookedFor address false) ∧ w.bridge.printer = none →
    rely (.openAnswered address model false) →
    inv [] w (past ++ [.openAnswered address model false])
  waiting : ∀ w past, inv [] w past → waits w past
  waitingSought : ∀ w past, seeking w past → waits w past

/-- The picked device was found, at the address asked for. -/
theorem Bridge.pickDevice_ok {env : Env} {address : Option String} {found : List Device}
    {device : Device} (picked : Bridge.pickDevice env address found = .ok device) :
    device ∈ found ∧ ∀ asked ∈ address, env.upper device.address = env.upper asked := by
  unfold Bridge.pickDevice at picked
  cases address with
  | none =>
      dsimp only at picked
      split at picked
      · cases picked
      · obtain rfl := Except.ok.inj picked
        exact ⟨List.mem_singleton_self _, nofun⟩
      · cases picked
  | some asked =>
      dsimp only at picked
      split at picked
      · cases picked
      · next first rest filtered =>
          obtain rfl := Except.ok.inj picked
          have member := List.mem_filter.mp (filtered ▸ List.mem_cons_self)
          refine ⟨member.1, ?_⟩
          intro other same
          obtain rfl := Option.some.inj same
          simpa using member.2

/-- A printer that cannot be picked is a failed connection. -/
theorem Bridge.pickDevice_error {env : Env} {address : Option String} {found : List Device}
    {exc : PyExc} (unpicked : Bridge.pickDevice env address found = .error exc) :
    ∃ text, exc = .connectionError text := by
  unfold Bridge.pickDevice at unpicked
  cases address with
  | some asked =>
      dsimp only at unpicked
      split at unpicked
      · exact ⟨_, (Except.error.inj unpicked).symm⟩
      · cases unpicked
  | none =>
      dsimp only at unpicked
      split at unpicked
      · exact ⟨_, (Except.error.inj unpicked).symm⟩
      · cases unpicked
      · exact ⟨_, (Except.error.inj unpicked).symm⟩

namespace OpenStable

variable {env : Env} {rely : TraceEvent → Prop}
  {inv opened : List PrinterId → World → List TraceEvent → Prop}
  {seeking waits : World → List TraceEvent → Prop} {decided : List TraceEvent → Prop}
  {near : Near} {address model : Option String} {w : World} {past : List TraceEvent}

/-- What a connect that fails leaves behind. -/
def Fails (env : Env) (rely : TraceEvent → Prop)
    (inv opened : List PrinterId → World → List TraceEvent → Prop)
    (address model : Option String) (error : PyExc) (w : World) (past : List TraceEvent) : Prop :=
  opened [] w past ∨ inv [] w past ∧ (error.IsConnectionError →
    env.Unknown model ∨ model = none ∧ rely (.lookedFor address false) ∧ w.bridge.printer = none)

/-- The ends of a connect. -/
abbrev Opens (env : Env) (rely : TraceEvent → Prop)
    (inv opened : List PrinterId → World → List TraceEvent → Prop)
    (waits : World → List TraceEvent → Prop) (address model : Option String) :
    Post PyExc World TraceEvent Unit where
  returned := fun _ => opened []
  raised := Fails env rely inv opened address model
  waiting := waits

/-- Letting go of a printer that is not what was asked for. -/
theorem release (stable : OpenStable env rely inv opened seeking waits decided near address model)
    (holds : inv [] w past)
    (relied : rely (.connectCalled address model (Bridge.currentTarget w)))
    (known : ¬env.Unknown model) :
    Ensures rely (Bridge.release address model)
      ⟨fun _ w past => opened [] w past ∧ w.bridge.printer ≠ none ∨
          seeking w past ∧ w.bridge.printer = none,
        fun error w past => inv [] w past ∧ ¬error.IsConnectionError, waits⟩
      w.cancelHold (past ++ [.connectCalled address model (Bridge.currentTarget w)]) := by
  have begun := stable.before.cancelHold [] w _ (stable.called w past holds relied)
  apply Ensures.read_bind
  cases held : w.cancelHold.bridge.printer with
  | none =>
      have decides := stable.decides w past holds relied known
        fun p same => nomatch held.symm.trans same
      apply Ensures.pure
      refine .inr ⟨?_, held⟩
      rw [← World.dropPrinter_of_none held]
      exact stable.dropped _ _ begun decides
  | some p =>
      apply Ensures.ite
      · intro other
        have decides := stable.decides w past holds relied known
          fun q same => Option.some.inj (held.symm.trans same) ▸ other
        have letsGo : ∀ w past, inv [p] w past → inv [] w past :=
          fun w past => stable.before.letGo [] w past p
        have leaving : ∀ w past, inv [p] w past ∧ decided past →
            Ensures rely (modify World.dropPrinter : Py Unit)
              ⟨fun _ w past => opened [] w past ∧ w.bridge.printer ≠ none ∨
                  seeking w past ∧ w.bridge.printer = none,
                fun error w past => inv [] w past ∧ ¬error.IsConnectionError, waits⟩ w past :=
          fun w past both => Ensures.modify
            (.inr ⟨stable.dropped w past (letsGo w past both.1) both.2, rfl⟩)
        have link := (stable.before.link [p] p List.mem_cons_self).withTrace stable.remembered
        have disconnects : Upholds rely (fun w past => inv [p] w past ∧ decided past)
            (fun error => ¬error.IsConnectionError) (Printer.disconnect p) :=
          link.disconnect fun _ => id
        have cancelled : inv [p] w.cancelHold.cancelHold _ ∧ decided _ :=
          ⟨stable.before.cancelHold _ _ _ (stable.before.hold [] _ _ p begun held), decides⟩
        apply Ensures.bind
        apply Ensures.modify_bind
        apply Ensures.read_bind
        have still : w.cancelHold.cancelHold.bridge.printer = some p := held
        rw [still]
        apply Ensures.ite
        · intro _
          apply disconnects.ensures cancelled
          · exact fun _ => leaving
          · exact fun _ w past both failed => ⟨letsGo w past both.1, failed⟩
          · exact fun w past both => stable.waiting w past (letsGo w past both.1)
        · exact fun _ => Ensures.pure (leaving _ _ cancelled)
      · intro same
        apply Ensures.pure
        refine .inl ⟨stable.kept w past p holds relied known held ?_, by simp [held]⟩
        exact Bool.eq_false_of_not_eq_true same

/-- Taking a printer that is what was asked for. -/
theorem acquire (stable : OpenStable env rely inv opened seeking waits decided near address model)
    (holds : seeking w past) (absent : w.bridge.printer = none) (known : ¬env.Unknown model) :
    Ensures rely (Bridge.acquire env address model)
      (Opens env rely inv opened waits address model) w past := by
  apply Ensures.read_bind
  generalize explicit_eq : w.bridge.modelExplicit = explicit
  apply Ensures.ite
  · intro _
    apply Ensures.bind
    cases model with
    | some name =>
        have listed : name ∈ env.registry.listProfiles := by
          by_contra unlisted
          exact known ⟨name, rfl, unlisted⟩
        obtain ⟨profile, found⟩ := env.registry.getProfile_isSome listed
        unfold Bridge.newPrinter
        dsimp only
        rw [found]
        apply Ensures.read_bind
        apply Ensures.modify_bind
        apply Ensures.pure
        apply Ensures.modify
        exact stable.modelled w past name profile holds rfl found
    | none =>
        have fails : ∀ error w past, HoldsBridge seeking none explicit w past →
            rely (.lookedFor address false) →
            Fails env rely inv opened address none error w (past ++ [.lookedFor address false]) :=
          fun error w past holds relied => .inr ⟨stable.unfound w past holds.1 rfl relied,
            fun _ => .inr ⟨rfl, relied, holds.2.1⟩⟩
        apply Ensures.bind
        apply Ensures.handle
        have scans := @ensures_scan _ _ env (fun _ => True) (stable.seeks.withBridge none explicit)
          (fun _ _ => trivial) w past ⟨holds, absent, explicit_eq⟩
        apply scans.mono
        · rintro found w past ⟨holds, known⟩
          dsimp only
          cases picked : Bridge.pickDevice env address found with
          | error exc =>
              apply Ensures.emit_bind
              exact fun relied => Ensures.raise (fails exc w past holds relied)
          | ok device =>
              obtain ⟨member, near⟩ := Bridge.pickDevice_ok picked
              obtain ⟨profile, chosen⟩ :=
                @Registry.exists_profileForName _ _ none (known device member)
              apply Ensures.emit_bind
              intro relied
              unfold Bridge.factoryForName
              rw [chosen]
              apply Ensures.read_bind
              apply Ensures.modify_bind
              apply Ensures.pure
              apply Ensures.modify
              exact stable.scanned w past device profile holds.1 rfl near chosen relied
        · rintro error w past ⟨holds, -⟩
          apply Ensures.emit_bind
          exact fun relied => Ensures.raise (fails error w past holds relied)
        · exact fun w past holds => stable.waitingSought w past holds.1
  · exact fun present => absurd (Option.isNone_iff_eq_none.mpr absent) present

theorem establish (stable : OpenStable env rely inv opened seeking waits decided near address model)
    (holds : inv [] w past)
    (relied : rely (.connectCalled address model (Bridge.currentTarget w))) :
    Ensures rely (Bridge.establish env address model)
      (Opens env rely inv opened waits address model) w
      (past ++ [.connectCalled address model (Bridge.currentTarget w)]) := by
  have begun := stable.before.cancelHold [] w _ (stable.called w past holds relied)
  have rest : ¬env.Unknown model → Ensures rely (do
      Bridge.release address model
      let w ← read
      if w.bridgeConnected then
        pure ()
      else
        Bridge.acquire env address model
        Bridge.connectHeld env) (Opens env rely inv opened waits address model) w.cancelHold
      (past ++ [.connectCalled address model (Bridge.currentTarget w)]) := by
    intro known
    have connects : ∀ w past, opened [] w past → Ensures rely (Bridge.connectHeld env)
        (Opens env rely inv opened waits address model) w past :=
      fun w past holds => stable.after.connectHeld.ensures holds (fun _ _ _ => id)
        (fun _ _ _ holds _ => .inl holds)
        (fun w past holds => stable.waiting w past (stable.forget w past holds))
    apply Ensures.seq (stable.release holds relied known)
    · rintro _ w past (⟨holds, present⟩ | ⟨holds, absent⟩)
      · apply Ensures.read_bind
        apply Ensures.ite
        · exact fun _ => Ensures.pure holds
        · intro _
          apply Ensures.bind
          apply Ensures.read_bind
          apply Ensures.ite
          · exact fun absent => absurd (Option.isNone_iff_eq_none.mp absent) present
          · exact fun _ => Ensures.pure (connects w past holds)
      · apply Ensures.read_bind
        apply Ensures.ite
        · intro linked
          simp [World.bridgeConnected, absent] at linked
        · intro _
          apply Ensures.seq (stable.acquire holds absent known)
          · exact fun _ => connects
          · exact fun _ _ _ => id
          · exact fun _ _ => id
    · exact fun _ _ _ failed => .inr ⟨failed.1, fun lost => absurd lost failed.2⟩
    · exact fun _ _ => id
  apply Ensures.modify_bind
  cases model with
  | none => exact rest env.not_unknown_none
  | some name =>
      apply Ensures.ite
      · intro unlisted
        exact Ensures.raise (.inr ⟨begun, fun _ => .inl ⟨name, rfl, unlisted⟩⟩)
      · intro listed
        exact rest (env.not_unknown_some listed)

/-- A connect with an address or a model. -/
theorem connect (stable : OpenStable env rely inv opened seeking waits decided near address model)
    (holds : inv [] w past) :
    Ensures rely (Bridge.connect env address model)
      (Opens env rely inv opened waits address model) w past := by
  apply Ensures.read_bind
  apply Ensures.emit_bind
  intro relied
  apply Ensures.bind
  apply Ensures.handle
  apply (stable.establish holds relied).mono
  · intro _ w past holds
    apply Ensures.read_bind
    apply Ensures.emit
    exact fun relied => stable.after.connecting [] w past _ (.connectReturned _) holds relied
  · intro error w past failed
    apply Ensures.emit_bind
    intro relied
    apply Ensures.raise
    rcases failed with holds | ⟨holds, refuses⟩
    · exact .inl (stable.after.connecting [] w past _ (.connectRaised error) holds relied)
    · exact .inr ⟨stable.before.connecting [] w past _ (.connectRaised error) holds relied, refuses⟩
  · exact fun _ _ => id

theorem cmdOpen (stable : OpenStable env rely inv opened seeking waits decided near address model)
    (holds : inv [] w past) :
    Ensures rely (Session.cmdOpen env address model)
      ⟨fun _ => inv [], fun _ => inv [], waits⟩ w past := by
  have used : inv [] (w.setSession fun session => { session with usedLink := true }) past :=
    stable.before.marked [] w past holds
  apply Ensures.modify_bind
  apply Ensures.bind
  apply Ensures.handle
  apply Ensures.seq (stable.connect used)
  · intro _ w past holds
    apply Ensures.pure
    apply Ensures.read_bind
    cases w.bridge.printer with
    | none => exact Ensures.raise (stable.forget w past holds)
    | some p =>
        apply Ensures.emit_bind
        exact fun relied => Ensures.pure (stable.answered w past true holds relied)
  · intro error w past failed
    apply Ensures.ite
    · intro lost
      apply Ensures.pure
      apply Ensures.emit_bind
      intro relied
      apply Ensures.pure
      rcases failed with holds | ⟨holds, refuses⟩
      · exact stable.answered w past false holds relied
      · exact stable.refused w past holds (refuses lost) relied
    · intro _
      apply Ensures.raise
      rcases failed with holds | ⟨holds, -⟩
      · exact stable.forget w past holds
      · exact holds
  · exact fun _ _ => id

end OpenStable

end Phomemo
