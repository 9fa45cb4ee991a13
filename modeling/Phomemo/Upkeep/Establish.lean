import Phomemo.Upkeep.Runs

/-!
# Establishing connections

The order in which a printer finds its device and the bridge its printer, said once for properties
that change on the way.  What holds before, what each step has to do and what the ends are enter
as parameters.
-/

namespace Phomemo

open Async Coroutine

/-! ## Conditions on the history -/

section AsLongAs

variable {rely : TraceEvent → Prop} {holds : World → List TraceEvent → Prop} {p : PrinterId}
  {near : Near} {condition : List TraceEvent → TraceEvent → Prop}

/-- Awaits keep what they keep without the condition. -/
theorem IdleStable.asLongAs (stable : IdleStable rely holds) :
    IdleStable rely (AsLongAs condition holds) where
  awaken := fun w past answer given relied all =>
    stable.awaken w past answer (given all.of_append) relied
  quiet := fun w after past quiet given all => stable.quiet w after past quiet (given all)
  event := fun w past event wire given relied all =>
    stable.event w past event wire (given all.of_concat) relied

theorem WireStable.asLongAs (stable : WireStable rely holds p) :
    WireStable rely (AsLongAs condition holds) p where
  toIdleStable := stable.toIdleStable.asLongAs
  wrote := fun w past client data given writable relied command all =>
    stable.wrote w past client data (given all.of_concat) writable relied command
  lost := fun w past given relied all => stable.lost w past (given all.of_concat) relied

end AsLongAs

/-! ## A printer and its device -/

/-- A disconnect leaves the link down, also when it fails. -/
theorem ensures_disconnect {rely : TraceEvent → Prop} {inv : World → List TraceEvent → Prop}
    {p : PrinterId} (stable : IdleStable rely inv)
    (downed : ∀ w past, inv w past → inv (w.setConnected p false) past)
    (hungUp : ∀ w past, inv w past → inv (w.hangUp p) past) {w : World} {past : List TraceEvent}
    (holds : inv w past) :
    Ensures rely (BleTransport.disconnect p)
      ⟨fun _ w past => inv w past ∧ w.isConnected p = false,
        fun _ w past => inv w past ∧ w.isConnected p = false ∧
          past.getLast? = some (.disconnectFailed p), inv⟩ w past := by
  have down : ∀ w : World, (w.hangUp p).isConnected p = false := by
    intro w
    rw [World.isConnected, World.hangUp, World.setTransport_printers, if_pos rfl]
    rfl
  apply Ensures.read_bind
  apply Ensures.ite
  · intro _
    have lowered := downed w past holds
    apply Ensures.modify_bind
    apply ensures_tick_bind lowered
    intro answer relied
    have gone := hungUp _ _ (stable.awaken _ past answer lowered relied)
    apply Ensures.modify_bind
    cases answer.bleakError with
    | none => exact Ensures.pure ⟨gone, down _⟩
    | some text =>
        apply Ensures.emit_bind
        intro relied
        have failed := stable.event _ _ _ (.disconnectFailed p) gone relied
        exact Ensures.raise ⟨failed, down _, List.getLast?_concat⟩
  · intro absent
    apply Ensures.pure
    refine ⟨holds, ?_⟩
    rw [World.isConnected, Transport.isConnected, Bool.eq_false_of_not_eq_true absent,
      Bool.and_false]

/-- A printer object learns about its device, then connects to it. -/
theorem ensures_connect {env : Env} {rely : TraceEvent → Prop}
    {inv : World → List TraceEvent → Prop} {post : Post PyExc World TraceEvent Unit}
    {p : PrinterId} (stable : IdleStable rely inv)
    (learned : ∀ w past (change : Printer → Printer),
      (∀ printer, (change printer).transport = printer.transport ∧
        (change printer).profile = printer.profile) →
      inv w past → inv (w.setPrinter p change) past)
    (resolved : ∀ w past asked found, inv w past → rely (.resolved asked found) →
      inv w (past ++ [.resolved asked found]))
    (unfound : ∀ w past text, inv w past → post.raised (.connectionError text) w past)
    (waiting : ∀ w past, inv w past → post.waiting w past)
    (connects : ∀ w past device, inv w past →
      Ensures rely (BleTransport.connect p device) post w past)
    {w : World} {past : List TraceEvent} (holds : inv w past) :
    Ensures rely (Printer.connect env p) post w past := by
  apply Ensures.read_bind
  cases (w.printers p).address with
  | none =>
      have scans : ∀ search, Upholds rely inv (fun error => ∃ text, error = .connectionError text)
          (scanDevices (.ok search)) := stable.scanByName fun text => ⟨text, rfl⟩
      apply Ensures.read_bind
      apply Upholds.seq (scans _) holds
      · rintro (_ | ⟨device, _ | ⟨_, _⟩⟩) w past holds
        · exact Ensures.raise (unfound w past _ holds)
        · apply Ensures.modify_bind
          exact connects _ past device (learned w past _ (fun _ => ⟨rfl, rfl⟩) holds)
        · exact Ensures.raise (unfound w past _ holds)
      · rintro _ w past holds ⟨text, rfl⟩
        exact unfound w past text holds
      · exact waiting
  | some known =>
      cases known with
      | device device => exact connects w past device holds
      | text address =>
          apply ensures_tick_bind (waiting w past holds)
          intro answer relied
          have awake := stable.awaken w past answer holds relied
          cases answer.bleakError with
          | some text => exact Ensures.raise (unfound _ _ _ awake)
          | none =>
              cases answer.found with
              | none => exact Ensures.raise (unfound _ _ _ awake)
              | some device =>
                  apply Ensures.emit_bind
                  intro relied
                  apply Ensures.modify_bind
                  apply connects
                  exact learned _ _ _ (fun _ => ⟨rfl, rfl⟩)
                    (resolved _ _ address device awake relied)

/-! ## The bridge finds its printer -/

/-- What a connect of the bridge has to do for a property: `inv` holds before the printer is
connected, and `post` is what has become of it then. -/
structure EstablishStable (env : Env) (rely : TraceEvent → Prop)
    (inv : World → List TraceEvent → Prop) (post : Post PyExc World TraceEvent Unit) : Prop where
  idle : IdleStable rely inv
  cancelHold : ∀ w past, inv w past → inv w.cancelHold past
  disconnect : ∀ p w past, inv w past → w.bridge.printer = some p →
    Ensures rely (BleTransport.disconnect p) ⟨fun _ => inv, post.raised, post.waiting⟩ w past
  dropped : ∀ w past, inv w past → inv w.dropPrinter past
  looked : ∀ w past address found, inv w past → inv w (past ++ [.lookedFor address found])
  adopted : ∀ w past profile address explicit, profile ∈ env.registry.profiles → inv w past →
    inv ((w.withPrinter profile address).adopt w.nextPrinter explicit) past
  refused : ∀ w past exc, env.registry.ScanRaises exc → inv w past → post.raised exc w past
  online : ∀ w past, inv w past → w.bridgeConnected = true → post.returned () w past
  waiting : ∀ w past, inv w past → post.waiting w past
  connects : ∀ p w past, inv w past → w.bridge.printer = some p → w.isConnected p = false →
    Ensures rely (Bridge.connectHeld env) post w past

namespace EstablishStable

variable {env : Env} {rely : TraceEvent → Prop} {inv : World → List TraceEvent → Prop}
  {post : Post PyExc World TraceEvent Unit} {w : World} {past : List TraceEvent}

theorem release (stable : EstablishStable env rely inv post) (holds : inv w past)
    (address model : Option String) :
    Ensures rely (Bridge.release address model) ⟨fun _ => inv, post.raised, post.waiting⟩
      w past := by
  have drops : ∀ w past, inv w past →
      Ensures rely (modify World.dropPrinter : Py Unit) ⟨fun _ => inv, post.raised, post.waiting⟩
        w past :=
    fun w past holds => Ensures.modify (stable.dropped w past holds)
  have cancelled := stable.cancelHold w past holds
  apply Ensures.read_bind
  cases w.bridge.printer with
  | none => exact Ensures.pure holds
  | some p =>
      apply Ensures.ite
      · intro _
        apply Ensures.bind
        apply Ensures.modify_bind
        apply Ensures.read_bind
        cases held : w.cancelHold.bridge.printer with
        | none => exact Ensures.pure (drops _ _ cancelled)
        | some q =>
            apply Ensures.ite
            · intro _
              apply (stable.disconnect q _ past cancelled held).mono
              · exact fun _ => drops
              · exact fun _ _ _ => id
              · exact fun _ _ => id
            · exact fun _ => Ensures.pure (drops _ _ cancelled)
      · exact fun _ => Ensures.pure holds

/-- A printer whose link is down. -/
theorem acquire (stable : EstablishStable env rely inv post) (holds : inv w past)
    {address model : Option String} (known : ¬env.Unknown model)
    (down : w.bridgeConnected = false) :
    Ensures rely (Bridge.acquire env address model)
      ⟨fun _ w past => inv w past ∧ ∃ p, w.bridge.printer = some p ∧ w.isConnected p = false,
        post.raised, post.waiting⟩ w past := by
  have fresh : ∀ (w : World) profile address explicit,
      ((w.withPrinter profile address).adopt w.nextPrinter explicit).isConnected w.nextPrinter =
        false := by
    intro w profile address explicit
    rw [World.isConnected, World.adopt_printers, World.withPrinter_new]
    rfl
  apply Ensures.read_bind
  apply Ensures.ite
  · intro _
    apply Ensures.bind
    cases model with
    | some name =>
        have listed : name ∈ env.registry.listProfiles := by
          by_contra unlisted
          exact known ⟨name, rfl, unlisted⟩
        obtain ⟨profile, found⟩ := env.registry.getProfile_isSome listed
        unfold Bridge.newPrinter
        dsimp only
        rw [found]
        apply Ensures.read_bind
        apply Ensures.modify_bind
        apply Ensures.pure
        apply Ensures.modify
        have registered := env.registry.getProfile_mem found
        exact ⟨stable.adopted w past profile _ true registered holds, w.nextPrinter, rfl,
          fresh _ _ _ _⟩
    | none =>
        apply Ensures.bind
        apply Ensures.handle
        have scans := @ensures_scan _ _ env env.registry.ScanRaises stable.idle (fun _ => id) w past
          holds
        apply scans.mono
        · rintro found w past ⟨holds, known⟩
          dsimp only
          cases picked : Bridge.pickDevice env address found with
          | error exc =>
              obtain ⟨text, rfl⟩ := Bridge.pickDevice_error picked
              apply Ensures.emit_bind
              exact fun _ => Ensures.raise
                (stable.refused w _ _ (.connection text) (stable.looked w past address false holds))
          | ok device =>
              obtain ⟨member, -⟩ := Bridge.pickDevice_ok picked
              obtain ⟨profile, chosen⟩ :=
                @Registry.exists_profileForName _ _ none (known device member)
              apply Ensures.emit_bind
              intro _
              unfold Bridge.factoryForName
              rw [chosen]
              apply Ensures.read_bind
              apply Ensures.modify_bind
              apply Ensures.pure
              apply Ensures.modify
              have looked := stable.looked w past address true holds
              have registered := env.registry.profilesForName_subset _ _
                (env.registry.profileForName_mem chosen)
              exact ⟨stable.adopted w _ profile _ false registered looked, w.nextPrinter, rfl,
                fresh _ _ _ _⟩
        · rintro exc w past ⟨holds, scanned⟩
          apply Ensures.emit_bind
          exact fun _ => Ensures.raise
            (stable.refused w _ exc scanned (stable.looked w past address false holds))
        · exact stable.waiting
  · intro present
    apply Ensures.pure
    obtain ⟨p, held⟩ := Option.ne_none_iff_exists'.mp
      fun absent => present (Option.isNone_iff_eq_none.mpr absent)
    refine ⟨holds, p, held, ?_⟩
    rw [World.bridgeConnected, held] at down
    exact down

theorem establish (stable : EstablishStable env rely inv post) (cancelled : inv w.cancelHold past)
    (address model : Option String) :
    Ensures rely (Bridge.establish env address model) post w past := by
  have rest : ¬env.Unknown model → Ensures rely (do
      Bridge.release address model
      let w ← read
      if w.bridgeConnected then
        pure ()
      else
        Bridge.acquire env address model
        Bridge.connectHeld env) post w.cancelHold past := by
    intro known
    apply Ensures.seq (stable.release cancelled address model)
    · intro _ w past holds
      apply Ensures.read_bind
      apply Ensures.ite
      · exact fun online => Ensures.pure (stable.online w past holds online)
      · intro offline
        apply Ensures.seq (stable.acquire holds known (Bool.eq_false_of_not_eq_true offline))
        · rintro _ w past ⟨holds, p, held, down⟩
          exact stable.connects p w past holds held down
        · exact fun _ _ _ => id
        · exact fun _ _ => id
    · exact fun _ _ _ => id
    · exact fun _ _ => id
  apply Ensures.modify_bind
  cases model with
  | none => exact rest env.not_unknown_none
  | some name =>
      apply Ensures.ite
      · exact fun _ => Ensures.raise (stable.refused _ _ _ (.connection _) cancelled)
      · intro listed
        exact rest (env.not_unknown_some listed)

end EstablishStable

end Phomemo
