import Phomemo.PageEnd.Head
import Phomemo.Upkeep.Runs

/-!
# The model a client named

Whether a model was named is recorded when the printer object is made.  An open that names the
model of a printer object made before leaves the record as it is, so the serial may still switch
the model.  Without such opens a named model stays.
-/

namespace Phomemo

open Async Coroutine

/-- Whether a call names another model than the one in force, or another address than that of the
bridge's printer. -/
def renames (named address model : Option String) (current : Option Target) : Bool :=
  (address.isSome && address ≠ current.bind Target.address) || (model.isSome && model ≠ named)

/-- What an event does to the model in force. -/
def nameModel (env : Env) (named : Option String) : TraceEvent → Option String
  | .openAnswered _ (some model) _ =>
      if model ∈ env.registry.listProfiles then some model else named
  | .connectCalled address model current =>
      if renames named address model current then none else named
  | _ => named

/-- The model an accepted open named, until an open names another model or another address. -/
def namedModel (env : Env) (past : List TraceEvent) : Option String :=
  past.foldl (nameModel env) none

theorem namedModel_concat (env : Env) (past : List TraceEvent) (event : TraceEvent) :
    namedModel env (past ++ [event]) = nameModel env (namedModel env past) event := by
  simp [namedModel]

/-- Ordinary events neither name a model nor answer an open. -/
theorem nameModel_ordinary (env : Env) (named : Option String) {event : TraceEvent}
    (ordinary : event.Ordinary) : nameModel env named event = named := by
  cases ordinary with
  | await kind => cases kind <;> rfl
  | wire kind => cases kind <;> rfl
  | connect kind => cases kind <;> rfl
  | waits kind => cases kind <;> rfl
  | writeFailed p => rfl
  | wrote p address data => rfl
  | dialed p address overlapped => rfl
  | resolved asked found => rfl
  | usedProfile p old new => rfl
  | replacedPrinter old new => rfl

theorem namedModel_append (env : Env) (past : List TraceEvent) {later : List TraceEvent}
    (ordinary : ∀ event ∈ later, event.Ordinary) :
    namedModel env (past ++ later) = namedModel env past := by
  induction later generalizing past with
  | nil => simp
  | cons event later ih =>
      rw [List.append_cons, ih _ fun other member => ordinary other (List.mem_cons_of_mem _ member),
        namedModel_concat, nameModel_ordinary env _ (ordinary event List.mem_cons_self)]

/-- No open names the model of the printer at hand unless a client had named it before, or the
open names another address. -/
def NamesAnew : TraceEvent → Prop
  | .connectCalled address (some model) (some current) =>
      model = current.model → current.explicit = false →
        address.isSome ∧ address ≠ current.address
  | _ => True

instance : DecidablePred NamesAnew := fun event => by
  unfold NamesAnew
  split <;> infer_instance

/-- The bridge's printer has a registered model, and it is the named one; `goal` is the model of
an open under way. -/
structure Named (env : Env) (goal : Option String) (w : World) (past : List TraceEvent) : Prop where
  allocated : ∀ p, w.bridge.printer = some p → p < w.nextPrinter
  registered : ∀ p, w.bridge.printer = some p → (w.printers p).profile ∈ env.registry.profiles
  stays : ∀ model, namedModel env past = some model ∨ goal = some model →
    ∃ p, w.bridge.printer = some p ∧ (w.printers p).profile.name = model ∧
      w.bridge.modelExplicit = true

namespace Named

variable {env : Env} {goal : Option String} {w after : World} {past later : List TraceEvent}

/-- The same choice of printer and model. -/
theorem move (named : Named env goal w past) (next : w.nextPrinter ≤ after.nextPrinter)
    (printer : after.bridge.printer = w.bridge.printer)
    (explicit : after.bridge.modelExplicit = w.bridge.modelExplicit)
    (profile : ∀ p, w.bridge.printer = some p → (after.printers p).profile = (w.printers p).profile)
    (same : namedModel env later = namedModel env past) : Named env goal after later where
  allocated := fun p held => (named.allocated p (printer.symm.trans held)).trans_le next
  registered := fun p held => by
    have before := printer.symm.trans held
    rw [profile p before]
    exact named.registered p before
  stays := fun model chosen => by
    rw [same] at chosen
    obtain ⟨p, held, name, inForce⟩ := named.stays model chosen
    exact ⟨p, printer.trans held, by rw [profile p held, name], explicit.trans inForce⟩

/-- A model the serial may still switch was not named. -/
theorem unnamed (named : Named env goal w past) (inferred : w.bridge.modelExplicit = false) :
    namedModel env past = none ∧ goal = none := by
  constructor
  · by_contra chosen
    obtain ⟨model, chosen⟩ := Option.ne_none_iff_exists'.mp chosen
    obtain ⟨p, -, -, explicit⟩ := named.stays model (.inl chosen)
    exact Bool.false_ne_true (inferred.symm.trans explicit)
  · by_contra chosen
    obtain ⟨model, chosen⟩ := Option.ne_none_iff_exists'.mp chosen
    obtain ⟨p, -, -, explicit⟩ := named.stays model (.inr chosen)
    exact Bool.false_ne_true (inferred.symm.trans explicit)

/-- No model was named. -/
theorem free (allocated : ∀ p, w.bridge.printer = some p → p < w.nextPrinter)
    (registered : ∀ p, w.bridge.printer = some p →
      (w.printers p).profile ∈ env.registry.profiles)
    (unnamed : namedModel env past = none) : Named env none w past where
  allocated := allocated
  registered := registered
  stays := fun model chosen => by
    rw [unnamed] at chosen
    rcases chosen with chosen | chosen <;> cases chosen

/-- The same choice, and one more event that says nothing of it. -/
theorem next {event : TraceEvent} (named : Named env goal w past)
    (next : w.nextPrinter ≤ after.nextPrinter)
    (printer : after.bridge.printer = w.bridge.printer)
    (explicit : after.bridge.modelExplicit = w.bridge.modelExplicit)
    (profile : ∀ p, w.bridge.printer = some p → (after.printers p).profile = (w.printers p).profile)
    (same : nameModel env (namedModel env past) event = namedModel env past) :
    Named env goal after (past ++ [event]) :=
  named.move next printer explicit profile ((namedModel_concat env past event).trans same)

variable {rely : TraceEvent → Prop}

theorem idle : IdleStable rely (Named env goal) where
  awaken := fun w past answer named _ =>
    have awaited := World.awaited_awaken (w := w) answer
    named.move awaited.nextPrinter.ge awaited.printer awaited.modelExplicit
      (fun p _ => awaited.profile p) (namedModel_append env past fun event member =>
        .await (World.awakening_events answer event member))
  quiet := fun _ _ _ quiet named => named.move quiet.nextPrinter.ge quiet.printer
    quiet.modelExplicit (fun p _ => quiet.profile p) rfl
  event := fun _ _ _ wire named _ => named.next le_rfl rfl rfl (fun _ _ => rfl)
    (nameModel_ordinary env _ (.wire wire))

theorem link (q : PrinterId) : LinkStable rely (Named env goal) q fun _ _ => True where
  toIdleStable := idle
  wrote := fun _ _ _ _ named _ _ _ => named.next le_rfl rfl rfl (fun _ _ => rfl) rfl
  lost := fun _ _ named _ =>
    named.next le_rfl rfl rfl (fun _ _ => by unfold World.setConnected; simp) rfl
  downed := fun _ _ named =>
    named.move le_rfl rfl rfl (fun _ _ => by unfold World.setConnected; simp) rfl
  hungUp := fun _ _ named => named.move le_rfl rfl rfl (fun _ _ => by unfold World.hangUp; simp) rfl
  unset := fun _ _ named =>
    named.move le_rfl rfl rfl (fun _ _ => by unfold World.setClient; simp) rfl
  dialed := fun _ _ _ named _ _ =>
    named.next le_rfl rfl rfl (fun _ _ => by unfold World.setClient; simp) rfl
  up := fun _ _ named =>
    named.move le_rfl rfl rfl (fun _ _ => by unfold World.setConnected; simp) rfl
  negotiated := fun _ _ _ _ named =>
    named.move le_rfl rfl rfl (fun _ _ => by unfold World.setChunkBytes; simp) rfl
  named := fun w _ device named _ =>
    named.move le_rfl rfl rfl (fun p _ => w.learn_profile q p device) rfl
  learned := fun _ => trivial
  sought := fun _ _ _ => trivial
  handed := fun _ => trivial
  resolved := fun _ _ _ _ named _ => named.next le_rfl rfl rfl (fun _ _ => rfl) rfl

/-- A new printer object with a registered model, while none was named. -/
theorem adopt (held : namedModel env past = none) {profile : PrinterProfile}
    (registered : profile ∈ env.registry.profiles) (address : Option PrinterAddress)
    (explicit : Bool)
    (names : ∀ model, goal = some model → profile.name = model ∧ explicit = true) :
    Named env goal ((w.withPrinter profile address).adopt w.nextPrinter explicit) past where
  allocated := fun p same => by
    obtain rfl := Option.some.inj same
    exact Nat.lt_succ_self _
  registered := fun p same => by
    obtain rfl := Option.some.inj same
    rw [World.adopt_printers, World.withPrinter_new]
    exact registered
  stays := by
    rintro model (chosen | chosen)
    · rw [held] at chosen
      cases chosen
    · refine ⟨_, rfl, ?_, (names model chosen).2⟩
      rw [World.adopt_printers, World.withPrinter_new]
      exact (names model chosen).1

theorem bridge (env : Env) (goal : Option String) :
    BridgeStable env rely (fun _ => Named env goal) fun _ _ => True where
  idle := fun _ => idle
  link := fun _ q _ => link q
  hold := fun _ _ _ _ named _ => named
  letGo := fun _ _ _ _ => id
  marked := fun _ _ _ named => named.move le_rfl rfl rfl (fun _ _ => rfl) rfl
  event := fun _ _ _ _ waits named _ => named.next le_rfl rfl rfl (fun _ _ => rfl)
    (nameModel_ordinary env _ (.waits waits))
  connecting := fun _ _ _ _ connect named _ => named.next le_rfl rfl rfl (fun _ _ => rfl)
    (nameModel_ordinary env _ (.connect connect))
  cancelHold := fun _ _ _ named => named.move le_rfl rfl rfl (fun _ _ => rfl) rfl
  adopted := by
    intro _ w past device profile named absent chosen _
    have unheld : ∀ model, ¬(namedModel env past = some model ∨ goal = some model) := by
      intro model chosen
      obtain ⟨p, held, -⟩ := named.stays model chosen
      exact absurd (held.symm.trans absent) (Option.some_ne_none _)
    apply adopt
    · rw [namedModel_concat]
      exact Option.eq_none_iff_forall_ne_some.mpr fun model chosen => unheld model (.inl chosen)
    · exact env.registry.profilesForName_subset _ profile (env.registry.profileForName_mem chosen)
    · exact fun model chosen => absurd (.inr chosen) (unheld model)
  usedProfile := by
    intro _ w past p profile named held inferred registered _
    obtain ⟨unnamed, rfl⟩ := named.unnamed inferred
    apply free
    · exact fun q same => named.allocated q same
    · intro q same
      unfold World.useProfile
      rw [World.setPrinter_printers]
      split
      · exact registered
      · exact named.registered q same
    · rw [namedModel_concat, unnamed]
      rfl
  replaced := by
    intro _ w past p profile named held inferred registered _
    obtain ⟨unnamed, rfl⟩ := named.unnamed inferred
    apply free
    · intro q same
      obtain rfl := Option.some.inj same
      exact Nat.lt_succ_self _
    · intro q same
      obtain rfl := Option.some.inj same
      rw [World.replace_printers, World.withPrinter_new]
      exact registered
    · rw [namedModel_concat, unnamed]
      rfl

theorem handlers (env : Env) :
    HandlerStable env rely fun _ => Named env none where
  toWaitStable := (bridge env none).waits
  page := fun _ _ _ _ page named _ => named.next le_rfl rfl rfl (fun _ _ => rfl) (by
    cases page <;> rfl)
  streamed := fun _ _ _ _ _ _ _ named _ _ => named.next le_rfl rfl rfl (fun _ _ => rfl) rfl

theorem cmdDisconnect (env : Env) : Keeps rely (Named env none) Session.cmdDisconnect := by
  have stable : WaitStable env rely fun _ => Named env none := (handlers env).toWaitStable
  apply @stable.cmdDisconnect _ _ _ []
  · exact fun _ _ named => named.move le_rfl rfl rfl (fun _ _ => rfl) rfl
  · exact fun _ _ named => named.move le_rfl rfl rfl (fun _ _ => rfl) rfl

/-- A new printer object leaves the bridge's printer as it is. -/
theorem probes (env : Env) :
    ProbeStable env rely (fun _ => Named env none) fun _ => Named env none where
  toHandStable := (bridge env none).toHandStable
  wire := fun p => (link p).toWireStable
  probed := fun w _ device profile named _ => named.move (Nat.le_succ _) rfl rfl
    (fun p held => by rw [World.withPrinter_other (named.allocated p held).ne]) rfl
  probe := fun q => (link q).device env
  left := fun _ _ _ => id

/-- A call puts no model in force. -/
theorem call (named : Named env goal w past) (address model : Option String)
    (current : Option Target) :
    Named env goal w (past ++ [.connectCalled address model current]) where
  allocated := named.allocated
  registered := named.registered
  stays := by
    rintro chosen (before | underWay)
    · rw [namedModel_concat, nameModel] at before
      split at before
      · cases before
      · exact named.stays chosen (.inl before)
    · exact named.stays chosen (.inr underWay)

theorem unnamed_kept : KeptByOrdinary rely fun past => namedModel env past = none :=
  fun past event ordinary unnamed _ =>
    (namedModel_concat env past event).trans ((nameModel_ordinary env _ ordinary).trans unnamed)

/-- An open that names no model at hand without a record of it ends with its model in force. -/
theorem opens (env : Env) (address model : Option String) :
    OpenStable env NamesAnew (fun _ => Named env none) (fun _ => Named env model)
      (fun w past => Named env none w past ∧ namedModel env past = none) (Named env none)
      (fun past => namedModel env past = none) (fun _ _ => True) address model where
  before := bridge env none
  after := bridge env model
  seeks := idle.withTrace unnamed_kept
  remembered := unnamed_kept
  called := fun _ _ named _ => named.call address model _
  kept := by
    intro w past p named anew _ held same
    have before := named.call address model (Bridge.currentTarget w)
    refine ⟨before.allocated, before.registered, ?_⟩
    rintro name (chosen | asked)
    · exact before.stays name (.inl chosen)
    · subst asked
      simp only [Bridge.retargets, Bool.or_eq_false_iff, Bool.and_eq_false_iff] at same
      have name_eq : name = (w.printers p).profile.name := by simpa using same.2
      refine ⟨p, held, name_eq.symm, ?_⟩
      by_contra inferred
      have target : Bridge.currentTarget w = some
          ⟨(w.printers p).addressText, (w.printers p).profile.name, w.bridge.modelExplicit⟩ := by
        simp [Bridge.currentTarget, held]
      rw [target] at anew
      have other := anew name_eq (Bool.eq_false_of_not_eq_true inferred)
      simp [other.1, other.2] at same
  decides := by
    intro w past named _ _ other
    rw [namedModel_concat, nameModel]
    cases inForce : namedModel env past with
    | none => simp
    | some name =>
        obtain ⟨p, held, name_eq, -⟩ := named.stays name (.inl inForce)
        have retargets := other p held
        rw [if_pos]
        simpa [renames, Bridge.retargets, Bridge.currentTarget, held, name_eq] using retargets
  dropped := fun _ _ named unnamed =>
    ⟨free (fun _ held => by cases held) (fun _ held => by cases held) unnamed, unnamed⟩
  modelled := fun w past name profile sought named found =>
    adopt sought.2 (env.registry.getProfile_mem found) _ true fun other same =>
      ⟨(env.registry.getProfile_name found).trans (Option.some.inj (named.symm.trans same)), rfl⟩
  scanned := fun w past device profile sought unasked _ chosen _ =>
    adopt ((namedModel_concat env past (.lookedFor address true)).trans sought.2)
      (env.registry.profilesForName_subset _ profile (env.registry.profileForName_mem chosen)) _
      false fun _ same => absurd (same.symm.trans unasked) (Option.some_ne_none _)
  unfound := fun w past sought _ _ => sought.1.next le_rfl rfl rfl (fun _ _ => rfl) rfl
  forget := fun w past named => ⟨named.allocated, named.registered, fun name chosen =>
    named.stays name (chosen.imp_right fun same => by cases same)⟩
  answered := by
    intro w past connected named _
    refine ⟨named.allocated, named.registered, fun name chosen => ?_⟩
    rcases chosen with chosen | chosen
    · rw [namedModel_concat] at chosen
      cases model with
      | none => exact named.stays name (.inl chosen)
      | some asked =>
          rw [nameModel] at chosen
          split at chosen
          · exact named.stays name (.inr chosen)
          · exact named.stays name (.inl chosen)
    · cases chosen
  refused := by
    intro w past named refuses _
    apply named.next le_rfl rfl rfl (fun _ _ => rfl)
    rcases refuses with ⟨name, rfl, unlisted⟩ | ⟨rfl, -⟩
    · exact if_neg unlisted
    · rfl
  waiting := fun _ _ => id
  waitingSought := fun _ _ => And.left

theorem timer : KeptByTimer (Named env goal) :=
  fun _ _ _ named => named.move le_rfl rfl rfl (fun _ _ => rfl) rfl

theorem runs (env : Env) :
    RunStable env NamesAnew (Named env none) (fun _ => Named env none) (Named env none)
      (Named env none) where
  idle := idle
  begins := Upholds.modify fun w past named => by
    split
    · exact named
    · exact named.move le_rfl rfl rfl (fun _ _ => rfl) rfl
  finishes := timer.finish env
    (fun _ _ named => named.move le_rfl rfl rfl (fun _ _ => rfl) rfl)
    (fun _ _ named _ => named.next le_rfl rfl rfl (fun _ _ => rfl) rfl)
  accepted := fun _ _ _ named _ => named.next le_rfl rfl rfl (fun _ _ => rfl) rfl
  handled := fun _ _ _ named => (handlers env).handler (fun _ _ => id)
    (fun address model _ => (opens env address model).cmdOpen named)
    (fun _ => timer.cmdClose env fun _ _ named _ =>
      named.next le_rfl rfl rfl (fun _ _ => rfl) rfl)
    (fun _ => cmdDisconnect env)
    (fun timeout _ => (probes env).cmdDiscover timeout) named
  replied := fun _ _ _ _ named _ => named.next le_rfl rfl rfl (fun _ _ => rfl) rfl
  answers := idle
  cleared := fun _ _ named => named.move le_rfl rfl rfl (fun _ _ => rfl) rfl
  resting := fun _ _ => id
  finishing := fun _ _ => id

end Named

/-- In a run where no open names the model at hand without a record of it, the printer has the
model an accepted open named last, at every moment until an open names another model or address.
Addresses are told apart as they are spelled. -/
theorem named_model_stays (env : Env) (w : World) (fresh : w.bridge.printer = none)
    (moves : List Session.Move) (script : List Tick)
    (anew : ∀ address model current,
      .connectCalled address (some model) (some current) ∈
        (Session.runMoves env moves w script).trace →
      model = current.model → current.explicit = false →
        address.isSome ∧ address ≠ current.address)
    (model : String)
    (named : namedModel env (Session.runMoves env moves w script).trace = some model) :
    ∃ p, (Session.runMoves env moves w script).ending.state.bridge.printer = some p ∧
      env.registry.getProfile model =
        some (((Session.runMoves env moves w script).ending.state.printers p).profile) := by
  have start : Named env none w [] := Named.free (by simp [fresh]) (by simp [fresh]) rfl
  have relied : ∀ event ∈ (Session.runMoves env moves w script).trace, NamesAnew event := by
    intro event member
    unfold NamesAnew
    split
    · exact anew _ _ _ member
    · trivial
  have holds := (Named.runs env).always moves start relied
  obtain ⟨p, held, name, -⟩ := holds.stays model (.inl named)
  refine ⟨p, held, ?_⟩
  rw [← name]
  exact env.registry.getProfile_of_mem (holds.registered p held)

/-! ## Two models that share a name pattern -/

/-- The process before any client came. -/
def freshWorld : World where
  printers := fun _ => Printer.new strip none

/-- A scan that turns up one printer. -/
def scanned : Tick := { devices := [⟨"S", some "S"⟩] }

/-- The printer answers with the serial of the wider model. -/
def wideSerial : Tick := { incidents := [.notified 0 [⟨0, [], .serial "W1"⟩] ] }

/-- Whether an event is an open that names the model of the printer at hand. -/
def TraceEvent.namesHeld : TraceEvent → Bool
  | .connectCalled _ (some model) (some current) => model = current.model
  | _ => false

/-- The narrower model is named, and named again after the printer was connected anew. -/
def namesTwice : List Session.Move :=
  [.begins, .command (.open none (some "strip")), .command .disconnect,
    .command (.open none none), .command (.open none (some "strip"))]

/-- At the second connection the serial says the wider model. -/
def twiceAnswers : List Tick :=
  let silence : Tick := {}
  scanned :: List.replicate 8 silence ++ [{ found := some ⟨"S", some "S"⟩ }] ++
    List.replicate 4 silence ++ [wideSerial, silence, silence]

def namedTwice : Run PyExc World Tick TraceEvent Unit :=
  Session.runMoves twoStripsEnv namesTwice freshWorld twiceAnswers

/-- The serial does not change the named model. -/
theorem named_model_stays_strip :
    namedTwice.trace.any TraceEvent.namesHeld = true ∧
      ∃ p, namedTwice.ending.state.bridge.printer = some p ∧
        twoStripsEnv.registry.getProfile "strip" =
          some ((namedTwice.ending.state.printers p).profile) := by
  have anew : ∀ event ∈ namedTwice.trace, NamesAnew event := by decide +kernel
  have named : namedModel twoStripsEnv namedTwice.trace = some "strip" := by decide +kernel
  refine ⟨by decide +kernel, ?_⟩
  unfold namedTwice
  exact named_model_stays twoStripsEnv freshWorld rfl namesTwice twiceAnswers
    (fun address model current member => anew _ member) "strip" named

/-- The printer is opened without a model, and its serial is withheld.  A client then names the
model it was taken for; at the next connection the serial switches the model. -/
theorem named_model_switched :
    namedModel twoStripsEnv (Session.runMoves twoStripsEnv
        [.begins, .command (.open none none), .command (.open none (some "strip")),
          .command .disconnect, .command (.open none none)] freshWorld
        (scanned :: {} :: {} :: {} :: {} :: {} :: {} :: {} :: {} :: {} :: {} :: {} :: {} :: {} ::
          wideSerial :: [{}])).trace = some "strip" ∧
    ((Session.runMoves twoStripsEnv
        [.begins, .command (.open none none), .command (.open none (some "strip")),
          .command .disconnect, .command (.open none none)] freshWorld
        (scanned :: {} :: {} :: {} :: {} :: {} :: {} :: {} :: {} :: {} :: {} :: {} :: {} :: {} ::
          wideSerial :: [{}])).ending.state.printers 0).profile = wideStrip ∧
    (Session.runMoves twoStripsEnv
        [.begins, .command (.open none none), .command (.open none (some "strip")),
          .command .disconnect, .command (.open none none)] freshWorld
        (scanned :: {} :: {} :: {} :: {} :: {} :: {} :: {} :: {} :: {} :: {} :: {} :: {} :: {} ::
          wideSerial :: [{}])).ending.state.bridge.printer = some 0 := by
  refine ⟨?_, ?_, ?_⟩ <;> decide +kernel

end Phomemo
