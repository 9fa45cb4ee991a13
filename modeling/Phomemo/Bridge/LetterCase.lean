import Phomemo.Session
import Phomemo.Transfer

/-!
# The letter case of an address

Scans and serials compare addresses without regard to letter case; an `open`, a `status` and the
last seen values compare and look them up as they are spelled.
-/

namespace Phomemo

open Async Coroutine

namespace Session

/-- An `open` naming the address reuses the connection of the printer: it is answered at once, no
printer object is made and none changes. -/
def Reuses (env : Env) (w : World) (p : PrinterId) (address : String) : Prop :=
  ∀ script, ∃ final,
    (cmdOpen env (some address) none w script).ending =
      .returned [("connected", .bool true), ("model", .str (w.printers p).profile.name)] final
        script ∧
    final.printers = w.printers ∧ final.nextPrinter = w.nextPrinter ∧
    final.bridge.printer = some p

/-- A `status` naming the address, when it is answered, reports live values. -/
def ReportsLive (env : Env) (w : World) (address : String) : Prop :=
  ∀ script result final rest,
    (cmdStatus env (some address) w script).ending = .returned result final rest →
    assocGet "connected" result = some (.bool true)

/-- Whatever is recorded now under one address, both recall it. -/
def Recalls (w : World) (address recorded : String) : Prop :=
  ∀ values script final rest,
    (Bridge.remember (some recorded) values w script).ending = .returned () final rest →
    Bridge.lastSeen final (some address) = Bridge.lastSeen final (some recorded)

/-- The bridge takes an address for the same printer as another: where it is linked to that, the
connection is reused and the status is live, and what is recorded for it is recalled. -/
structure Alike (env : Env) (w : World) (address other : String) : Prop where
  linked : ∀ p, w.bridge.printer = some p → w.isConnected p = true →
    (w.printers p).addressText = some other → Reuses env w p address ∧ ReportsLive env w address
  recalls : Recalls w address other

variable {env : Env} {w : World} {p : PrinterId} {address linked : String}

/-- The state in which an `open` finds the printer it names. -/
def opening (w : World) : World :=
  (w.setSession fun session => { session with usedLink := true }).cancelHold

theorem reuses_linked (held : w.bridge.printer = some p) (connected : w.isConnected p = true)
    (here : (w.printers p).addressText = some linked) : Reuses env w p linked := by
  intro script
  have live : (w.printers p).transport.isConnected = true := connected
  refine ⟨opening w, ?_, rfl, rfl, held⟩
  simp [cmdOpen, useLink, Bridge.connect, Bridge.establish, Bridge.cancelHold, Bridge.release,
    Bridge.retargets, bind, Coroutine.bind, handle, emit, Coroutine.modify, Coroutine.read, pure,
    Coroutine.pure, Run.after, World.cancelHold, World.setBridge, World.setSession,
    World.bridgeConnected, World.isConnected, held, here, live, opening]

/-- Under another spelling the bridge drops the connection first. -/
theorem not_reuses (held : w.bridge.printer = some p) (connected : w.isConnected p = true)
    (here : (w.printers p).addressText = some linked) (other : address ≠ linked) :
    ¬Reuses env w p address := by
  intro reuses
  obtain ⟨final, ended, -⟩ := reuses []
  have live : (w.printers p).transport.isConnected = true := connected
  have client : (w.printers p).transport.client.isSome = true := by
    simp only [Transport.isConnected, Bool.and_eq_true] at live
    exact live.2
  simp [cmdOpen, useLink, Bridge.connect, Bridge.establish, Bridge.cancelHold, Bridge.release,
    Bridge.disconnect, Printer.disconnect, BleTransport.disconnect, tick, suspend,
    Bridge.retargets, bind, Coroutine.bind, handle, emit, Coroutine.modify, Coroutine.read, pure,
    Run.after, World.cancelHold, World.setBridge, World.setSession, World.bridgeConnected,
    World.isConnected, held, here, live, client, other] at ended

theorem yields_liveStatus (env : Env) :
    Yields (fun result => assocGet "connected" result = some (.bool true)) (liveStatus env) := by
  refine Yields.bind fun p => Yields.bind fun lid => Yields.bind fun paper => Yields.bind ?_
  exact fun battery => Yields.bind fun w => Yields.bind fun _ => Yields.pure rfl

theorem reportsLive_linked (held : w.bridge.printer = some p) (connected : w.isConnected p = true)
    (here : (w.printers p).addressText = some linked) : ReportsLive env w linked := by
  intro script result final rest ended
  have linkedHere : Bridge.linkedAddress w = some linked := by
    simp [Bridge.linkedAddress, held, here]
  have live : w.bridgeConnected = true := by simp [World.bridgeConnected, held, connected]
  have same : cmdStatus env (some linked) w script = (liveStatus env w script).after [] := by
    simp [cmdStatus, bind, Coroutine.bind, Coroutine.read, live, linkedHere]
  rw [same, Run.after_ending] at ended
  have meets := yields_liveStatus env w [] script fun _ _ => trivial
  rw [Run.Meets, ended] at meets
  exact meets

/-- Under another spelling the printer is reported as not connected. -/
theorem not_reportsLive (held : w.bridge.printer = some p)
    (here : (w.printers p).addressText = some linked) (other : address ≠ linked) :
    ¬ReportsLive env w address := by
  intro reports
  have linkedHere : Bridge.linkedAddress w = some linked := by
    simp [Bridge.linkedAddress, held, here]
  have elsewhere : ¬(w.bridgeConnected = true ∧
      (some address = none ∨ some address = Bridge.linkedAddress w)) := by
    simp [linkedHere, other]
  have answered : ∃ others, (cmdStatus env (some address) w []).ending =
      .returned (("connected", .bool false) :: others) w [] := by
    simp only [cmdStatus, bind, Coroutine.bind, Coroutine.read, if_neg elsewhere]
    exact ⟨_, rfl⟩
  obtain ⟨others, ended⟩ := answered
  have live := reports [] _ _ _ ended
  simp [assocGet] at live

/-- What `last_seen` finds, unless it is empty. -/
theorem lastSeen_eq (address : String) {entry : List (String × Json)}
    (found : assocGet address w.bridge.seen = some entry) (filled : entry ≠ []) :
    Bridge.lastSeen w (some address) = some entry := by
  cases entry with
  | nil => exact absurd rfl filled
  | cons value values => simp [Bridge.lastSeen, found]

theorem lastSeen_other {other : World}
    (same : assocGet address other.bridge.seen = assocGet address w.bridge.seen) :
    Bridge.lastSeen other (some address) = Bridge.lastSeen w (some address) := by
  simp [Bridge.lastSeen, same]

/-- A model recorded under one spelling is not what another spelling recalls. -/
theorem not_recalls (other : address ≠ linked) : ¬Recalls w address linked := by
  intro recalls
  -- A model that is not the one the other spelling recalls already.
  obtain ⟨model, fresh⟩ : ∃ model : String,
      ∀ entry ∈ Bridge.lastSeen w (some address),
        assocGet "model" entry ≠ some (.str model) := by
    cases known : Bridge.lastSeen w (some address) with
    | none => exact ⟨"", by simp⟩
    | some entry =>
        cases has : assocGet "model" entry with
        | none => exact ⟨"", by simp [has]⟩
        | some value =>
            by_cases named : value = .str ""
            · exact ⟨"m", by simp [has, named]⟩
            · exact ⟨"", by simp [has, named]⟩
  let entry := assocSet "at" (.int w.clock)
    (assocSet "model" (.str model) ((assocGet linked w.bridge.seen).getD []))
  let final := w.setBridge fun bridge => { bridge with seen := assocSet linked entry bridge.seen }
  have agree := recalls [("model", .str model)] [] final [] rfl
  have stamped : assocGet "at" entry = some (.int w.clock) := assocGet_assocSet_self ..
  have filled : entry ≠ [] := by
    intro empty
    rw [empty] at stamped
    cases stamped
  have recalled : Bridge.lastSeen final (some linked) = some entry :=
    lastSeen_eq linked (assocGet_assocSet_self linked entry w.bridge.seen) filled
  have kept : Bridge.lastSeen final (some address) = Bridge.lastSeen w (some address) :=
    lastSeen_other (assocGet_assocSet_of_ne (Ne.symm other) entry w.bridge.seen)
  have holds : assocGet "model" entry = some (.str model) := by
    rw [assocGet_assocSet_of_ne (by decide), assocGet_assocSet_self]
  rw [recalled, kept] at agree
  exact fresh entry agree holds

/-- Where the bridge is linked, an `open` and a `status` tell the spellings apart too. -/
theorem linked_tells_spelling (held : w.bridge.printer = some p)
    (connected : w.isConnected p = true) (here : (w.printers p).addressText = some linked) :
    (Reuses env w p address ↔ address = linked) ∧
      (ReportsLive env w address ↔ address = linked) := by
  constructor
  · constructor
    · intro reuses
      by_contra other
      exact not_reuses held connected here other reuses
    · rintro rfl
      exact reuses_linked held connected here
  · constructor
    · intro reports
      by_contra other
      exact not_reportsLive held here other reports
    · rintro rfl
      exact reportsLive_linked held connected here

/-- In every state the bridge takes two addresses that differ in letter case at most for the same
printer exactly when they are spelled the same; so do its `open`, its `status` and its last seen
values, each by itself. -/
theorem alike_iff (env : Env) (w : World) (address other : String) :
    ((env.upper address = env.upper other → Alike env w address other) ↔
        (env.upper address = env.upper other → address = other)) ∧
      (∀ p, w.bridge.printer = some p → w.isConnected p = true →
        (w.printers p).addressText = some other →
        (Reuses env w p address ↔ address = other) ∧
          (ReportsLive env w address ↔ address = other)) ∧
      (Recalls w address other ↔ address = other) := by
  have recalled : Recalls w address other ↔ address = other := by
    constructor
    · intro recalls
      by_contra different
      exact not_recalls different recalls
    · rintro rfl
      exact fun _ _ _ _ _ => rfl
  have linked : ∀ p, w.bridge.printer = some p → w.isConnected p = true →
      (w.printers p).addressText = some other →
      (Reuses env w p address ↔ address = other) ∧ (ReportsLive env w address ↔ address = other) :=
    fun p held connected here => linked_tells_spelling held connected here
  refine ⟨imp_congr_right fun _ => ⟨fun alike => recalled.mp alike.recalls, fun same => ?_⟩, linked,
    recalled⟩
  refine ⟨fun p held connected here => ?_, recalled.mpr same⟩
  obtain ⟨reuses, live⟩ := linked p held connected here
  exact ⟨reuses.mpr same, live.mpr same⟩

/-- A bridge that knows the strip printer. -/
def stripBridge : Env where
  registry :=
    { profiles := [strip]
      compile := anyName
      names_nodup := PrinterProfile.singleton_nodup strip
      compiles := strip_compiles }
  upper := String.toUpper
  repr := fun _ => ""
  diffuse := fun _ _ _ => 0

/-- It is linked to the printer at `S`. -/
def linkedBridge : World where
  printers := fun _ => linkedStrip
  nextPrinter := 1
  bridge := { printer := some 0 }

/-- An `open` of `s` drops the connection to `S`, a status of `s` is not live, and what is recorded
for `S` is not recalled for `s`. -/
theorem lower_case_not_alike :
    stripBridge.upper "s" = stripBridge.upper "S" ∧ ¬Alike stripBridge linkedBridge "s" "S" ∧
      ¬Reuses stripBridge linkedBridge 0 "s" ∧ ¬ReportsLive stripBridge linkedBridge "s" ∧
      ¬Recalls linkedBridge "s" "S" := by
  have other : "s" ≠ "S" := by decide
  have same : "s".map Char.toUpper = "S".map Char.toUpper := by
    apply String.toList_inj.mp
    rw [String.toList_map, String.toList_map]
    decide
  refine ⟨same, fun alike => not_recalls other alike.recalls, ?_, ?_,
    not_recalls other⟩
  · exact not_reuses rfl rfl rfl other
  · exact not_reportsLive rfl rfl other

end Session

end Phomemo
