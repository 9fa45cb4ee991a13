import Phomemo.PageEnd.Calm
import Phomemo.PageEnd.Head

/-!
# How an interrupted page ends

Each wait between two attempts catches the exceptions of its calls.  Under the interruptions a
page survives nothing else escapes from them, so the page is printed in the end or its completion
signal stayed out.
-/

namespace Phomemo

open Async Coroutine

/-- Every registered model is usable. -/
def Env.Usable (env : Env) : Prop := ∀ profile ∈ env.registry.profiles, profile.Usable

namespace Calm

variable {mine : Set PrinterId} {p : PrinterId} {w : World} {past : List TraceEvent} {env : Env}

/-! ## Connecting the bridge -/

theorem withPrinter (calm : Calm ∅ w) {profile : PrinterProfile} (usable : profile.Usable)
    (address : Option PrinterAddress) :
    Offline ∅ w.nextPrinter (w.replace profile address) where
  calm :=
    { usable := by
        intro q
        change ((w.setPrinter w.nextPrinter fun _ => Printer.new profile address).printers q).Usable
        rw [World.setPrinter_printers]
        split
        · exact Printer.usable_new usable address
        · exact calm.usable q
      unheld := calm.unheld
      unaborted := calm.unaborted
      held := nofun
      clients := nofun }
  unlinked := by
    change ((w.setPrinter w.nextPrinter fun _ =>
      Printer.new profile address).printers w.nextPrinter).transport.isConnected = false
    rw [World.setPrinter_printers, if_pos rfl]
    rfl

theorem useProfile (calm : Calm ∅ w) (p : PrinterId) {profile : PrinterProfile}
    (usable : profile.Usable) : Calm ∅ (w.useProfile p profile) where
  usable := by
    intro q
    unfold World.useProfile
    rw [World.setPrinter_printers]
    split
    · exact ⟨usable, usable, (calm.usable p).chunk⟩
    · exact calm.usable q
  unheld := calm.unheld
  unaborted := calm.unaborted
  held := calm.held
  clients := nofun

theorem applySerial (registered : env.Usable) (p : PrinterId) (name : Option String)
    (serial : String) : MayLose ∅ (Bridge.applySerial env p name serial) := by
  have notes : ∀ address values, MayLose ∅ (Bridge.remember address values) :=
    fun address values => idle.remember address values
  apply Upholds.bind Upholds.read
  intro w
  apply Upholds.bind (notes _ _)
  intro _
  cases chosen : env.registry.profileForName name (some serial) with
  | none => exact Upholds.pure _
  | some profile =>
      have usable : profile.Usable := registered profile
        (env.registry.profilesForName_subset name profile (env.registry.profileForName_mem chosen))
      apply Upholds.read_bind
      intro w past calm
      apply Ensures.ite
      · exact fun _ => Ensures.pure calm
      · intro _
        apply Ensures.ite
        · intro alike
          apply Ensures.read_bind
          apply Ensures.ite
          · exact fun other => absurd alike other.2
          · intro _
            apply Ensures.modify_bind
            exact Ensures.emit fun _ => calm.useProfile p usable
        · intro _
          apply Ensures.seq (calm.disconnect p)
          · intro _ w past offline
            apply Ensures.read_bind
            apply Ensures.bind
            apply Ensures.read_bind
            apply Ensures.modify_bind
            apply Ensures.pure
            apply Ensures.modify_bind
            apply Ensures.emit_bind
            intro _
            have fresh := offline.calm.bare.withPrinter usable
              ((w.printers p).addressText.map .text)
            apply (connect env fresh).mono
            · exact fun _ _ _ => bare
            · exact fun _ _ _ failed => ⟨failed.2.bare, failed.1⟩
            · exact fun _ _ => id
          · exact fun _ _ _ => False.elim
          · exact fun _ _ => id

theorem refineModel (registered : env.Usable) (p : PrinterId) :
    MayLose ∅ (Bridge.refineModel env p) := by
  have asks : MayLose ∅ (Bridge.querySerial p) := (wire p).bridgeSerial
  apply Upholds.bind Upholds.read
  intro w
  apply Upholds.ite
  · intro _
    apply Upholds.bind asks
    rintro (_ | serial)
    · exact Upholds.pure _
    · exact applySerial registered p _ serial
  · exact fun _ => Upholds.pure _

theorem connectHeld (registered : env.Usable) (calm : Calm ∅ w)
    (unlinked : ¬w.bridgeConnected = true) :
    Ensures Interruptions (Bridge.connectHeld env)
      ⟨fun _ w _ => Calm ∅ w, fun error w _ => Calm ∅ w ∧ error.IsConnectionError,
        fun w _ => Calm ∅ w⟩ w past := by
  apply Ensures.read_bind
  cases held : w.bridge.printer with
  | none => exact absurd held calm.held
  | some p =>
      have offline : Offline ∅ p w := ⟨calm, by simpa [World.bridgeConnected, held] using unlinked⟩
      have sets : ∀ q, MayLose ∅ (Bridge.applyAutoOff env q) := fun q => (wire q).applyAutoOff env
      apply Ensures.seq (connect env offline)
      · intro _ w past calm
        refine Upholds.bind (refineModel registered p) (fun _ => ?_) w past calm.bare
        exact Upholds.bind Upholds.read fun w => sets _
      · exact fun _ _ _ failed => ⟨failed.2.bare, failed.1⟩
      · exact fun _ _ => id

theorem establish (registered : env.Usable) : MayLose ∅ (Bridge.establish env none none) := by
  have cancels : MayLose ∅ Bridge.cancelHold :=
    Upholds.modify fun w _ calm => calm.settle (World.settled_setBridge rfl rfl)
  apply Upholds.bind cancels
  intro _
  apply Upholds.bind keeps_release
  intro _
  apply Upholds.read_bind
  intro w past calm
  apply Ensures.ite
  · exact fun _ => Ensures.pure calm
  · intro unlinked
    apply Ensures.bind
    apply Ensures.read_bind
    apply Ensures.ite
    · intro absent
      exact absurd (Option.isNone_iff_eq_none.mp absent) calm.held
    · exact fun _ => Ensures.pure (calm.connectHeld registered unlinked)

theorem connectBridge (registered : env.Usable) : MayLose ∅ (Bridge.connect env none none) := by
  apply Upholds.bind Upholds.read
  intro w
  have records : ∀ event : TraceEvent, MayLose ∅ (emit event) :=
    fun event => Upholds.emit fun _ _ calm _ => calm
  apply Upholds.bind (records _)
  intro _
  apply Upholds.bind
  · apply Upholds.handle (establish registered)
    exact fun error lost => Upholds.bind (records _) fun _ => Upholds.raise lost
  · intro _
    exact Upholds.bind Upholds.read fun _ => records _

theorem connectOnce (registered : env.Usable) (state : Option WaitingReason) :
    Survives ∅ (Session.connectOnce env state) := by
  have reports : ∀ state reason, Survives ∅ (Session.report state reason) :=
    fun state reason => idle.report state reason
  have pauses : Survives ∅ pause := idle.pause
  have attempts : ∀ state, Survives ∅ (handle
      (do
        Bridge.connect env none none
        return state)
      fun exc =>
        if exc.IsConnectionError then do
          let state ← Session.report state (Session.unreachableReason exc)
          pause
          return state
        else
          raise exc) := by
    intro state
    apply Upholds.handle (Upholds.bind (connectBridge registered) fun _ => Upholds.pure _)
    intro exc lost
    apply Upholds.ite
    · intro _
      apply Upholds.bind (reports _ _)
      exact fun _ => Upholds.bind pauses fun _ => Upholds.pure _
    · exact fun other => absurd lost other
  apply Upholds.ite
  · exact fun _ => Upholds.bind (reports _ _) fun _ => attempts _
  · exact fun _ => attempts state

/-! ## Waiting for a sheet -/

theorem pollReady (env : Env) (deadline muteThreshold : Nat) (inHand : p ∈ mine)
    (calm : Calm mine w) :
    Ensures Interruptions (Printer.pollReady env p deadline muteThreshold)
      ⟨fun _ w _ => Calm mine w,
        fun error w _ => Calm ∅ w ∧ Session.settleFailure error = true, fun w _ => Calm ∅ w⟩
      w past := by
  have lost : ∀ error : PyExc, error.IsConnectionError → Session.settleFailure error = true := by
    intro error lost
    cases error <;> first | rfl | exact lost.elim
  apply Ensures.iterate (fun _ w _ => Calm mine w) (fun _ _ _ => bare) _ calm
  rintro ⟨timeouts, reconnected⟩ w past calm
  apply Upholds.seq (checkReady inHand) calm
  · intro readiness w past calm
    apply Ensures.ite
    · exact fun _ => Ensures.pure calm
    · intro _
      apply Ensures.ite
      · intro _
        apply Ensures.seq (calm.reconnect env p)
        · exact fun _ _ _ calm => Ensures.pure (calm.mono (Set.subset_insert p mine))
        · exact fun error _ _ failed => ⟨failed.2.bare, lost error failed.1⟩
        · exact fun _ _ => id
      · intro _
        apply Ensures.read_bind
        apply Ensures.ite
        · exact fun _ => Ensures.raise ⟨calm.bare, rfl⟩
        · intro _
          have pauses : Survives mine pause :=
            idle.pause
          apply Upholds.seq pauses calm
          · exact fun _ _ _ calm => Ensures.pure calm
          · exact fun _ _ _ _ => False.elim
          · exact fun _ _ => bare
  · exact fun error _ _ calm failed => ⟨calm.bare, lost error failed⟩
  · exact fun _ _ => bare

theorem waitForReady (env : Env) (timeout : Nat) (settle : ℚ) (inHand : p ∈ mine)
    (calm : Calm mine w) :
    Ensures Interruptions (Printer.waitForReady env p timeout settle)
      ⟨fun _ w _ => Calm ∅ w,
        fun error w _ => Calm ∅ w ∧ Session.settleFailure error = true, fun w _ => Calm ∅ w⟩
      w past := by
  have waits : Survives ∅ (Printer.waitFor p .paperEvent) := (wire p).waitFor _
  apply Ensures.read_bind
  apply Ensures.seq (calm.pollReady env _ _ inHand)
  · intro _ w past calm
    apply Ensures.ite
    · intro _
      apply Upholds.seq waits calm.bare
      · exact fun _ _ _ calm => Ensures.pure calm
      · exact fun _ _ _ _ => False.elim
      · exact fun _ _ => id
    · exact fun _ => Ensures.pure calm.bare
  · exact fun _ _ _ => id
  · exact fun _ _ => id

theorem reconnectMute (env : Env) (p : PrinterId) : Survives ∅ (Session.reconnectMute env p) := by
  intro w past calm
  apply Ensures.handle
  apply (calm.reconnect env p).mono
  · exact fun _ _ _ => bare
  · rintro error w past ⟨lost, calm⟩
    apply Ensures.ite
    · exact fun _ => idle.pause _ _ calm.bare
    · exact fun other => absurd lost other
  · exact fun _ _ => id

/-- One round of the wait for a sheet on a connected printer. -/
theorem readyRound (env : Env) (settle : ℚ) (emptyReason : WaitingReason) (timeouts : Nat)
    (state : Option WaitingReason) (inHand : p ∈ mine) (calm : Calm mine w) :
    Ensures Interruptions (Session.readyRound env p settle emptyReason timeouts state)
      ⟨fun _ w _ => Calm ∅ w, fun _ w _ => Calm ∅ w ∧ False, fun w _ => Calm ∅ w⟩ w past := by
  have reports : ∀ state reason, Survives ∅ (Session.report state reason) :=
    fun state reason => idle.report state reason
  have pauses : Survives ∅ pause := idle.pause
  have unready : ∀ readiness : Printer.Readiness, Survives ∅
      (if readiness.couldNotQuery then
        if Session.muteThreshold ≤ timeouts + 1 then do
          Session.reconnectMute env p
          return .inl (0, state)
        else do
          pause
          return .inl (timeouts + 1, state)
      else do
        let state ← Session.report state (Session.waitingReason readiness emptyReason)
        pause
        return .inl (0, state) : Py ((Nat × Option WaitingReason) ⊕ Unit)) := by
    intro readiness
    apply Upholds.ite
    · intro _
      apply Upholds.ite
      · exact fun _ => Upholds.bind (reconnectMute env p) fun _ => Upholds.pure _
      · exact fun _ => Upholds.bind pauses fun _ => Upholds.pure _
    · intro _
      apply Upholds.bind (reports _ _)
      exact fun _ => Upholds.bind pauses fun _ => Upholds.pure _
  have checks : Survives mine
      (excepting (fun exc => exc.IsConnectionError) (Printer.checkReady p)) :=
    upholds_excepting (checkReady inHand) fun exc lost other => other (decide_eq_true lost)
  apply Upholds.seq checks calm
  · rintro (_ | readiness) w past calm
    · exact Ensures.pure calm.bare
    · cases readiness with
      | ready =>
          apply Ensures.ite
          · exact fun _ => Ensures.pure calm.bare
          · intro _
            apply Ensures.bind
            apply Ensures.handle
            apply Ensures.seq (calm.waitForReady env _ _ inHand)
            · exact fun _ _ _ calm => Ensures.pure (Ensures.pure calm)
            · rintro error w past ⟨calm, failed⟩
              apply Ensures.ite
              · exact fun _ => Ensures.pure (Ensures.pure calm)
              · exact fun other => absurd failed other
            · exact fun _ _ => id
      | lidUnknown => exact unready .lidUnknown w past calm.bare
      | lidOpen => exact unready .lidOpen w past calm.bare
      | paperUnknown => exact unready .paperUnknown w past calm.bare
      | noPaper => exact unready .noPaper w past calm.bare
  · exact fun _ _ _ _ => False.elim
  · exact fun _ _ => bare

theorem waitReady (registered : env.Usable) (settle : ℚ) (emptyReason : WaitingReason) :
    Survives ∅ (Session.waitReady env settle emptyReason) := by
  apply Upholds.iterate
  rintro ⟨timeouts, state⟩
  apply Upholds.read_bind
  intro w past calm
  have connects : Survives ∅ (Session.connectOnce env state >>= fun state =>
      pure (.inl (timeouts, state) : (Nat × Option WaitingReason) ⊕ Unit)) :=
    Upholds.bind (connectOnce registered state) fun _ => Upholds.pure _
  apply Ensures.ite
  · exact fun aborted => absurd (calm.unaborted.symm.trans aborted) Bool.false_ne_true
  · intro _
    cases held : w.bridge.printer with
    | none => exact connects w past calm
    | some p =>
        apply Ensures.ite
        · intro online
          exact (calm.insert_of_connected online).readyRound env settle emptyReason timeouts state
            (Set.mem_insert p ∅)
        · exact fun _ => connects w past calm

/-! ## Waiting for a fresh sheet -/

/-- A reconnect that succeeds leaves every printer in use. -/
theorem recoverLink (env : Env) (calm : Calm mine w) :
    Ensures Interruptions (Session.recoverLink env)
      ⟨fun _ w _ => Calm mine w, fun _ _ _ => False, fun w _ => Calm ∅ w⟩ w past := by
  apply Ensures.read_bind
  cases w.bridge.printer with
  | none => exact Ensures.pure calm
  | some p =>
      apply Ensures.handle
      apply (calm.reconnect env p).mono
      · exact fun _ _ _ calm => calm.mono (Set.subset_insert p mine)
      · rintro error w past ⟨lost, -⟩
        apply Ensures.ite
        · exact fun _ => Ensures.emit False.elim
        · exact fun other => absurd lost other
      · exact fun _ _ => id

theorem ejectRemainder (inHand : p ∈ mine) : Survives mine (Session.ejectRemainder p) := by
  apply Upholds.handle (Upholds.bind (ejectPaper inHand) fun _ => Upholds.pure _)
  intro exc lost
  apply Upholds.ite
  · exact fun _ => Upholds.pure _
  · intro other
    cases exc <;> first | exact lost.elim | exact absurd trivial other

theorem awaitLink (registered : env.Usable) (calm : Calm ∅ w) :
    Ensures Interruptions (Session.awaitLink env)
      ⟨fun _ w _ => Calm ∅ w ∧ w.bridgeConnected = true, fun _ _ _ => False, fun w _ => Calm ∅ w⟩
      w past := by
  apply Ensures.iterate (fun _ w _ => Calm ∅ w) (fun _ _ _ => id) _ calm
  intro state w past calm
  apply Ensures.read_bind
  apply Ensures.ite
  · exact fun linked => Ensures.pure ⟨calm, linked⟩
  · intro _
    apply Ensures.ite
    · exact fun aborted => absurd (calm.unaborted.symm.trans aborted) Bool.false_ne_true
    · intro _
      apply Upholds.seq (connectOnce registered state) calm
      · exact fun _ _ _ calm => Ensures.pure calm
      · exact fun _ _ _ _ => False.elim
      · exact fun _ _ => id

/-- The connected printer is in use from here on. -/
theorem requirePrinter (calm : Calm ∅ w) (linked : w.bridgeConnected = true) :
    Ensures Interruptions Session.requirePrinter
      ⟨fun p w _ => Calm {p} w, fun _ _ _ => False, fun w _ => Calm ∅ w⟩ w past := by
  apply Ensures.read_bind
  cases held : w.bridge.printer with
  | none => exact absurd held calm.held
  | some p =>
      have online : w.isConnected p = true := by simpa [World.bridgeConnected, held] using linked
      apply Ensures.ite
      · exact fun _ => Ensures.pure ((calm.insert_of_connected online).mono (by simp))
      · exact fun other => absurd online other

theorem awaitLidClosed (env : Env) (state : Option WaitingReason) (inHand : p ∈ mine)
    (calm : Calm mine w) :
    Ensures Interruptions (Session.awaitLidClosed env p state)
      ⟨fun _ w _ => Calm mine w, fun _ _ _ => False, fun w _ => Calm ∅ w⟩ w past := by
  have asks : Survives mine
      (excepting (fun exc => exc.IsConnectionError) (Printer.queryLid p)) :=
    upholds_excepting (queryLid inHand) fun exc lost other => other (decide_eq_true lost)
  have pauses : Survives mine pause := idle.pause
  have reports : ∀ state reason, Survives mine
      (Session.report state reason) := fun state reason => idle.report state reason
  apply Ensures.iterate (fun _ w _ => Calm mine w) (fun _ _ _ => bare) _ calm
  rintro ⟨timeouts, state⟩ w past calm
  have pausing : ∀ {w past} next, Calm mine w → Ensures Interruptions
      (pause >>= fun _ => pure (.inl next) : Py ((Nat × Option WaitingReason) ⊕ Unit))
      (Post.round (fun _ w _ => Calm mine w)
        ⟨fun _ w _ => Calm mine w, fun _ _ _ => False, fun w _ => Calm ∅ w⟩) w past := by
    intro w past next calm
    apply Upholds.seq pauses calm
    · exact fun _ _ _ calm => Ensures.pure calm
    · exact fun _ _ _ _ => False.elim
    · exact fun _ _ => bare
  apply Ensures.read_bind
  apply Ensures.ite
  · exact fun aborted => absurd (calm.unaborted.symm.trans aborted) Bool.false_ne_true
  · intro _
    apply Upholds.seq asks calm
    · intro lid w past calm
      cases lid.join with
      | none =>
          apply Ensures.ite
          · intro _
            apply Ensures.seq (calm.recoverLink env)
            · exact fun _ _ _ calm => pausing _ calm
            · exact fun _ _ _ => False.elim
            · exact fun _ _ => id
          · exact fun _ => pausing _ calm
      | some lid =>
          cases lid with
          | closed => exact Ensures.pure calm
          | opened =>
              apply Upholds.seq (reports _ _) calm
              · exact fun _ _ _ calm => pausing _ calm
              · exact fun _ _ _ _ => False.elim
              · exact fun _ _ => bare
    · exact fun _ _ _ _ => False.elim
    · exact fun _ _ => bare

theorem dropOldSheet (inHand : p ∈ mine) : Survives mine (Session.dropOldSheet p) := by
  have records : ∀ event : TraceEvent, Survives mine (emit event) :=
    fun event => Upholds.emit fun _ _ calm _ => calm
  apply Upholds.bind
    (upholds_excepting (queryPaper inHand) fun exc lost other => other (decide_eq_true lost))
  intro paper
  apply Upholds.bind (records _)
  intro _
  apply Upholds.ite
  · intro _
    apply Upholds.bind
    · apply Upholds.handle (ejectPaper inHand)
      intro exc _ w past calm
      apply Ensures.emit_bind
      exact False.elim
    · exact fun _ => records _
  · exact fun _ => Upholds.pure _

theorem waitForFreshSheet (registered : env.Usable) (emptyReason : WaitingReason) :
    Survives ∅ (Session.waitForFreshSheet env emptyReason) := by
  intro w past calm
  apply Ensures.seq (calm.awaitLink registered)
  · rintro state w past ⟨calm, linked⟩
    apply Ensures.seq (calm.requirePrinter linked)
    · intro p w past calm
      have inHand : p ∈ ({p} : Set PrinterId) := Set.mem_singleton p
      apply Ensures.seq (calm.awaitLidClosed env state inHand)
      · intro _ w past calm
        apply Upholds.seq (dropOldSheet inHand) calm
        · exact fun _ w past calm => waitReady registered _ _ w past calm.bare
        · exact fun _ _ _ _ => False.elim
        · exact fun _ _ => bare
      · exact fun _ _ _ => False.elim
      · exact fun _ _ => id
    · exact fun _ _ _ => False.elim
    · exact fun _ _ => id
  · exact fun _ _ _ => False.elim
  · exact fun _ _ => id

end Calm

/-! ## The attempts -/

/-- How an attempt that was not cancelled is interrupted. -/
inductive PyExc.Interrupts : PyExc → Prop where
  | connectionError (text : String) : Interrupts (.connectionError text)
  | lidOpened : Interrupts (.printAborted .lidOpened)
  | sheetRanOut (text : String) : Interrupts (.sheetRanOut text)
  | silent : Interrupts (.timeoutError "Timed out waiting for print completion signal")

/-- The error of a page whose completion signal stayed out. -/
def completionLost : PyExc :=
  .commandError "connection lost: Timed out waiting for print completion signal"

namespace Calm

variable {mine : Set PrinterId} {p : PrinterId} {w : World} {past : List TraceEvent} {env : Env}

/-- Every interruption is recovered from, but for a completion signal that stays out. -/
theorem recover (registered : env.Usable) (inHand : p ∈ mine) {exc : PyExc}
    (interrupts : exc.Interrupts) (calm : Calm mine w) :
    Ensures Interruptions (Session.recover env p exc)
      ⟨fun _ w _ => Calm ∅ w, fun error _ _ => error = completionLost, fun w _ => Calm ∅ w⟩
      w past := by
  have freshSheet : ∀ emptyReason w past, Calm ∅ w →
      Ensures Interruptions (Session.waitForFreshSheet env emptyReason)
        ⟨fun _ w _ => Calm ∅ w, fun error _ _ => error = completionLost, fun w _ => Calm ∅ w⟩
        w past := by
    intro emptyReason w past calm
    apply (waitForFreshSheet registered emptyReason).ensures calm
    · exact fun _ _ _ => id
    · exact fun _ _ _ _ => False.elim
    · exact fun _ _ => id
  apply ensures_recover
  · intro _ _
    apply Ensures.emit_bind
    intro _
    apply Ensures.seq (calm.recoverLink env)
    · intro _ w past calm
      apply Upholds.seq (ejectRemainder inHand) calm
      · exact fun _ w past calm => freshSheet _ w past calm.bare
      · exact fun _ _ _ _ => False.elim
      · exact fun _ _ => bare
    · exact fun _ _ _ => False.elim
    · exact fun _ _ => id
  · rintro rfl
    cases interrupts
  · intro _
    apply Ensures.emit_bind
    exact fun _ => freshSheet _ _ _ calm.bare
  · rintro text (rfl | rfl)
    · cases interrupts
      rfl
    · cases interrupts
  · intro ends
    cases interrupts with
    | connectionError text => exact absurd rfl (ends.connectionError text)
    | lidOpened => exact absurd rfl (ends.printAborted _)
    | sheetRanOut text => exact absurd rfl (ends.sheetRanOut text)
    | silent => exact absurd rfl (ends.timeoutError _)

/-- A transfer that is not cancelled is interrupted at worst. -/
theorem transfer_fails {chunk : Int} (inHand : p ∈ mine) :
    WireStable.TransferFails (fun w _ => Sized mine p chunk w) p PyExc.Interrupts
      fun w => w.session.abort where
  connection := .connectionError
  unconnected := fun w past sized absent =>
    absurd ((sized_fails inHand).unconnected w past sized absent) id
  oversize := fun size within w past sized tooLong text =>
    absurd ((sized_fails inHand).oversize size within w past sized tooLong text) id
  chunkless := fun w _ sized zero => by
    have enough := (sized.1.usable p).chunk
    omega
  cancelled := fun w _ sized aborted =>
    absurd (sized.1.unaborted.symm.trans aborted) Bool.false_ne_true
  lidOpened := .lidOpened
  sheetRanOut := .sheetRanOut
  silent := .silent

theorem printReturned_kept :
    KeptByOrdinary Interruptions fun past => .printReturned ∈ past :=
  fun _ _ _ returned _ => List.mem_append_left _ returned

/-- An attempt prints the page or is interrupted, with the printer still in use. -/
theorem printPage (bitmap : Bytes) (height : Nat) (density : Density) (calm : Calm ∅ w) :
    Ensures Interruptions (Session.printPage p bitmap height density)
      ⟨fun _ _ past => .printReturned ∈ past, fun error w _ => Calm {p} w ∧ error.Interrupts,
        fun _ _ => True⟩ w past := by
  have reports : ∀ chunk (sent total : Nat), Upholds Interruptions (fun w _ => Sized {p} p chunk w)
      (fun _ => True) (Session.onProgress p height) :=
    fun chunk _ _ => (sized_wire chunk).toIdleStable.onProgress p height
  apply Ensures.modify_bind
  have started : Calm ∅ (w.setSession fun session => { session with lastPercent := -1 }) :=
    calm.settle (World.quiet_setSession rfl rfl rfl).settled
  apply Ensures.bind
  have streams : ∀ chunk, StreamStable Interruptions (fun w _ => Sized {p} p chunk w) p :=
    fun chunk => { sized_wire chunk with streamed := fun _ _ _ _ sized _ _ => sized }
  apply (streams _).ensures_printBitmap (transfer_fails (Set.mem_singleton p)) (reports _)
  · intro call _ _ _ _ _ linked online
    have live := started.insert_of_connected (linked.symm.trans online)
    exact ⟨live.mono (by simp), rfl⟩
  · exact fun _ unlinked online => absurd (unlinked.symm.trans online) Bool.false_ne_true
  · intro exc failed
    obtain ⟨job, built⟩ := buildRasterStream_ok (started.usable p).profile.fits bitmap height
      (some density) .normal 20
    rw [built] at failed
    cases failed
  · intro w past _ _
    have returned : .printReturned ∈ past ++ [.printReturned] :=
      List.mem_append_right _ (List.mem_singleton_self _)
    apply Ensures.read_bind
    apply Ensures.ite
    · intro _
      exact (printReturned_kept.idle.sendEvent (.progress 100)).ensures returned (fun _ _ _ => id)
        (fun _ _ _ _ => False.elim) (fun _ _ _ => trivial)
    · exact fun _ => Ensures.pure returned
  · exact fun _ _ _ sized interrupts => ⟨sized.1, interrupts⟩
  · exact fun _ _ _ => trivial

/-- The attempts end with the page printed or its completion signal lost. -/
theorem printAttempts (registered : env.Usable) (p : PrinterId) (bitmap : Bytes) (height : Nat)
    (density : Density) (calm : Calm ∅ w) :
    Ensures Interruptions (Session.printAttempts env p bitmap height density)
      ⟨fun _ _ past => .printReturned ∈ past, fun error _ _ => error = completionLost,
        fun _ _ => True⟩ w past := by
  apply Ensures.forever (fun w _ => Calm ∅ w) (fun _ _ _ => trivial) _ calm
  intro w past calm
  apply Ensures.handle
  apply Ensures.seq (calm.printPage bitmap height density)
  · exact fun _ _ _ returned => Ensures.pure returned
  · rintro exc w past ⟨calm, interrupts⟩
    apply Ensures.seq (calm.recover registered (Set.mem_singleton p) interrupts)
    · exact fun _ _ _ calm => Ensures.pure calm
    · exact fun _ _ _ => id
    · exact fun _ _ _ => trivial
  · exact fun _ _ => id

end Calm

section Pages

variable {env : Env} {p : PrinterId} {w : World} {past : List TraceEvent} {page : PageBuffer}
  {image : Image}

/-- Every print call so far was made with this image. -/
def Prints (image : Image) (past : List TraceEvent) : Prop :=
  ∀ call, .printCalled call ∈ past →
    imageToBitmap image = .ok call.bitmap ∧ call.height = image.height

theorem Prints.concat {event : TraceEvent} (prints : Prints image past)
    (here : ∀ call, event = .printCalled call →
      imageToBitmap image = .ok call.bitmap ∧ call.height = image.height) :
    Prints image (past ++ [event]) := by
  intro call member
  rcases List.mem_append.mp member with earlier | now
  · exact prints call earlier
  · exact here call (List.mem_singleton.mp now).symm

variable {rely : TraceEvent → Prop}

end Pages

theorem strip_usable : strip.Usable := ⟨strip_fits, by decide⟩

end Phomemo
