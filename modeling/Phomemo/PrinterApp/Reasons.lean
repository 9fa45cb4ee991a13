import Mathlib.Data.Finset.Basic
import Mathlib.Data.Finset.SDiff
import Phomemo.PrinterApp.ReplyFaults

/-!
# What the printer app shows

The reasons a printer is waiting for someone are bits that the callbacks of a job set and clear,
and so does the poll between jobs.  Together the bits are one display: they show whether a job waits
for the printer, and at most one reason, which is the one told last.
-/

namespace Phomemo

open Binary64

/-! ## The state of a printer -/

/-- `pappl_preason_t`. -/
inductive PrinterReason where
  | other
  | coverOpen
  | mediaEmpty
  | mediaNeeded
  | offline
  /-- A bit that this program never touches. -/
  | further (bit : Nat)
  deriving DecidableEq, Repr

/-- `WAITING_REASONS`. -/
def waitingReasons : Finset PrinterReason :=
  {.mediaNeeded, .mediaEmpty, .coverOpen, .other, .offline}

/-- `others` of `job_event_cb`. -/
def otherReasons : Finset PrinterReason := waitingReasons \ {.mediaNeeded}

/-- `sensed` of `phomemo_status_cb`. -/
def sensedReasons : Finset PrinterReason := {.coverOpen, .mediaEmpty}

/-- What PAPPL shows of a printer and of its job. -/
structure PrinterStatus where
  reasons : Finset PrinterReason
  /-- The message of the job. -/
  message : String := ""
  /-- `PAPPL_JREASON_ERRORS_DETECTED` of the job. -/
  errors : Bool := false
  /-- The level of the battery, shown as a supply. -/
  battery : Option Int := none

namespace PrinterStatus

/-- `papplPrinterSetReasons`. -/
def setReasons (add remove : Finset PrinterReason) (s : PrinterStatus) : PrinterStatus :=
  { s with reasons := s.reasons \ remove ∪ add }

/-- `papplJobSetMessage`. -/
def setMessage (text : String) (s : PrinterStatus) : PrinterStatus := { s with message := text }

/-- The job is marked as failed, with a message. -/
def failed (text : String) (s : PrinterStatus) : PrinterStatus :=
  { s with errors := true, message := text }

/-- A reason takes the place of the others. -/
def showOnly (reason : PrinterReason) (text : String) (s : PrinterStatus) : PrinterStatus :=
  (s.setReasons {reason} (otherReasons \ {reason})).setMessage text

/-- The `waiting` branch of `job_event_cb`. -/
def showWaiting (why : String) (s : PrinterStatus) : PrinterStatus :=
  if cString why = cString "connecting" then s.setMessage "Connecting to the printer."
  else if cString why = cString "printer-off" then
    s.showOnly .offline "Printer off, out of range or in use elsewhere; switch it on."
  else if cString why = cString "adapter-off" then s.showOnly .other "Turn on Bluetooth."
  else if cString why = cString "lid-open" then s.showOnly .coverOpen "Close the lid."
  else if cString why = cString "short-sheet" then
    s.showOnly .mediaEmpty "Sheet too short; insert a longer one."
  else s.showOnly .mediaEmpty "Insert a sheet."

end PrinterStatus

/-- `valueint` of a number; the parser gives no NaN. -/
def valueInt (value : Json) : Option Int :=
  (valueDouble value).map fun number =>
    match number with
    | .finite value => min 2147483647 (max (-2147483648) (truncate value))
    | .infinite negative => if negative then -2147483648 else 2147483647
    | .nan => 0

/-- The reason of a `waiting` event. -/
def waitingEvent (obj : Fields) : Option String :=
  if isString "waiting" (getObjectItem "event" obj) then
    match getObjectItem "reason" obj with
    | some (.str why) => some why
    | _ => none
  else none

/-- The percentage of a `progress` event. -/
def progressEvent (obj : Fields) : Option Int :=
  if isString "progress" (getObjectItem "event" obj) then
    (getObjectItem "percent" obj).bind valueInt
  else none

/-- What `job_event_cb` shows of an event; without one it is the periodic tick. -/
def jobEvent (event : Option Fields) (s : PrinterStatus) : PrinterStatus :=
  match event with
  | none => s
  | some obj =>
      match waitingEvent obj, progressEvent obj with
      | some why, _ => s.showWaiting why
      | none, some percent => s.setMessage s!"Printing {percent}%."
      | none, none => s

theorem jobEvent_waiting {obj : Fields} {why : String} (waits : waitingEvent obj = some why)
    (s : PrinterStatus) : jobEvent (some obj) s = s.showWaiting why := by
  simp only [jobEvent, waits]

theorem jobEvent_quiet {obj : Fields} (quiet : waitingEvent obj = none) (s : PrinterStatus) :
    (jobEvent (some obj) s).reasons = s.reasons := by
  cases progress : progressEvent obj <;> simp only [jobEvent, quiet, progress]
  rfl

/-! ## The poll between jobs -/

/-- The charge of a status reply, else what was last read from that printer. -/
def statusCharge (reply : Fields) : Option Json :=
  match getObjectItem "battery" reply with
  | some charge => some charge
  | none =>
      match getObjectItem "last_seen" reply with
      | some (.obj seen) => getObjectItem "battery" seen
      | _ => none

/-- The reasons that `query_status` reads from a reply. -/
def statusReasons (reply : Fields) : Finset PrinterReason :=
  match getObjectItem "connected" reply with
  | some (.bool true) =>
      if isString "open" (getObjectItem "lid" reply) then {.coverOpen}
      else if isString "absent" (getObjectItem "paper" reply) then {.mediaEmpty}
      else ∅
  | _ => {.other}

/-- `query_status`: the reasons of a reply and the charge in percent, -1 when it is unknown. -/
def queryStatus (reply : Fields) : Finset PrinterReason × Int :=
  (statusReasons reply, ((statusCharge reply).bind valueInt).getD (-1))

/-- `phomemo_status_cb`; a bridge that is missing or busy does not answer. -/
def statusPoll (reply : Option Fields) (s : PrinterStatus) : PrinterStatus :=
  match reply with
  | none => s
  | some reply =>
      let (reasons, battery) := queryStatus reply
      let s := s.setReasons (reasons ∩ sensedReasons) (sensedReasons \ reasons)
      if 0 ≤ battery then { s with battery := some battery } else s

/-! ## Jobs and polls -/

/-- The calls whose events reach `job_event_cb`. -/
inductive WatchedCall where
  | waitReady
  | pageEnd
  deriving DecidableEq, Repr

/-- What happens to a printer of the printer app. -/
inductive ServerStep where
  /-- The bridge cannot be reached for a job or a page. -/
  | unreachable (error : String)
  /-- A call goes out. -/
  | calls (call : WatchedCall)
  /-- The call is told an event, or a second passes. -/
  | told (event : Option Fields)
  /-- The call for this page returns. -/
  | returns (page : Nat) (reply : Except String Unit) (canceled : Bool)
  /-- `page_begin` returns. -/
  | begun (page : Nat) (reply : Except String Unit)
  /-- Rows could not be sent. -/
  | unsent (error : String)
  | polled (reply : Option Fields)

/-- A printer and the call that its job waits for. -/
structure PrintServer where
  status : PrinterStatus
  pending : Option WatchedCall := none

namespace PrintServer

/-- What `phomemo_rstartpage_cb` and `phomemo_rendpage_cb` do when the call returns. -/
def settle (call : WatchedCall) (page : Nat) (reply : Except String Unit) (canceled : Bool)
    (s : PrinterStatus) : PrinterStatus :=
  let s := s.setReasons ∅ waitingReasons
  match call, reply with
  | .waitReady, .ok () => s
  | .waitReady, .error text => if canceled then s else s.failed text
  | .pageEnd, .ok () => s.setMessage s!"Page {page + 1} printed."
  | .pageEnd, .error text => if cString text = cString "cancelled" then s else s.failed text

def step (server : PrintServer) : ServerStep → PrintServer
  | .unreachable error =>
      { server with status := server.status.failed s!"Unable to reach phomemo-bridge: {error}" }
  | .calls .waitReady =>
      { status := (server.status.setReasons {.mediaNeeded} ∅).setMessage "Waiting for the printer."
        pending := some .waitReady }
  | .calls .pageEnd => { server with pending := some .pageEnd }
  | .told event => { server with status := jobEvent event server.status }
  | .returns page reply canceled =>
      match server.pending with
      | none => server
      | some call => { status := settle call page reply canceled server.status, pending := none }
  | .begun page (.ok ()) =>
      { server with status := server.status.setMessage s!"Sending page {page + 1}." }
  | .begun _ (.error text) => { server with status := server.status.failed text }
  | .unsent error => { server with status := server.status.failed error }
  | .polled reply => { server with status := statusPoll reply server.status }

/-- A job waits for one call at a time; only a call is told events, and the poll is answered only
between the calls. -/
def Allows (server : PrintServer) : ServerStep → Prop
  | .told _ => server.pending.isSome
  | .returns _ _ _ => server.pending.isSome
  | .polled (some _) => server.pending = none
  | .polled none => True
  | _ => server.pending = none

/-- The server after some steps. -/
def run (server : PrintServer) (steps : List ServerStep) : PrintServer := steps.foldl step server

/-- Every step is allowed where it happens. -/
def AllowsAll (server : PrintServer) : List ServerStep → Prop
  | [] => True
  | first :: later => server.Allows first ∧ (server.step first).AllowsAll later

end PrintServer

/-! ## The display -/

/-- The reason that a report shows; while connecting, what was shown stays. -/
def reportedReason (why : String) : Option PrinterReason :=
  if cString why = cString "connecting" then none
  else if cString why = cString "printer-off" then some .offline
  else if cString why = cString "adapter-off" then some .other
  else if cString why = cString "lid-open" then some .coverOpen
  else some .mediaEmpty

/-- The reason that the poll shows. -/
def sensedReason (reply : Fields) : Option PrinterReason :=
  match getObjectItem "connected" reply with
  | some (.bool true) =>
      if isString "open" (getObjectItem "lid" reply) then some .coverOpen
      else if isString "absent" (getObjectItem "paper" reply) then some .mediaEmpty
      else none
  | _ => none

/-- A display of two places: whether a job waits for the printer, and the reason told last. -/
structure Display where
  pending : Option WatchedCall
  shown : Option PrinterReason

namespace Display

/-- What `MEDIA_NEEDED` takes of the bits. -/
def needed (display : Display) : Finset PrinterReason :=
  if display.pending = some .waitReady then {.mediaNeeded} else ∅

/-- The bits of a display. -/
def reasons (display : Display) : Finset PrinterReason := display.needed ∪ display.shown.toFinset

/-- What each step does to the display. -/
def step (display : Display) : ServerStep → Display
  | .calls call => { display with pending := some call }
  | .told (some obj) =>
      { display with
        shown := ((waitingEvent obj).bind reportedReason).or display.shown }
  | .returns _ _ _ => if display.pending.isSome then ⟨none, none⟩ else display
  | .polled (some reply) => { display with shown := sensedReason reply }
  | _ => display

def run (display : Display) (steps : List ServerStep) : Display := steps.foldl step display

/-- The reason is one of those that are shown alone; between calls only the poll shows one. -/
structure Sound (display : Display) : Prop where
  alone : ∀ reason ∈ display.shown, reason ∈ otherReasons
  sensed : display.pending = none → ∀ reason ∈ display.shown, reason ∈ sensedReasons

end Display

/-- The bits of a printer show a display, next to bits that are not the program's. -/
structure Agrees (further : Finset PrinterReason) (display : Display) (server : PrintServer) :
    Prop where
  pending : server.pending = display.pending
  reasons : server.status.reasons = further ∪ display.reasons
  sound : display.Sound

section

variable {further : Finset PrinterReason} {display : Display} {server : PrintServer}

theorem reportedReason_mem {why : String} {reason : PrinterReason}
    (reported : reportedReason why = some reason) : reason ∈ otherReasons := by
  unfold reportedReason at reported
  split_ifs at reported <;> obtain rfl := Option.some.inj reported <;> decide

/-- What is added takes the place of what a group of bits showed; the other bits stay. -/
theorem setReasons_slot {keep shown add group : Finset PrinterReason} {s : PrinterStatus}
    (apart : Disjoint keep group) (within : shown ⊆ group)
    (reasons : s.reasons = keep ∪ shown) :
    (s.setReasons add (group \ add)).reasons = keep ∪ add := by
  change s.reasons \ (group \ add) ∪ add = _
  rw [reasons]
  ext bit
  have kept : bit ∈ keep → bit ∉ group := fun member => Finset.disjoint_left.mp apart member
  have slot : bit ∈ shown → bit ∈ group := fun member => within member
  simp only [Finset.mem_union, Finset.mem_sdiff]
  tauto

namespace Display

theorem shown_subset {group : Finset PrinterReason} {shown : Option PrinterReason}
    (each : ∀ reason ∈ shown, reason ∈ group) : shown.toFinset ⊆ group :=
  fun reason shows => each reason (Option.mem_toFinset.mp shows)

theorem needed_apart (display : Display) : Disjoint display.needed otherReasons := by
  unfold needed
  split_ifs
  · decide
  · exact Finset.disjoint_empty_left _

end Display

theorem sensed_others : sensedReasons ⊆ otherReasons := by decide

/-- However a call ends, its reasons end with it. -/
theorem PrintServer.settle_reasons (call : WatchedCall) (page : Nat) (reply : Except String Unit)
    (canceled : Bool) (s : PrinterStatus) :
    (settle call page reply canceled s).reasons = (s.setReasons ∅ waitingReasons).reasons := by
  unfold settle
  cases call <;> cases reply <;> dsimp only
  · split_ifs <;> rfl
  · split_ifs <;> rfl
  · rfl

theorem statusPoll_reasons (reply : Fields) (s : PrinterStatus) :
    (statusPoll (some reply) s).reasons =
      (s.setReasons (statusReasons reply ∩ sensedReasons)
        (sensedReasons \ statusReasons reply)).reasons := by
  by_cases known : 0 ≤ (queryStatus reply).2
  · simp only [statusPoll, if_pos known]
    rfl
  · simp only [statusPoll, if_neg known]
    rfl

theorem statusReasons_sensed (reply : Fields) :
    statusReasons reply ∩ sensedReasons = (sensedReason reply).toFinset := by
  unfold statusReasons sensedReason
  split
  · split_ifs <;> rfl
  · rfl

theorem sensedReason_mem {reply : Fields} {reason : PrinterReason}
    (senses : reason ∈ sensedReason reply) : reason ∈ sensedReasons := by
  rw [← Option.mem_toFinset, ← statusReasons_sensed] at senses
  exact (Finset.mem_inter.mp senses).2

namespace Agrees

/-- A change of texts, levels or marks leaves the display. -/
theorem of_reasons (agrees : Agrees further display server) {status : PrinterStatus}
    (same : status.reasons = server.status.reasons) :
    Agrees further display { server with status } :=
  ⟨agrees.pending, same.trans agrees.reasons, agrees.sound⟩

theorem showOnly (agrees : Agrees further display server)
    (apart : Disjoint further waitingReasons) (reason : PrinterReason) (text : String) :
    (server.status.showOnly reason text).reasons = further ∪ (display.needed ∪ {reason}) := by
  have group : Disjoint (further ∪ display.needed) otherReasons :=
    Finset.disjoint_union_left.mpr
      ⟨apart.mono_right Finset.sdiff_subset, display.needed_apart⟩
  have slot := @setReasons_slot _ _ {reason} _ server.status group
    (Display.shown_subset agrees.sound.alone)
    (agrees.reasons.trans (Finset.union_assoc _ _ _).symm)
  exact slot.trans (Finset.union_assoc _ _ _)

/-- A report is shown. -/
theorem showWaiting (agrees : Agrees further display server)
    (apart : Disjoint further waitingReasons) (why : String) :
    (server.status.showWaiting why).reasons =
      further ∪ (display.needed ∪ ((reportedReason why).or display.shown).toFinset) := by
  unfold PrinterStatus.showWaiting reportedReason
  split_ifs
  · exact agrees.reasons
  · exact agrees.showOnly apart _ _
  · exact agrees.showOnly apart _ _
  · exact agrees.showOnly apart _ _
  · exact agrees.showOnly apart _ _
  · exact agrees.showOnly apart _ _

theorem told (agrees : Agrees further display server)
    (apart : Disjoint further waitingReasons) (pending : server.pending.isSome)
    (event : Option Fields) :
    Agrees further (display.step (.told event)) (server.step (.told event)) := by
  cases event with
  | none => exact agrees.of_reasons rfl
  | some obj =>
      have calling : display.pending ≠ none := by
        rw [← agrees.pending]
        exact Option.isSome_iff_ne_none.mp pending
      cases waits : waitingEvent obj with
      | none =>
          have kept : display.step (.told (some obj)) = display := by
            simp only [Display.step, waits, Option.bind_none, Option.none_or]
          rw [kept]
          exact agrees.of_reasons (jobEvent_quiet waits _)
      | some why =>
          have shows : display.step (.told (some obj)) =
              { display with shown := (reportedReason why).or display.shown } := by
            simp only [Display.step, waits, Option.bind_some]
          rw [shows]
          refine ⟨agrees.pending, ?_, ?_, fun idle => absurd idle calling⟩
          · change (jobEvent (some obj) server.status).reasons = _
            rw [jobEvent_waiting waits]
            exact agrees.showWaiting apart why
          · intro reason shows
            change reason ∈ (reportedReason why).or display.shown at shows
            cases reported : reportedReason why with
            | none =>
                rw [reported, Option.none_or] at shows
                exact agrees.sound.alone reason shows
            | some new =>
                rw [reported, Option.some_or] at shows
                obtain rfl := Option.some.inj shows
                exact reportedReason_mem reported

theorem calls (agrees : Agrees further display server) (idle : server.pending = none)
    (call : WatchedCall) :
    Agrees further (display.step (.calls call)) (server.step (.calls call)) := by
  have unneeded : display.needed = ∅ := by
    rw [Display.needed, ← agrees.pending, idle]
    rfl
  have before : server.status.reasons = further ∪ display.shown.toFinset := by
    rw [agrees.reasons, Display.reasons, unneeded, Finset.empty_union]
  cases call with
  | waitReady =>
      refine ⟨rfl, ?_, agrees.sound.alone, by rintro ⟨⟩⟩
      change server.status.reasons \ ∅ ∪ {.mediaNeeded} = further ∪ ({.mediaNeeded} ∪ _)
      rw [before, Finset.sdiff_empty, Finset.union_assoc, Finset.union_comm _ {_}]
      rfl
  | pageEnd =>
      refine ⟨rfl, ?_, agrees.sound.alone, by rintro ⟨⟩⟩
      change server.status.reasons = further ∪ (∅ ∪ _)
      rw [before, Finset.empty_union]
      rfl

theorem returns (agrees : Agrees further display server)
    (apart : Disjoint further waitingReasons) (page : Nat) (reply : Except String Unit)
    (canceled : Bool) :
    Agrees further (display.step (.returns page reply canceled))
      (server.step (.returns page reply canceled)) := by
  have needed : display.needed ⊆ waitingReasons := by
    unfold Display.needed
    split_ifs <;> decide
  have shown : display.shown.toFinset ⊆ waitingReasons :=
    (Display.shown_subset agrees.sound.alone).trans Finset.sdiff_subset
  have cleared := @setReasons_slot _ _ ∅ _ server.status apart (Finset.union_subset needed shown)
    agrees.reasons
  rw [Finset.sdiff_empty, Finset.union_empty] at cleared
  have same := agrees.pending
  cases pending : server.pending with
  | none =>
      have rests : server.step (.returns page reply canceled) = server := by
        simp only [PrintServer.step, pending]
      have still : display.step (.returns page reply canceled) = display := by
        simp [Display.step, ← same, pending]
      rw [rests, still]
      exact agrees
  | some call =>
      have done : server.step (.returns page reply canceled) =
          ⟨PrintServer.settle call page reply canceled server.status, none⟩ := by
        simp only [PrintServer.step, pending]
      have clear : display.step (.returns page reply canceled) = ⟨none, none⟩ := by
        simp [Display.step, ← same, pending]
      rw [done, clear]
      refine ⟨rfl, ?_, by rintro _ ⟨⟩, by rintro - _ ⟨⟩⟩
      rw [PrintServer.settle_reasons, cleared]
      exact (Finset.union_empty _).symm

/-- The poll shows what it reads in the place of what it showed before. -/
theorem polled (agrees : Agrees further display server)
    (apart : Disjoint further waitingReasons) {reply : Fields} (idle : server.pending = none) :
    Agrees further (display.step (.polled (some reply))) (server.step (.polled (some reply))) := by
  have between : display.pending = none := agrees.pending.symm.trans idle
  have unneeded : display.needed = ∅ := by
    rw [Display.needed, between]
    rfl
  have before : server.status.reasons = further ∪ display.shown.toFinset := by
    rw [agrees.reasons, Display.reasons, unneeded, Finset.empty_union]
  have group : Disjoint further sensedReasons := apart.mono_right (by decide)
  have shows := @setReasons_slot _ _ (statusReasons reply ∩ sensedReasons) _ server.status group
    (Display.shown_subset (agrees.sound.sensed between)) before
  rw [Finset.sdiff_inter_self_right] at shows
  refine ⟨agrees.pending, ?_, ?_, fun _ _ => sensedReason_mem⟩
  · change (statusPoll (some reply) server.status).reasons = further ∪ (display.needed ∪ _)
    rw [statusPoll_reasons, shows, unneeded, Finset.empty_union, statusReasons_sensed]
    rfl
  · intro reason senses
    exact sensed_others (sensedReason_mem senses)

/-- What is allowed does to the bits what it does to the display. -/
theorem step (agrees : Agrees further display server) (apart : Disjoint further waitingReasons)
    {step : ServerStep} (allowed : server.Allows step) :
    Agrees further (display.step step) (server.step step) := by
  cases step with
  | unreachable error => exact agrees.of_reasons rfl
  | calls call => exact agrees.calls allowed call
  | told event => exact agrees.told apart allowed event
  | returns page reply canceled => exact agrees.returns apart page reply canceled
  | begun page reply => cases reply <;> exact agrees.of_reasons rfl
  | unsent error => exact agrees.of_reasons rfl
  | polled reply =>
      cases reply with
      | none => exact agrees
      | some reply => exact agrees.polled apart allowed

theorem run (agrees : Agrees further display server) (apart : Disjoint further waitingReasons)
    {steps : List ServerStep} (allowed : server.AllowsAll steps) :
    Agrees further (display.run steps) (server.run steps) := by
  induction steps generalizing display server with
  | nil => exact agrees
  | cons first later ih => exact ih (agrees.step apart allowed.1) allowed.2

/-- At most one of the reasons told is shown. -/
theorem card_shown (agrees : Agrees further display server)
    (apart : Disjoint further waitingReasons) :
    (server.status.reasons ∩ otherReasons).card ≤ 1 := by
  have within : server.status.reasons ∩ otherReasons ⊆ display.shown.toFinset := by
    intro reason member
    obtain ⟨set, told⟩ := Finset.mem_inter.mp member
    rw [agrees.reasons] at set
    rcases Finset.mem_union.mp set with foreign | own
    · exact absurd (Finset.sdiff_subset told) (Finset.disjoint_left.mp apart foreign)
    · rcases Finset.mem_union.mp own with needed | shows
      · exact absurd told (Finset.disjoint_left.mp display.needed_apart needed)
      · exact shows
  apply (Finset.card_le_card within).trans
  cases display.shown with
  | none => exact Nat.zero_le 1
  | some reason => exact le_rfl

/-- `MEDIA_NEEDED` stands as long as a job waits for the printer. -/
theorem mediaNeeded_iff (agrees : Agrees further display server)
    (apart : Disjoint further waitingReasons) :
    .mediaNeeded ∈ server.status.reasons ↔ server.pending = some .waitReady := by
  have foreign : PrinterReason.mediaNeeded ∉ further :=
    fun member => Finset.disjoint_left.mp apart member (by decide)
  have untold : PrinterReason.mediaNeeded ∉ display.shown.toFinset := by
    intro shows
    have told := Display.shown_subset agrees.sound.alone shows
    revert told
    decide
  rw [agrees.reasons, agrees.pending, Display.reasons, Finset.mem_union, Finset.mem_union]
  simp only [foreign, untold, false_or, or_false]
  unfold Display.needed
  split_ifs with waits
  · simp [waits]
  · simp [waits]

/-- Between the calls only what was sensed is shown. -/
theorem idle_subset (agrees : Agrees further display server) (idle : server.pending = none) :
    server.status.reasons ⊆ further ∪ sensedReasons := by
  have between : display.pending = none := agrees.pending.symm.trans idle
  have unneeded : display.needed = ∅ := by
    rw [Display.needed, between]
    rfl
  rw [agrees.reasons, Display.reasons, unneeded, Finset.empty_union]
  exact Finset.union_subset_union_right (Display.shown_subset (agrees.sound.sensed between))

end Agrees

end

/-- Over every run of jobs and polls the bits of a printer are the display: they show whether a job
waits for the printer and the one reason told last, the bits of others stay as they are, and between
the calls nothing is left but what the last poll sensed. -/
theorem reasons_displayed (server : PrintServer) (further : Finset PrinterReason)
    (shown : Option PrinterReason) (apart : Disjoint further waitingReasons)
    (idle : server.pending = none) (sensed : ∀ reason ∈ shown, reason ∈ sensedReasons)
    (bits : server.status.reasons = further ∪ shown.toFinset) (steps : List ServerStep)
    (allowed : server.AllowsAll steps) :
    (server.run steps).status.reasons =
        further ∪ (Display.run ⟨none, shown⟩ steps).reasons ∧
      ((server.run steps).status.reasons ∩ otherReasons).card ≤ 1 ∧
      (.mediaNeeded ∈ (server.run steps).status.reasons ↔
        (server.run steps).pending = some .waitReady) ∧
      ((server.run steps).pending = none →
        (server.run steps).status.reasons ⊆ further ∪ sensedReasons) := by
  have start : Agrees further ⟨none, shown⟩ server := by
    refine ⟨idle, ?_, fun reason shows => sensed_others (sensed reason shows), fun _ => sensed⟩
    exact bits.trans (congrArg (further ∪ ·) (Finset.empty_union _).symm)
  have agrees := start.run apart allowed
  exact ⟨agrees.reasons, agrees.card_shown apart, agrees.mediaNeeded_iff apart,
    agrees.idle_subset⟩

/-- A lid is open, a job starts, the lid is closed and a sheet is inserted. -/
def coverThenSheet : List ServerStep :=
  [.polled (some [("connected", .bool true), ("lid", .str "open")]), .calls .waitReady,
    .told (some (eventFields "waiting" [("reason", .str "lid-open")])), .polled none,
    .told (some (eventFields "waiting" [("reason", .str "no-sheet")])), .told none]

theorem reasons_displayed_coverThenSheet :
    ((PrintServer.mk ⟨{.further 4}, "", false, none⟩ none).run coverThenSheet).status.reasons =
      {.further 4} ∪ ({.mediaNeeded} ∪ {.mediaEmpty}) := by
  have displayed := (reasons_displayed (.mk ⟨{.further 4}, "", false, none⟩ none) {.further 4} none
    (by decide) rfl (by rintro _ ⟨⟩) rfl coverThenSheet
    ⟨rfl, rfl, rfl, trivial, rfl, rfl, trivial⟩).1
  exact displayed

end Phomemo
