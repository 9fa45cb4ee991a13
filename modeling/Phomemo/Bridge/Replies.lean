import Phomemo.SessionLoop
import Phomemo.PageEnd.Reply

/-!
# One reply for every message

Every message is answered once, by the read loop or by the task of its command, with its own
`cmd`.  The exceptions end the session: a message that cannot be read, and one whose `cmd` is a
list or an object that is looked up, or cannot be written in a refusal.
-/

namespace Phomemo

open Async

/-- Whether a line is the reply to a message. -/
def Line.repliesTo (i : Nat) : Line → Bool
  | .reply message _ => message = i
  | _ => false

/-- Whether a line is an event of the command a message asked for. -/
def Line.reportsOn (i : Nat) : Line → Bool
  | .event message _ => message = i
  | _ => false

@[simp]
theorem Line.repliesTo_reply (i message : Nat) (fields : List (String × Json)) :
    (reply message fields).repliesTo i = decide (message = i) := rfl

/-- A message that ends the session: reading it raises, or its `cmd` is a list or an object, and
is looked up or too deep to be written. -/
def Receipt.Crashes (receipt : Receipt) : Prop :=
  receipt.failure.isSome = true ∨
    ¬receipt.message.cmd.Hashable ∧ (receipt.busy = false ∨ receipt.tooDeep = true)

instance : DecidablePred Receipt.Crashes := fun receipt => by
  unfold Receipt.Crashes
  infer_instance

/-- Any other message. -/
theorem Receipt.not_crashes_iff {receipt : Receipt} :
    ¬receipt.Crashes ↔ receipt.failure.isNone = true ∧
      (receipt.message.cmd.Hashable ∨ receipt.busy = true ∧ receipt.tooDeep = false) := by
  unfold Crashes
  rw [not_or, not_and_or, not_not, not_or, Bool.not_eq_false, ← Option.not_isSome]
  simp only [Bool.not_eq_true, Bool.not_eq_eq_eq_not, Bool.not_true]

/-- A message whose command was accepted is none of these. -/
theorem Receipt.not_crashes_of_accepted {receipt : Receipt} {name : String}
    (accepted : receipt.failure = none ∧ receipt.busy = false ∧ receipt.message.cmd = .str name) :
    ¬receipt.Crashes := by
  refine Receipt.not_crashes_iff.mpr ⟨Option.isNone_iff_eq_none.mpr accepted.1, .inl ?_⟩
  rw [accepted.2.2]
  trivial

/-- An event comes before the reply to its command. -/
def Line.Before (earlier later : Line) : Prop :=
  ∀ i, earlier.repliesTo i = true → later.reportsOn i = false

namespace SessionLoop

/-- The number of replies to a message. -/
def answers (s : SessionLoop) (i : Nat) : Nat := s.out.countP (Line.repliesTo i)

/-- The command a message asked for still runs. -/
def Awaits (s : SessionLoop) (i : Nat) : Prop :=
  ∃ task, s.pending = some task ∧ task.message = i ∧ task.phase = .running

/-- What was read and written fits together, where the replies to some messages are due. -/
structure Kept (s : SessionLoop) (due : Nat → Prop) : Prop where
  unanswered : ∀ i, due i → i < s.received.length ∧ s.answers i = 0
  once : ∀ i receipt, s.received[i]? = some receipt → ¬due i →
    s.answers i = if receipt.Crashes then 0 else 1
  named : ∀ i fields, .reply i fields ∈ s.out → ∃ receipt, s.received[i]? = some receipt ∧
    assocGet "cmd" fields = some receipt.message.cmd
  refused : ∀ i fields receipt, .reply i fields ∈ s.out → s.received[i]? = some receipt →
    receipt.busy = true → receipt.message.isAbort = false →
    fields = refusal receipt.message.cmd "busy"
  ordered : s.out.Pairwise Line.Before

/-- The pending command is the one its message asked for, read while none was pending. -/
def Rightful (s : SessionLoop) : Prop :=
  ∀ task, s.pending = some task → ∃ receipt, s.received[task.message]? = some receipt ∧
    receipt.failure = none ∧ receipt.busy = false ∧
      receipt.message.cmd = .str task.name.text

end SessionLoop

/-! ## Lines and receipts -/

/-- A line that reports on no answered message comes after all lines before it. -/
theorem pairwise_concat {out : List Line} {line : Line} (ordered : out.Pairwise Line.Before)
    (unanswered : ∀ i, line.reportsOn i = true → out.countP (Line.repliesTo i) = 0) :
    (out ++ [line]).Pairwise Line.Before := by
  rw [List.pairwise_append]
  refine ⟨ordered, List.pairwise_singleton _ _, ?_⟩
  intro earlier member later same i replies
  obtain rfl := List.mem_singleton.mp same
  by_contra reports
  have none := List.countP_eq_zero.mp (unanswered i (Bool.eq_true_of_not_eq_false reports))
  exact none earlier member replies

/-- The found command is the one asked for. -/
theorem lookupHandler_name {cmd : Json} {name : CommandName}
    (found : lookupHandler cmd = .ok (some name)) : cmd = .str name.text := by
  cases cmd with
  | str key =>
      have listed := List.find?_some (Option.some.inj (congrArg Except.toOption found))
      simp only [decide_eq_true_eq] at listed
      rw [listed]
  | null => cases found
  | bool value => cases found
  | int value => cases found
  | float text => cases found
  | arr items => cases found
  | obj fields => cases found

theorem lookupHandler_hashable {cmd : Json} :
    cmd.Hashable ↔ ∃ found, lookupHandler cmd = .ok found := by
  cases cmd <;> simp [Json.Hashable, lookupHandler]

theorem Message.hashable_of_isAbort {message : Message} (abort : message.isAbort = true) :
    message.cmd.Hashable := by
  unfold isAbort at abort
  split at abort
  · next same => rw [same]; trivial
  · cases abort

theorem Outcome.reply_cmd (cmd : Json) (outcome : Outcome) :
    assocGet "cmd" (outcome.reply cmd) = some cmd := by
  cases outcome with
  | raised exc => rfl
  | cancelled => rfl
  | returned result =>
      obtain ⟨fields, plain⟩ := result
      unfold reply
      dsimp only
      have start : assocGet "cmd" [("ok", Json.bool true), ("cmd", cmd)] = some cmd := rfl
      generalize [("ok", Json.bool true), ("cmd", cmd)] = entries at start ⊢
      induction fields generalizing entries with
      | nil => exact start
      | cons field fields ih =>
          obtain ⟨other, plain⟩ := (Result.plain_cons field.1 field.2 fields).mp plain
          apply ih plain
          rw [assocGet_assocSet_of_ne other.symm]
          exact start

/-! ## The invariant of a session -/

namespace SessionLoop

variable {env : Env} {s : SessionLoop}

@[simp]
theorem task_eq_some {phase : TaskPhase} {task : PendingTask} :
    s.task phase = some task ↔ s.pending = some task ∧ task.phase = phase := by
  simp [SessionLoop.task]

theorem answers_write (s : SessionLoop) (line : Line) (i : Nat) :
    answers { s with out := s.out ++ [line] } i =
      s.answers i + if line.repliesTo i then 1 else 0 := by
  simp [answers, List.countP_append, List.countP_singleton]

namespace Kept

variable {due : Nat → Prop}

theorem initial : Kept {} (Awaits {}) where
  unanswered := fun _ awaits => nomatch awaits.choose_spec.1
  once := nofun
  named := nofun
  refused := nofun
  ordered := .nil

/-- Which replies are due, and all but what was read and written, is free. -/
theorem same (kept : Kept s due) {after : SessionLoop} {still : Nat → Prop}
    (received : after.received = s.received) (out : after.out = s.out)
    (fewer : ∀ i, still i ↔ due i) : Kept after still := by
  obtain ⟨phase, pending, abort, failed, received', out'⟩ := after
  obtain rfl : received' = s.received := received
  obtain rfl : out' = s.out := out
  obtain rfl : still = due := funext fun i => propext (fewer i)
  exact { kept with }

/-- Only messages that were read are answered. -/
theorem answers_eq_zero (kept : Kept s due) {i : Nat} (unread : s.received.length ≤ i) :
    s.answers i = 0 := by
  apply List.countP_eq_zero.mpr
  intro line member replies
  cases line with
  | reply message fields =>
      obtain rfl : message = i := by simpa using replies
      obtain ⟨receipt, read, -⟩ := kept.named message fields member
      rw [List.getElem?_eq_none unread] at read
      cases read
  | event message event => cases replies
  | complaint text => cases replies

/-- A message is read: its reply is due. -/
theorem read (kept : Kept s due) (receipt : Receipt) :
    Kept { s with received := s.received ++ [receipt] }
      fun i => due i ∨ i = s.received.length where
  unanswered := by
    rintro i (before | rfl)
    · have inside := kept.unanswered i before
      exact ⟨by simpa using inside.1.le.trans_lt (Nat.lt_succ_self _), inside.2⟩
    · exact ⟨by simp, kept.answers_eq_zero le_rfl⟩
  once := by
    intro i other found undue
    simp only [not_or] at undue
    rcases getElem?_concat.mp found with before | ⟨here, -⟩
    · exact kept.once i other before undue.1
    · exact absurd here undue.2
  named := by
    intro i fields member
    obtain ⟨other, before, cmd⟩ := kept.named i fields member
    exact ⟨other, getElem?_concat.mpr (.inl before), cmd⟩
  refused := by
    intro i fields other member found
    rcases getElem?_concat.mp found with before | ⟨rfl, rfl⟩
    · exact kept.refused i fields other member before
    · obtain ⟨older, before, -⟩ := kept.named _ fields member
      rw [List.getElem?_eq_none le_rfl] at before
      cases before
  ordered := kept.ordered

/-- A reply that is due is written. -/
theorem reply (kept : Kept s due) {place : Nat} {receipt : Receipt}
    {fields : List (String × Json)} (isDue : due place)
    (found : s.received[place]? = some receipt) (known : ¬receipt.Crashes)
    (named : assocGet "cmd" fields = some receipt.message.cmd)
    (refused : receipt.busy = true → receipt.message.isAbort = false →
      fields = refusal receipt.message.cmd "busy") :
    Kept { s with out := s.out ++ [.reply place fields] } fun i => due i ∧ i ≠ place where
  unanswered := by
    rintro i ⟨before, other⟩
    have due := kept.unanswered i before
    refine ⟨due.1, ?_⟩
    rw [answers_write, due.2]
    simp [Ne.symm other]
  once := by
    intro i read member undue
    rw [answers_write]
    by_cases same : i = place
    · subst i
      obtain rfl := Option.some.inj (found.symm.trans member)
      rw [(kept.unanswered place isDue).2, if_neg known]
      simp
    · have before := kept.once i read member fun due => undue ⟨due, same⟩
      simpa [Ne.symm same] using before
  named := by
    intro i written member
    rcases List.mem_append.mp member with before | here
    · exact kept.named i written before
    · obtain ⟨rfl, rfl⟩ := Line.reply.inj (List.mem_singleton.mp here)
      exact ⟨receipt, found, named⟩
  refused := by
    intro i written read member atPlace busy notAbort
    rcases List.mem_append.mp member with before | here
    · exact kept.refused i written read before atPlace busy notAbort
    · obtain ⟨rfl, rfl⟩ := Line.reply.inj (List.mem_singleton.mp here)
      obtain rfl := Option.some.inj (found.symm.trans atPlace)
      exact refused busy notAbort
  ordered := pairwise_concat kept.ordered nofun

/-- A line that is no reply: an event of a command whose reply is due, or a complaint. -/
theorem push (kept : Kept s due) {line : Line} (noReply : ∀ i, line.repliesTo i = false)
    (reports : ∀ i, line.reportsOn i = true → due i) :
    Kept { s with out := s.out ++ [line] } due where
  unanswered := by
    intro i isDue
    refine ⟨(kept.unanswered i isDue).1, ?_⟩
    rw [answers_write, noReply]
    exact (kept.unanswered i isDue).2
  once := by
    intro i receipt found undue
    rw [answers_write, noReply]
    exact kept.once i receipt found undue
  named := by
    intro i fields member
    rcases List.mem_append.mp member with before | here
    · exact kept.named i fields before
    · have replies := noReply i
      rw [← List.mem_singleton.mp here] at replies
      simp at replies
  refused := by
    intro i fields receipt member
    rcases List.mem_append.mp member with before | here
    · exact kept.refused i fields receipt before
    · have replies := noReply i
      rw [← List.mem_singleton.mp here] at replies
      simp at replies
  ordered := pairwise_concat kept.ordered fun i report => (kept.unanswered i (reports i report)).2

/-- A message that ends the session is not answered. -/
theorem drop (kept : Kept s due) {place : Nat} {receipt : Receipt} (isDue : due place)
    (found : s.received[place]? = some receipt) (crashes : receipt.Crashes) :
    Kept s fun i => due i ∧ i ≠ place where
  unanswered := fun i both => kept.unanswered i both.1
  once := by
    intro i other member undue
    by_cases same : i = place
    · subst i
      obtain rfl := Option.some.inj (found.symm.trans member)
      rw [if_pos crashes]
      exact (kept.unanswered place isDue).2
    · exact kept.once i other member fun due => undue ⟨due, same⟩
  named := kept.named
  refused := kept.refused
  ordered := kept.ordered

/-- Once the message just read is settled, the replies due are those that were before. -/
theorem settled (kept : Kept s due) (i : Nat) :
    due i ↔ (due i ∨ i = s.received.length) ∧ i ≠ s.received.length := by
  have inside : due i → i ≠ s.received.length := fun isDue => (kept.unanswered i isDue).1.ne
  tauto

end Kept

/-- The message an action brings. -/
def Action.message : Action → Option Message
  | .receive message _ _ => some message
  | _ => none

/-- Where the loop stands after a run. -/
structure Stands (actions : List Action) (s : SessionLoop) : Prop where
  read : s.received.map Receipt.message = actions.filterMap Action.message
  serving : .hangUp ∉ actions → (∀ text, .violate text ∉ actions) →
    (∀ receipt ∈ s.received, ¬receipt.Crashes) → s.phase = .reading ∨ s.phase = .sending false
  closed : s.phase = .closed → ∀ task, s.pending = some task → task.phase = .done

/-- The invariant of a session. -/
structure Sound (actions : List Action) (s : SessionLoop) : Prop where
  kept : s.Kept s.Awaits
  rightful : s.Rightful
  stands : s.Stands actions

theorem Message.cmd_of_isAbort {message : Message} (abort : message.isAbort = true) :
    message.cmd = .str "abort" := by
  unfold Message.isAbort at abort
  split at abort
  · next name same =>
      rw [same, of_decide_eq_true abort]
  · cases abort

/-- The place of a message just read. -/
theorem getElem?_received (receipts : List Receipt) (receipt : Receipt) :
    (receipts ++ [receipt])[receipts.length]? = some receipt := by
  simp

namespace Sound

variable {past : List Action} {next : SessionLoop}

theorem initial : Sound [] {} where
  kept := .initial
  rightful := nofun
  stands := {
    read := rfl
    serving := fun _ _ _ => .inl rfl
    closed := nofun }

/-- The read loop answers a message. -/
theorem answer (sound : Sound past s) (message : Message) (deep : Bool)
    {fields : List (String × Json)} (abort : Bool)
    (known : ¬Receipt.Crashes ⟨message, s.pending.isSome, none, deep⟩)
    (named : assocGet "cmd" fields = some message.cmd)
    (refused : s.pending.isSome = true → message.isAbort = false →
      fields = refusal message.cmd "busy") :
    Sound (past ++ [.receive message none deep])
      (send { s with
        received := s.received ++ [⟨message, s.pending.isSome, none, deep⟩]
        abort := abort } s.received.length fields) := by
  obtain ⟨kept, rightful, stands⟩ := sound
  have read := kept.read ⟨message, s.pending.isSome, none, deep⟩
  have replied := read.reply (.inr rfl) (getElem?_received _ _) known named refused
  exact {
    kept := replied.same rfl rfl kept.settled
    rightful := by
      intro task pending
      obtain ⟨asked, found, cmd⟩ := rightful task pending
      exact ⟨asked, getElem?_concat.mpr (.inl found), cmd⟩
    stands := {
      read := by simp [send, stands.read, Action.message]
      serving := fun _ _ _ => .inr rfl
      closed := nofun } }

/-- A command is accepted. -/
theorem accept (sound : Sound past s) (reading : s.phase = .reading) (idle : s.pending = none)
    {message : Message} (deep : Bool) {name : CommandName}
    (found : lookupHandler message.cmd = .ok (some name)) :
    Sound (past ++ [.receive message none deep])
      { s with
        received := s.received ++ [⟨message, s.pending.isSome, none, deep⟩]
        pending := some { message := s.received.length, name }
        abort := false } := by
  obtain ⟨kept, rightful, stands⟩ := sound
  have read := kept.read ⟨message, s.pending.isSome, none, deep⟩
  have undue : ∀ i, ¬s.Awaits i := by
    rintro i ⟨task, pending, -⟩
    exact nomatch idle.symm.trans pending
  refine ⟨read.same rfl rfl fun i => ?_, ?_, ?_⟩
  · constructor
    · rintro ⟨task, pending, place, -⟩
      obtain rfl := Option.some.inj pending
      exact .inr place.symm
    · rintro (awaits | rfl)
      · exact absurd awaits (undue i)
      · exact ⟨_, rfl, rfl, rfl⟩
  · intro task pending
    obtain rfl := Option.some.inj pending
    refine ⟨_, getElem?_received _ _, rfl, ?_, lookupHandler_name found⟩
    simp [idle]
  · exact {
      read := by simp [stands.read, Action.message]
      serving := fun _ _ _ => .inl reading
      closed := fun closed => nomatch reading.symm.trans closed }

/-- The replies due are the same when the pending task is. -/
theorem awaits_of_pending {after : SessionLoop} (pending : after.pending = s.pending) (i : Nat) :
    after.Awaits i ↔ s.Awaits i := by
  unfold Awaits
  rw [pending]

/-- A message that ends the session is not answered, but perhaps complained of. -/
theorem crash (sound : Sound past s) {message : Message} {failure : Option ReadFailure}
    {deep : Bool} (crashes : Receipt.Crashes ⟨message, s.pending.isSome, failure, deep⟩)
    (pending : next.pending = s.pending)
    (received : next.received = s.received ++ [⟨message, s.pending.isSome, failure, deep⟩])
    (out : next.out = s.out ∨ ∃ text, next.out = s.out ++ [.complaint text])
    (unclosed : next.phase ≠ .closed) :
    Sound (past ++ [.receive message failure deep]) next := by
  obtain ⟨kept, rightful, stands⟩ := sound
  have read := kept.read ⟨message, s.pending.isSome, failure, deep⟩
  have dropped := read.drop (.inr rfl) (getElem?_received _ _) crashes
  have due : ∀ i, next.Awaits i ↔
      (s.Awaits i ∨ i = s.received.length) ∧ i ≠ s.received.length :=
    fun i => (awaits_of_pending pending i).trans (kept.settled i)
  exact {
    kept := by
      rcases out with same | ⟨text, written⟩
      · exact dropped.same received same due
      · have complained := @Kept.push _ _ dropped (.complaint text) (fun _ => rfl) nofun
        exact complained.same received written due
    rightful := by
      intro task held
      obtain ⟨asked, found, cmd⟩ := rightful task (pending ▸ held)
      rw [received]
      exact ⟨asked, getElem?_concat.mpr (.inl found), cmd⟩
    stands := {
      read := by simp [received, stands.read, Action.message]
      serving := by
        intro _ _ uncrashed
        rw [received] at uncrashed
        exact absurd crashes (uncrashed _ (List.mem_append_right _ List.mem_cons_self))
      closed := fun closed => absurd closed unclosed } }

theorem misread (sound : Sound past s) (message : Message) (failure : ReadFailure)
    (deep : Bool) :
    Sound (past ++ [.receive message (some failure) deep])
      (SessionLoop.misread
        { s with received := s.received ++ [⟨message, s.pending.isSome, some failure, deep⟩] }
        failure) := by
  have crashes : Receipt.Crashes ⟨message, s.pending.isSome, some failure, deep⟩ := .inl rfl
  cases failure with
  | protocolError text => exact sound.crash crashes rfl rfl (.inr ⟨text, rfl⟩) nofun
  | incompleteRead part expected => exact sound.crash crashes rfl rfl (.inl rfl) nofun
  | raised exc =>
      unfold SessionLoop.misread
      dsimp only
      split
      · exact sound.crash crashes rfl rfl (.inl rfl) nofun
      · exact sound.crash crashes rfl rfl (.inl rfl) nofun

theorem take (sound : Sound past s) (reading : s.phase = .reading) (message : Message)
    (failure : Option ReadFailure) (deep : Bool) :
    Sound (past ++ [.receive message failure deep]) (s.take env message failure deep) := by
  have hashable : message.cmd.Hashable →
      ¬Receipt.Crashes ⟨message, s.pending.isSome, none, deep⟩ := fun known =>
    Receipt.not_crashes_iff.mpr ⟨rfl, .inl known⟩
  cases failure with
  | some failure => exact sound.misread message failure deep
  | none =>
      unfold SessionLoop.take obey
      dsimp only
      split
      · next abort =>
          apply sound.answer message deep true
          · exact hashable (Message.hashable_of_isAbort abort)
          · rw [Message.cmd_of_isAbort abort]
            rfl
          · intro _ other
            exact nomatch abort.symm.trans other
      · split
        · next busy =>
            split
            · next unwritten =>
                have crashes : Receipt.Crashes ⟨message, s.pending.isSome, none, deep⟩ :=
                  .inr ⟨unwritten.2, .inr unwritten.1⟩
                exact sound.crash crashes rfl rfl (.inl rfl) nofun
            · next written =>
                apply sound.answer message deep s.abort
                · rintro (failed | ⟨unhashable, idle | tooDeep⟩)
                  · cases failed
                  · exact absurd (idle.symm.trans busy) Bool.false_ne_true
                  · exact written ⟨tooDeep, unhashable⟩
                · rfl
                · exact fun _ _ => rfl
        · next idle =>
            have none : s.pending = none := by simpa using idle
            split
            · next fails =>
                have crashes :
                    Receipt.Crashes ⟨message, s.pending.isSome, Option.none, deep⟩ := by
                  refine .inr ⟨fun known => ?_, .inl (by simp [none])⟩
                  obtain ⟨found, same⟩ := lookupHandler_hashable.mp known
                  exact nomatch fails.symm.trans same
                exact sound.crash crashes rfl rfl (.inl rfl) nofun
            · next unknown =>
                apply sound.answer message deep s.abort
                · exact hashable (lookupHandler_hashable.mpr ⟨_, unknown⟩)
                · rfl
                · exact fun busy => absurd busy idle
            · next found => exact sound.accept reading none deep found

/-- A step in which no message is read. -/
theorem turn (sound : Sound past s) {action : Action} (noMessage : action.message = none)
    (received : next.received = s.received) (kept : next.Kept next.Awaits)
    (rightful : next.Rightful)
    (serving : .hangUp ∉ past ++ [action] → (∀ text, .violate text ∉ past ++ [action]) →
      (∀ receipt ∈ s.received, ¬receipt.Crashes) →
        next.phase = .reading ∨ next.phase = .sending false)
    (closed : next.phase = .closed → ∀ task, next.pending = some task → task.phase = .done) :
    Sound (past ++ [action]) next where
  kept := kept
  rightful := rightful
  stands := {
    read := by simp [received, sound.stands.read, noMessage]
    serving := fun open' lawful uncrashed => serving open' lawful (received ▸ uncrashed)
    closed := closed }

theorem rightful_of_pending (sound : Sound past s) {after : SessionLoop}
    (pending : ∀ task, after.pending = some task → ∃ before, s.pending = some before ∧
      task.message = before.message ∧ task.name = before.name)
    (received : after.received = s.received) : after.Rightful := by
  intro task held
  obtain ⟨before, was, message, name⟩ := pending task held
  obtain ⟨asked, found, cmd⟩ := sound.rightful before was
  rw [received, message, name]
  exact ⟨asked, found, cmd⟩

/-- The loop ends. -/
theorem leave (sound : Sound past s) {action : Action} (noMessage : action.message = none)
    (ends : .hangUp ∉ past ++ [action] → (∀ text, .violate text ∉ past ++ [action]) →
      ¬∀ receipt ∈ s.received, ¬receipt.Crashes) : Sound (past ++ [action]) s.leave := by
  refine sound.turn noMessage rfl ?_ ?_ ?_ nofun
  · exact sound.kept.same rfl rfl (awaits_of_pending rfl)
  · exact sound.rightful_of_pending (fun task held => ⟨task, held, rfl, rfl⟩) rfl
  · exact fun open' lawful uncrashed => absurd uncrashed (ends open' lawful)

/-- The running command reports an event. -/
theorem push (sound : Sound past s) (event : PushedEvent) {task : PendingTask}
    (pending : s.pending = some task) (running : task.phase = .running) :
    Kept { s with out := s.out ++ [.event task.message event] } s.Awaits := by
  apply sound.kept.push
  · exact fun _ => rfl
  · intro i reports
    exact ⟨task, pending, of_decide_eq_true reports, running⟩

/-- The running command is answered. -/
theorem finish (sound : Sound past s) (outcome : Outcome) {task : PendingTask}
    (pending : s.pending = some task) (running : task.phase = .running) :
    Kept { s with
      out := s.out ++ [.reply task.message (outcome.reply (.str task.name.text))]
      pending := some { task with phase := .replying } } fun _ => False := by
  obtain ⟨receipt, found, accepted⟩ := sound.rightful task pending
  have named : assocGet "cmd" (outcome.reply (.str task.name.text)) =
      some receipt.message.cmd := by
    rw [Outcome.reply_cmd, accepted.2.2]
  have refused : receipt.busy = true → receipt.message.isAbort = false →
      outcome.reply (.str task.name.text) = refusal receipt.message.cmd "busy" :=
    fun busy => nomatch accepted.2.1.symm.trans busy
  have replied := sound.kept.reply ⟨task, pending, rfl, running⟩ found
    (Receipt.not_crashes_of_accepted accepted) named refused
  refine replied.same rfl rfl fun i => ?_
  constructor
  · exact False.elim
  · rintro ⟨⟨other, held, rfl, -⟩, different⟩
    obtain rfl := Option.some.inj (pending.symm.trans held)
    exact different rfl

/-- No reply is due when the pending task, if any, is past it. -/
theorem not_awaits (past' : ∀ task, s.pending = some task → task.phase ≠ .running) (i : Nat) :
    s.Awaits i ↔ False := by
  constructor
  · rintro ⟨task, held, -, running⟩
    exact past' task held running
  · exact False.elim

theorem step {action : Action} (sound : Sound past s) (stepped : s.step env action = some next) :
    Sound (past ++ [action]) next := by
  have serves : .hangUp ∉ past ++ [action] → (∀ text, .violate text ∉ past ++ [action]) →
      (∀ receipt ∈ s.received, ¬receipt.Crashes) →
        s.phase = .reading ∨ s.phase = .sending false := by
    intro open' lawful uncrashed
    exact sound.stands.serving (fun member => open' (List.mem_append_left _ member))
      (fun text member => lawful text (List.mem_append_left _ member)) uncrashed
  have sameTask : ∀ {after : SessionLoop}, after.pending = s.pending →
      after.received = s.received → after.Rightful := fun pending received =>
    sound.rightful_of_pending (fun task held => ⟨task, pending ▸ held, rfl, rfl⟩) received
  have last : action ∈ past ++ [action] := List.mem_append_right _ List.mem_cons_self
  cases action with
  | receive message failure deep =>
      obtain ⟨reading, same⟩ := Option.ite_none_right_eq_some.mp stepped
      obtain rfl := Option.some.inj same
      exact sound.take reading message failure deep
  | violate text =>
      obtain ⟨reading, same⟩ := Option.ite_none_right_eq_some.mp stepped
      obtain rfl := Option.some.inj same
      refine sound.turn rfl rfl ?_ (sameTask rfl rfl) ?_ nofun
      · have written : Kept { s with out := s.out ++ [.complaint text] } s.Awaits :=
          sound.kept.push (fun _ => rfl) nofun
        exact written.same rfl rfl (awaits_of_pending rfl)
      · exact fun _ lawful => absurd last (lawful text)
  | hangUp =>
      obtain ⟨reading, same⟩ := Option.ite_none_right_eq_some.mp stepped
      obtain rfl := Option.some.inj same
      exact sound.leave rfl fun open' _ => absurd last open'
  | drained =>
      unfold SessionLoop.step at stepped
      dsimp only at stepped
      split at stepped
      · obtain rfl := Option.some.inj stepped
        refine sound.turn rfl rfl ?_ (sameTask rfl rfl) ?_ nofun
        · exact sound.kept.same rfl rfl (awaits_of_pending rfl)
        · exact fun _ _ _ => .inl rfl
      · next final =>
          obtain rfl := Option.some.inj stepped
          apply sound.leave rfl
          intro open' lawful uncrashed
          rcases serves open' lawful uncrashed with reading | sending
          · cases final.symm.trans reading
          · cases final.symm.trans sending
      · cases stepped
  | push event =>
      obtain ⟨task, running, rfl⟩ := Option.map_eq_some_iff.mp stepped
      obtain ⟨pending, phase⟩ := task_eq_some.mp running
      refine sound.turn rfl rfl ?_ (sameTask rfl rfl) serves sound.stands.closed
      exact (sound.push event pending phase).same rfl rfl (awaits_of_pending rfl)
  | finish outcome =>
      obtain ⟨task, running, rfl⟩ := Option.map_eq_some_iff.mp stepped
      obtain ⟨pending, phase⟩ := task_eq_some.mp running
      refine sound.turn rfl rfl ?_ ?_ serves ?_
      · refine (sound.finish outcome pending phase).same rfl rfl (not_awaits ?_)
        intro other held
        rw [← Option.some.inj held]
        nofun
      · refine sound.rightful_of_pending ?_ rfl
        intro other held
        rw [← Option.some.inj held]
        exact ⟨task, pending, rfl, rfl⟩
      · intro closed
        exact nomatch phase.symm.trans (sound.stands.closed closed task pending)
  | replied =>
      obtain ⟨task, replying, rfl⟩ := Option.map_eq_some_iff.mp stepped
      obtain ⟨pending, phase⟩ := task_eq_some.mp replying
      refine sound.turn rfl rfl ?_ ?_ serves ?_
      · refine sound.kept.same rfl rfl fun i => (not_awaits ?_ i).trans (not_awaits ?_ i).symm
        · intro other held
          rw [← Option.some.inj held]
          nofun
        · intro other held
          rw [← Option.some.inj (pending.symm.trans held), phase]
          nofun
      · refine sound.rightful_of_pending ?_ rfl
        intro other held
        rw [← Option.some.inj held]
        exact ⟨task, pending, rfl, rfl⟩
      · intro _ other held
        rw [← Option.some.inj held]
  | cleared =>
      obtain ⟨task, done, rfl⟩ := Option.map_eq_some_iff.mp stepped
      obtain ⟨pending, phase⟩ := task_eq_some.mp done
      refine sound.turn rfl rfl ?_ ?_ serves ?_
      · refine sound.kept.same rfl rfl fun i => (not_awaits ?_ i).trans (not_awaits ?_ i).symm
        · exact fun _ held => nomatch held
        · intro other held
          rw [← Option.some.inj (pending.symm.trans held), phase]
          nofun
      · exact sound.rightful_of_pending nofun rfl
      · exact fun _ => nofun
  | gathered =>
      obtain ⟨⟨ending, free⟩, same⟩ := Option.ite_none_right_eq_some.mp stepped
      obtain rfl := Option.some.inj same
      refine sound.turn rfl rfl ?_ (sameTask rfl rfl) ?_ ?_
      · exact sound.kept.same rfl rfl (awaits_of_pending rfl)
      · intro open' lawful uncrashed
        rcases serves open' lawful uncrashed with reading | sending
        · cases ending.symm.trans reading
        · cases ending.symm.trans sending
      · intro _ task held
        rcases free with none | done
        · have held : s.pending = some task := held
          simp [held] at none
        · obtain ⟨other, same⟩ := Option.isSome_iff_exists.mp done
          obtain ⟨held', phase⟩ := task_eq_some.mp same
          obtain rfl := Option.some.inj (held.symm.trans held')
          exact phase

end Sound

end SessionLoop

/-! ## The results of the handlers -/

theorem plain_liveStatus (env : Env) : Yields Result.Plain (Session.liveStatus env) := by
  refine Yields.bind fun p => Yields.bind fun lid => Yields.bind fun paper => Yields.bind ?_
  refine fun battery => Yields.bind fun w => Yields.bind fun _ => Yields.pure ?_
  simp

theorem plain_cmdStatus (env : Env) (address : Option String) :
    Yields Result.Plain (Session.cmdStatus env address) := by
  refine Yields.bind fun w => Yields.ite (plain_liveStatus env) (Yields.pure ?_)
  generalize (if address.isSome then address else Bridge.linkedAddress w) = target
  cases target <;> cases Bridge.lastSeen w _ <;> simp <;> split <;> simp

theorem plain_cmdOpen (env : Env) (address model : Option String) :
    Yields Result.Plain (Session.cmdOpen env address model) := by
  refine Yields.bind fun _ => Yields.bind fun refused => ?_
  cases refused with
  | some exc => exact Yields.bind fun _ => Yields.pure (by simp)
  | none =>
      refine Yields.bind fun w => ?_
      cases w.bridge.printer with
      | some p => exact Yields.bind fun _ => Yields.pure (by simp)
      | none => exact Yields.raise _

theorem plain_cmdAutoOff (env : Env) (minutes : Json) :
    Yields Result.Plain (Session.cmdAutoOff env minutes) := by
  have reads : ∀ p, Yields Result.Plain (do
      let current ← Printer.queryAutoOff p
      let w ← Coroutine.read
      Bridge.remember (w.printers p).addressText [("auto_off_minutes", Json.ofInt current)]
      return [("auto_off_minutes", Json.ofInt current)] : Py Result) := fun p =>
    Yields.bind fun current => Yields.bind fun w => Yields.bind fun _ => Yields.pure (by simp)
  refine Yields.bind fun p => ?_
  cases minutes with
  | null => exact reads p
  | int minutes => exact Yields.bind fun _ => reads p
  | bool value => exact Yields.bind fun _ => reads p
  | float text => exact Yields.bind fun _ => reads p
  | str value => exact Yields.bind fun _ => reads p
  | arr items => exact Yields.bind fun _ => reads p
  | obj fields => exact Yields.bind fun _ => reads p

theorem plain_cmdLines (count : Except PyExc Int) (payload : Bytes) :
    Yields Result.Plain (Session.cmdLines count payload) := by
  refine Yields.bind fun w => ?_
  cases w.session.page with
  | none => exact Yields.raise _
  | some page =>
      refine Yields.bind fun count => ?_
      dsimp only
      split
      · split
        · exact Yields.bind fun _ => Yields.pure (by simp)
        · exact Yields.raise _
      · exact Yields.raise _

theorem plain_cmdPageEnd (env : Env) : Yields Result.Plain (Session.cmdPageEnd env) := by
  refine Yields.bind fun w => ?_
  cases w.session.page with
  | none => exact Yields.raise _
  | some page =>
      refine Yields.ite (Yields.bind fun p => Yields.bind fun _ => Yields.andFinally ?_)
        (Yields.raise _)
      refine Yields.bind fun prepared => ?_
      obtain ⟨bitmap, height⟩ := prepared
      exact Yields.bind fun _ => Yields.bind fun _ => Yields.pure (by simp)

/-- No handler returns a `cmd` that would replace that of the message. -/
theorem handler_plain (env : Env) (command : Command) :
    Yields Result.Plain (Session.handler env command) := by
  cases command with
  | discover timeout =>
      exact Yields.bind fun _ => Yields.bind fun found => Yields.pure (by simp)
  | «open» address model => exact plain_cmdOpen env address model
  | close => exact Yields.bind fun _ => Yields.bind fun _ => Yields.pure (by simp)
  | disconnect => exact Yields.bind fun _ => Yields.bind fun _ => Yields.pure (by simp)
  | status address => exact plain_cmdStatus env address
  | info =>
      refine Yields.bind fun p => Yields.bind fun info => Yields.bind fun w => Yields.bind ?_
      exact fun _ => Yields.pure (by simp)
  | autoOff minutes => exact plain_cmdAutoOff env minutes
  | identify =>
      refine Yields.bind fun _ => Yields.bind fun _ => Yields.bind fun p => Yields.bind ?_
      refine fun paper => Yields.ite (Yields.bind fun _ => Yields.bind fun _ => ?_) ?_ <;>
        exact Yields.bind fun _ => Yields.pure (by simp)
  | testPage =>
      refine Yields.bind fun _ => Yields.bind fun _ => Yields.bind fun p => Yields.bind ?_
      exact fun _ => Yields.bind fun _ => Yields.bind fun _ => Yields.pure (by simp)
  | waitReady settle => exact Yields.bind fun _ => Yields.bind fun _ => Yields.pure (by simp)
  | pageBegin page => exact Yields.bind fun _ => Yields.bind fun _ => Yields.pure (by simp)
  | lines count payload => exact plain_cmdLines count payload
  | pageEnd => exact plain_cmdPageEnd env
  | eject =>
      refine Yields.bind fun _ => Yields.bind fun p => Yields.bind fun gone => Yields.pure ?_
      simp

/-- The reply to a command, as it is written. -/
def Reply.fields (cmd : Json) : Reply → List (String × Json)
  | .ok result =>
      result.foldl (fun reply field => assocSet field.1 field.2 reply)
        [("ok", .bool true), ("cmd", cmd)]
  | .error text => refusal cmd text

/-- A session writes the reply for an end of the command's handler. -/
def Reply.Written (cmd : Json) (reply : Reply) : Prop :=
  ∃ outcome : Outcome, reply.fields cmd = outcome.reply cmd

/-- What a command of the bridge replies is what a session writes for an end of its handler. -/
theorem runCommand_written (env : Env) (command : Command) :
    Yields (Reply.Written (.str command.name.text)) (Session.runCommand env command) := by
  refine Yields.bind fun w => Yields.bind fun _ => Yields.bind fun _ => ?_
  refine @Yields.seq _ _ _ _ _ _ _ (Reply.Written (.str command.name.text)) _ _
    (Yields.handle ?_ fun exc => ?_) fun reply written => ?_
  · refine (handler_plain env command).seq fun result plain => Yields.pure ?_
    exact ⟨.returned ⟨result, plain⟩, rfl⟩
  · exact Yields.pure ⟨.raised exc, rfl⟩
  · exact Yields.bind fun _ => Yields.bind fun _ => Yields.bind fun _ => Yields.pure written

/-! ## Every message is answered once -/

namespace SessionLoop

/-- The session answers its client, `actions` so far. -/
structure Serves (actions : List Action) (s : SessionLoop) : Prop where
  read : s.received.map Receipt.message = actions.filterMap Action.message
  /-- It serves until the client closes its end. -/
  serving : .hangUp ∉ actions → s.phase = .reading ∨ s.phase = .sending false
  answered : ∀ i < s.received.length, ¬s.Awaits i → s.answers i = 1
  awaited : ∀ i, s.Awaits i → s.answers i = 0
  closed : s.phase = .closed → ∀ i < s.received.length, s.answers i = 1
  named : ∀ i fields, .reply i fields ∈ s.out → ∃ receipt, s.received[i]? = some receipt ∧
    assocGet "cmd" fields = some receipt.message.cmd
  refused : ∀ i fields receipt, .reply i fields ∈ s.out → s.received[i]? = some receipt →
    receipt.busy = true → receipt.message.isAbort = false →
    fields = refusal receipt.message.cmd "busy"
  ordered : s.out.Pairwise Line.Before

end SessionLoop

/-- A session whose client keeps to the wire format serves it, with one reply for every message,
if and only if every message can be read, and a `cmd` that is a list or an object comes only while
a command is pending, not too deep to be written in the refusal. -/
theorem session_serves_iff (env : Env) (actions : List SessionLoop.Action) (s : SessionLoop)
    (ran : SessionLoop.run env actions = some s)
    (lawful : ∀ text, .violate text ∉ actions) :
    s.Serves actions ↔ ∀ receipt ∈ s.received, receipt.failure.isNone = true ∧
      (receipt.message.cmd.Hashable ∨ receipt.busy = true ∧ receipt.tooDeep = false) := by
  have sound : SessionLoop.Sound actions s :=
    runs_induction SessionLoop.Sound.initial (fun _ _ _ _ sound => sound.step) ran
  obtain ⟨kept, rightful, stands⟩ := sound
  constructor
  · intro serves receipt member
    refine Receipt.not_crashes_iff.mp fun crashes => ?_
    obtain ⟨i, inside, rfl⟩ := List.getElem_of_mem member
    have found : s.received[i]? = some s.received[i] := List.getElem?_eq_getElem inside
    have undue : ¬s.Awaits i := by
      rintro ⟨task, pending, rfl, -⟩
      obtain ⟨receipt, read, accepted⟩ := rightful task pending
      rw [Option.some.inj (found.symm.trans read)] at crashes
      exact Receipt.not_crashes_of_accepted accepted crashes
    have none := kept.once i _ found undue
    rw [if_pos crashes, serves.answered i inside undue] at none
    cases none
  · intro known
    have uncrashed : ∀ receipt ∈ s.received, ¬receipt.Crashes :=
      fun receipt member => Receipt.not_crashes_iff.mpr (known receipt member)
    have answered : ∀ i < s.received.length, ¬s.Awaits i → s.answers i = 1 := by
      intro i inside undue
      rw [kept.once i _ (List.getElem?_eq_getElem inside) undue,
        if_neg (uncrashed _ (List.getElem_mem inside))]
    exact {
      read := stands.read
      serving := fun open' => stands.serving open' lawful uncrashed
      answered := answered
      awaited := fun i awaits => (kept.unanswered i awaits).2
      closed := by
        intro closed i inside
        apply answered i inside
        rintro ⟨task, pending, -, running⟩
        exact nomatch running.symm.trans (stands.closed closed task pending)
      named := kept.named
      refused := kept.refused
      ordered := kept.ordered }

/-! ## A command that waits, and messages that are not answered -/

/-- A client asks to wait for paper, asks for more meanwhile, and aborts. -/
def busyClient : List SessionLoop.Action :=
  [.receive { fields := [("cmd", .str "wait_ready")] }, .push (.waiting .noSheet),
    .receive { fields := [("cmd", .arr [])] }, .drained,
    .receive { fields := [("cmd", .str "abort")] }, .drained,
    .finish (.raised (.commandError "cancelled")), .replied, .cleared,
    .receive { fields := [("cmd", .int 3)] }, .drained, .hangUp, .gathered]

/-- The state it leaves. -/
def busyEnd : SessionLoop := (SessionLoop.run stripEnv busyClient).getD {}

theorem session_serves_busy : busyEnd.Serves busyClient := by
  have ran : SessionLoop.run stripEnv busyClient = some busyEnd := rfl
  have lawful : ∀ text, .violate text ∉ busyClient := by simp [busyClient]
  have known : ∀ receipt ∈ busyEnd.received, receipt.failure.isNone = true ∧
      (receipt.message.cmd.Hashable ∨ receipt.busy = true ∧ receipt.tooDeep = false) := by
    decide +kernel
  exact (session_serves_iff stripEnv busyClient busyEnd ran lawful).mpr known

/-- Lists in lists. -/
def nested : Nat → Json
  | 0 => .arr []
  | depth + 1 => .arr [nested depth]

/-- A `status` with a field of thirty thousand lists in one another. -/
def deepStatus : SessionLoop.Action :=
  .receive { fields := [("cmd", .str "status"), ("address", nested 30000)] }
    (some (.raised (.recursionError
      "maximum recursion depth exceeded while decoding a JSON array from a unicode string")))

/-- A `status` with an integer of 4301 digits. -/
def longStatus : SessionLoop.Action :=
  .receive { fields := [("cmd", .str "status"), ("address", .int (10 ^ 4300))] }
    (some (.protocolError ("invalid JSON: Exceeds the limit (4300 digits) for integer string " ++
      "conversion: value has 4301 digits; use sys.set_int_max_str_digits() to increase the limit")))

/-- A list as the `cmd` of the first message ends the session without a reply.  So does a message
that the JSON decoder does not read: one that is nested too deeply is not answered at all, and one
with too long an integer by a line without its `cmd`. -/
theorem session_list_cmd :
    (∃ s, SessionLoop.run stripEnv
        [.receive { fields := [("cmd", .arr [])] }, .gathered] = some s ∧
      s.failed = some (.typeError "unhashable type: 'list'") ∧ s.phase = .closed ∧ s.out = [] ∧
      ¬s.Serves [.receive { fields := [("cmd", .arr [])] }, .gathered]) ∧
    (∃ s, SessionLoop.run stripEnv [deepStatus, .gathered] = some s ∧
      s.phase = .closed ∧ s.out = [] ∧ ¬s.Serves [deepStatus, .gathered]) ∧
    ∃ s text, SessionLoop.run stripEnv [longStatus, .drained, .gathered] = some s ∧
      s.phase = .closed ∧ s.out = [.complaint text] ∧
      ¬s.Serves [longStatus, .drained, .gathered] := by
  refine ⟨⟨_, rfl, rfl, rfl, rfl, fun serves => ?_⟩, ⟨_, rfl, rfl, rfl, fun serves => ?_⟩,
    ⟨_, _, rfl, rfl, rfl, fun serves => ?_⟩⟩
  · exact nomatch serves.closed rfl 0 (by decide)
  · exact nomatch serves.closed rfl 0 Nat.one_pos
  · exact nomatch serves.closed rfl 0 Nat.one_pos

end Phomemo
