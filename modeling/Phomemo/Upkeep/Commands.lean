import Phomemo.Upkeep.Waits

/-!
# Invariants of whole commands

From the waits to the command handlers, the commands with their replies, and runs of the bridge.
-/

namespace Phomemo

open Async Coroutine

/-- What a command records when it is accepted. -/
def commandStart (w : World) (command : Command) : TraceEvent :=
  .commandBegan command.name (0 < w.bridge.holdScheduled)

/-- The state a handler starts in. -/
def World.accept (w : World) (command : Command) : World :=
  w.setSession fun session => { session with pendingCmd := some command.name, abort := false }

/-- The end of a command: the reply is written and the pending slot cleared. -/
def answer (command : Command) (reply : Reply) : Py Reply := do
  emit (.replied command.name reply)
  pause
  modify fun w => w.setSession fun session => { session with pendingCmd := none }
  return reply

/-- A command is its handler, whose outcome becomes the reply, and the end. -/
theorem ensures_runCommand {rely : TraceEvent → Prop} {env : Env} {command : Command}
    {post : Post PyExc World TraceEvent Reply} {w : World} {past : List TraceEvent}
    (handled : rely (commandStart w command) → Ensures rely (Session.handler env command)
      ⟨fun result => Ensures rely (answer command (.ok result)) post,
        fun error => Ensures rely (answer command (.error (Session.errorText error))) post,
        post.waiting⟩ (w.accept command) (past ++ [commandStart w command])) :
    Ensures rely (Session.runCommand env command) post w past := by
  apply Ensures.read_bind
  apply Ensures.emit_bind
  intro relied
  apply Ensures.modify_bind
  apply Ensures.bind
  apply Ensures.handle
  apply Ensures.seq (handled relied)
  · exact fun _ _ _ answered => Ensures.pure answered
  · exact fun _ _ _ answered => Ensures.pure answered
  · exact fun _ _ => id

/-- What `page_end` asks for: a complete page and a connected printer. -/
structure World.Printable (w : World) (page : PageBuffer) (p : PrinterId) : Prop where
  inProgress : w.session.page = some page
  complete : page.Complete
  held : w.bridge.printer = some p
  linked : w.isConnected p = true

/-- `page_end` is refused where it stands, or prints the page on the connected printer. -/
theorem ensures_cmdPageEnd {rely : TraceEvent → Prop} {env : Env}
    {post : Post PyExc World TraceEvent Result} {w : World} {past : List TraceEvent}
    (refused : (∀ page p, ¬w.Printable page p) → ∀ text, post.raised (.commandError text) w past)
    (printed : ∀ page p, w.Printable page p →
      Ensures rely (Session.printComplete env p page)
        ⟨fun result w past => post.returned result
            (w.setSession fun session => { session with page := none }) past,
          fun error w past => post.raised error
            (w.setSession fun session => { session with page := none }) past,
          post.waiting⟩
        (w.setSession fun session => { session with usedLink := true }) past) :
    Ensures rely (Session.cmdPageEnd env) post w past := by
  apply Ensures.read_bind
  cases inProgress : w.session.page with
  | none =>
      apply Ensures.raise (refused _ _)
      exact fun page p printable => nomatch inProgress.symm.trans printable.inProgress
  | some page =>
      apply Ensures.ite
      · intro complete
        apply Ensures.bind
        apply Ensures.read_bind
        cases held : w.bridge.printer with
        | none =>
            apply Ensures.raise (refused _ _)
            exact fun page p printable => nomatch held.symm.trans printable.held
        | some p =>
            apply Ensures.ite
            · intro linked
              apply Ensures.pure
              apply Ensures.modify_bind
              apply Ensures.andFinally
              apply (printed page p ⟨inProgress, complete, held, linked⟩).mono
              · exact fun _ _ _ holds => Ensures.modify holds
              · exact fun _ _ _ holds => Ensures.modify holds
              · exact fun _ _ => id
            · intro unlinked
              apply Ensures.raise (refused _ _)
              intro page q printable
              obtain rfl := Option.some.inj (held.symm.trans printable.held)
              exact unlinked printable.linked
      · intro incomplete
        apply Ensures.raise (refused _ _)
        intro other p printable
        obtain rfl := Option.some.inj (inProgress.symm.trans printable.inProgress)
        exact incomplete printable.complete

/-- The end of a command under an invariant. -/
theorem IdleStable.ensures_answer {rely : TraceEvent → Prop}
    {inv : World → List TraceEvent → Prop} (stable : IdleStable rely inv) {command : Command}
    {reply : Reply} {w : World} {past : List TraceEvent}
    (replied : inv w (past ++ [.replied command.name reply])) :
    Ensures rely (answer command reply)
      ⟨fun given w' past => given = reply ∧ ∃ w, inv w past ∧
          w' = w.setSession fun session => { session with pendingCmd := none },
        fun _ _ _ => False, inv⟩ w past := by
  apply Ensures.emit_bind
  intro _
  apply Upholds.seq stable.pause replied
  · intro _ w past holds
    apply Ensures.modify_bind
    exact Ensures.pure ⟨rfl, w, holds, rfl⟩
  · exact fun _ _ _ _ => False.elim
  · exact fun _ _ => id

end Phomemo
