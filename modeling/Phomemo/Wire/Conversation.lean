import Phomemo.PageEnd.Calm
import Phomemo.PageEnd.Head
import Phomemo.Upkeep.Fleet
import Phomemo.Wire.Input

/-!
# Conversations with a printer

What a printer has read since it was dialed: commands sent on their own, and the pages it was asked
to print, each of them whole, stopped, or not begun.
-/

namespace Phomemo

open Async

/-! ## Lines -/

/-- What was put on the line to a printer since it was dialed: the pages it was to print and the
bytes. -/
structure PrinterLine where
  calls : List PrintCall := []
  bytes : Bytes := []

/-- What an event puts on the line to a printer. -/
def PrinterLine.next (p : PrinterId) (line : PrinterLine) : TraceEvent → PrinterLine
  | .dialed q _ _ => if q = p then {} else line
  | .wrote q _ data => if q = p then { line with bytes := line.bytes ++ data } else line
  | .printCalled call =>
      if call.printer = p ∧ call.linked = true then { line with calls := line.calls ++ [call] }
      else line
  | _ => line

/-- The line to a printer. -/
def lineTo (p : PrinterId) (past : List TraceEvent) : PrinterLine :=
  past.foldl (PrinterLine.next p) {}

theorem lineTo_concat (p : PrinterId) (past : List TraceEvent) (event : TraceEvent) :
    lineTo p (past ++ [event]) = (lineTo p past).next p event := by
  simp [lineTo]

theorem PrinterLine.next_silent (p : PrinterId) (line : PrinterLine) {event : TraceEvent}
    (silent : event.Silent) : line.next p event = line := by
  cases event <;> first | rfl | cases silent

theorem lineTo_silent (p : PrinterId) (past : List TraceEvent) {event : TraceEvent}
    (silent : event.Silent) : lineTo p (past ++ [event]) = lineTo p past := by
  rw [lineTo_concat, PrinterLine.next_silent p _ silent]

theorem lineTo_append (p : PrinterId) (past : List TraceEvent) {later : List TraceEvent}
    (silent : ∀ event ∈ later, event.Silent) : lineTo p (past ++ later) = lineTo p past := by
  induction later generalizing past with
  | nil => rw [List.append_nil]
  | cons event later ih =>
      obtain ⟨first, others⟩ := List.forall_mem_cons.mp silent
      rw [List.append_cons, ih _ others, lineTo_silent p past first]

theorem lineTo_dialed (p : PrinterId) (past : List TraceEvent) (address : String)
    (overlapped : Bool) : lineTo p (past ++ [.dialed p address overlapped]) = {} := by
  rw [lineTo_concat]
  exact if_pos rfl

theorem lineTo_dialed_other {p q : PrinterId} (other : q ≠ p) (past : List TraceEvent)
    (address : String) (overlapped : Bool) :
    lineTo p (past ++ [.dialed q address overlapped]) = lineTo p past := by
  rw [lineTo_concat]
  exact if_neg other

theorem lineTo_wrote (p : PrinterId) (past : List TraceEvent) (address : String) (data : Bytes) :
    lineTo p (past ++ [.wrote p address data]) =
      { lineTo p past with bytes := (lineTo p past).bytes ++ data } := by
  rw [lineTo_concat]
  exact if_pos rfl

theorem lineTo_wrote_other {p q : PrinterId} (other : q ≠ p) (past : List TraceEvent)
    (address : String) (data : Bytes) :
    lineTo p (past ++ [.wrote q address data]) = lineTo p past := by
  rw [lineTo_concat]
  exact if_neg other

theorem lineTo_printCalled (past : List TraceEvent) {call : PrintCall}
    (linked : call.linked = true) :
    lineTo call.printer (past ++ [.printCalled call]) =
      { lineTo call.printer past with calls := (lineTo call.printer past).calls ++ [call] } := by
  rw [lineTo_concat]
  exact if_pos ⟨rfl, linked⟩

theorem lineTo_printCalled_other {p : PrinterId} {call : PrintCall}
    (other : ¬(call.printer = p ∧ call.linked = true)) (past : List TraceEvent) :
    lineTo p (past ++ [.printCalled call]) = lineTo p past := by
  rw [lineTo_concat]
  exact if_neg other

/-! ## Conversations -/

/-- The commands of a whole page. -/
inductive WholePage (call : PrintCall) : List PrinterCommand → Prop where
  | page {profile : PrinterProfile} {level : Option Density} {blocks : List Block}
      (width : profile.widthBytes = call.widthBytes)
      (cut : Cut profile call.height call.bitmap blocks) :
      WholePage call (.reset :: densityCommands profile level ++
        blocks.map (Block.command profile.widthBytes.toNat .normal) ++ feedCommands 20)

/-- What the commands of a print call can be: the whole page, a page stopped with the band in
progress completed in white, or nothing. -/
inductive PagePart (call : PrintCall) : List PrinterCommand → Prop where
  | nothing : PagePart call []
  | whole {page : List PrinterCommand} (whole : WholePage call page) : PagePart call page
  | stopped {profile : PrinterProfile} {level : Option Density} {blocks printed : List Block}
      {kept : Nat} (width : profile.widthBytes = call.widthBytes)
      (cut : Cut profile call.height call.bitmap blocks)
      (left : Printed profile.widthBytes.toNat blocks printed kept) :
      PagePart call (.reset :: densityCommands profile level ++
        printed.map (Block.command profile.widthBytes.toNat .normal))

/-- What a printer reads while it is to print these pages: the part of each page, in order, and
between them commands that stand on their own. -/
inductive Conversation : List PrintCall → List PrinterInput → Prop where
  | start : Conversation [] []
  | brief {calls : List PrintCall} {inputs : List PrinterInput} {input : PrinterInput}
      (before : Conversation calls inputs) (brief : input.Brief) :
      Conversation calls (inputs ++ [input])
  | page {calls : List PrintCall} {inputs : List PrinterInput} {call : PrintCall}
      {page : List PrinterCommand} (before : Conversation calls inputs)
      (part : PagePart call page) (legal : ∀ command ∈ page, command.Legal) :
      Conversation (calls ++ [call]) (inputs ++ page.map .command)

theorem Conversation.legal {calls : List PrintCall} {inputs : List PrinterInput}
    (conversation : Conversation calls inputs) : ∀ input ∈ inputs, input.Legal := by
  induction conversation with
  | start => exact fun input member => absurd member List.not_mem_nil
  | brief before brief ih =>
      intro input member
      rcases List.mem_append.mp member with earlier | last
      · exact ih input earlier
      · exact List.mem_singleton.mp last ▸ brief.legal
  | page before part legal ih =>
      intro input member
      rcases List.mem_append.mp member with earlier | last
      · exact ih input earlier
      · obtain ⟨command, present, rfl⟩ := List.mem_map.mp last
        exact legal command present

/-- What is on the line is a conversation, up to here. -/
def PrinterLine.Whole (line : PrinterLine) : Prop :=
  ∃ inputs, Conversation line.calls inputs ∧ line.bytes = inputs.flatMap PrinterInput.bytes

/-- The page called last is being sent: so far these bytes, a first part of what it can be. -/
structure PrinterLine.Sending (line : PrinterLine) (calls : List PrintCall) (call : PrintCall)
    (inputs : List PrinterInput) (sent : Bytes) : Prop where
  calls_eq : line.calls = calls ++ [call]
  before : Conversation calls inputs
  bytes_eq : line.bytes = inputs.flatMap PrinterInput.bytes ++ sent

/-- The page called last is being sent. -/
def PrinterLine.OnPage (line : PrinterLine) : Prop :=
  ∃ calls call inputs sent page, line.Sending calls call inputs sent ∧ PagePart call page ∧
    sent <+: page.flatMap PrinterCommand.bytes

/-- A printer reads a whole conversation as its commands. -/
theorem PrinterLine.Whole.parse {line : PrinterLine} (whole : line.Whole) :
    ∃ inputs, PrinterInput.parse line.bytes = some inputs ∧ Conversation line.calls inputs := by
  obtain ⟨inputs, conversation, bytes⟩ := whole
  refine ⟨inputs, ?_, conversation⟩
  rw [bytes]
  exact PrinterInput.parse_flatMap_bytes conversation.legal

theorem PrinterLine.whole_nil : PrinterLine.Whole {} := ⟨[], .start, rfl⟩

theorem PrinterLine.Whole.brief {line : PrinterLine} (whole : line.Whole) {data : Bytes}
    (commanded : Commanded data) :
    ({ line with bytes := line.bytes ++ data } : PrinterLine).Whole := by
  obtain ⟨inputs, conversation, bytes⟩ := whole
  obtain ⟨input, brief, rfl⟩ := commanded.brief
  refine ⟨inputs ++ [input], conversation.brief brief, ?_⟩
  rw [List.flatMap_append, ← bytes]
  simp

/-- A page that is called has not begun. -/
theorem PrinterLine.Whole.called {line : PrinterLine} (whole : line.Whole) (call : PrintCall) :
    ({ line with calls := line.calls ++ [call] } : PrinterLine).Whole := by
  obtain ⟨inputs, conversation, bytes⟩ := whole
  refine ⟨inputs ++ ([] : List PrinterCommand).map .command, ?_, ?_⟩
  · exact conversation.page .nothing fun _ member => absurd member List.not_mem_nil
  · simpa using bytes

/-- A page of which all of a part was sent. -/
theorem PrinterLine.Sending.finish {line : PrinterLine} {calls : List PrintCall} {call : PrintCall}
    {inputs : List PrinterInput} {page : List PrinterCommand}
    (sending : line.Sending calls call inputs (page.flatMap PrinterCommand.bytes))
    (part : PagePart call page) (legal : ∀ command ∈ page, command.Legal) : line.Whole := by
  refine ⟨inputs ++ page.map .command, ?_, ?_⟩
  · rw [sending.calls_eq]
    exact sending.before.page part legal
  · rw [sending.bytes_eq, List.flatMap_append, PrinterInput.flatMap_command_bytes]

/-- All of the page called last was read, and after it commands that stand on their own. -/
def PrinterLine.Delivers (line : PrinterLine) (call : PrintCall) : Prop :=
  ∃ calls before page later, line.calls = calls ++ [call] ∧ Conversation calls before ∧
    WholePage call page ∧ (∀ command ∈ page, command.Legal) ∧
    (∀ input ∈ later, PrinterInput.Brief input) ∧
    line.bytes = (before ++ page.map PrinterInput.command ++ later).flatMap PrinterInput.bytes

theorem PrinterLine.Sending.delivers {line : PrinterLine} {calls : List PrintCall}
    {call : PrintCall} {inputs : List PrinterInput} {page : List PrinterCommand}
    (sending : line.Sending calls call inputs (page.flatMap PrinterCommand.bytes))
    (whole : WholePage call page) (legal : ∀ command ∈ page, command.Legal) :
    line.Delivers call := by
  refine ⟨calls, inputs, page, [], sending.calls_eq, sending.before, whole, legal, ?_, ?_⟩
  · exact fun input member => absurd member List.not_mem_nil
  · rw [sending.bytes_eq, List.append_nil, List.flatMap_append,
      PrinterInput.flatMap_command_bytes]

theorem PrinterLine.Delivers.brief {line : PrinterLine} {call : PrintCall}
    (delivers : line.Delivers call) {data : Bytes} (commanded : Commanded data) :
    ({ line with bytes := line.bytes ++ data } : PrinterLine).Delivers call := by
  obtain ⟨calls, before, page, later, called, conversation, whole, legal, briefs, bytes⟩ :=
    delivers
  obtain ⟨input, brief, rfl⟩ := commanded.brief
  refine ⟨calls, before, page, later ++ [input], called, conversation, whole, legal, ?_, ?_⟩
  · intro other member
    rcases List.mem_append.mp member with earlier | last
    · exact briefs other earlier
    · exact List.mem_singleton.mp last ▸ brief
  · rw [← List.append_assoc, List.flatMap_append, ← bytes]
    simp

theorem PrinterLine.Sending.wrote {line : PrinterLine} {calls : List PrintCall} {call : PrintCall}
    {inputs : List PrinterInput} {sent : Bytes} (sending : line.Sending calls call inputs sent)
    (data : Bytes) :
    ({ line with bytes := line.bytes ++ data } : PrinterLine).Sending calls call inputs
      (sent ++ data) where
  calls_eq := sending.calls_eq
  before := sending.before
  bytes_eq := by
    rw [sending.bytes_eq, List.append_assoc]

end Phomemo
