import Phomemo.Wire.Conversation

/-!
# Pages on the line

A print job goes out in pieces.  Between them the printer has read a first part of the page; when
the job ends without its link, it has read all of the page, or what a stop made of it, unless the
sheet ran out in the middle of a band.
-/

namespace Phomemo

open Async Coroutine

/-- A print job of a call: its stream is the prologue, the blocks of the bitmap and the feed. -/
structure PageJob (call : PrintCall) (profile : PrinterProfile) (level : Option Density)
    (blocks : List Block) (job : Printer.Job) : Prop where
  width : profile.widthBytes = call.widthBytes
  fits : profile.Fits
  cut : Cut profile call.height call.bitmap blocks
  stream_eq : job.stream = prologueBytes profile level ++
    blocks.flatMap (Block.bytes profile.widthBytes.toNat .normal) ++
    (feedCommands 20).flatMap PrinterCommand.bytes
  bands_eq : job.bands = bandMap (prologueBytes profile level).length blocks

/-- The whole page, as bytes. -/
def WholeBytes (call : PrintCall) (bytes : Bytes) : Prop :=
  ∃ page, WholePage call page ∧ (∀ command ∈ page, command.Legal) ∧
    bytes = page.flatMap PrinterCommand.bytes

/-- A part of the page, as bytes. -/
def PageBytes (call : PrintCall) (bytes : Bytes) : Prop :=
  ∃ page, PagePart call page ∧ (∀ command ∈ page, command.Legal) ∧
    bytes = page.flatMap PrinterCommand.bytes

theorem WholeBytes.part {call : PrintCall} {bytes : Bytes} (whole : WholeBytes call bytes) :
    PageBytes call bytes := by
  obtain ⟨page, whole, legal, rfl⟩ := whole
  exact ⟨page, .whole whole, legal, rfl⟩

namespace PageJob

variable {call : PrintCall} {profile : PrinterProfile} {level : Option Density}
  {blocks : List Block} {job : Printer.Job}

/-- The whole stream is the whole page. -/
theorem whole (paged : PageJob call profile level blocks job) : WholeBytes call job.stream := by
  refine ⟨.reset :: densityCommands profile level ++
    blocks.map (Block.command profile.widthBytes.toNat .normal) ++ feedCommands 20,
    .page paged.width paged.cut, ?_, ?_⟩
  · intro command member
    rcases List.mem_append.mp member with before | feed
    · rcases List.mem_append.mp before with start | raster
      · exact densityCommands_legal profile level command start
      · exact paged.cut.commands_legal (paged.fits.bandsFit _) .normal command raster
    · exact feedCommands_legal 20 command feed
  · rw [paged.stream_eq, prologueBytes, ← Block.flatMap_command_bytes, ← List.flatMap_append,
      ← List.flatMap_append]

/-- A stop between two chunks leaves a part of the page, once the band is completed. -/
theorem stop (paged : PageJob call profile level blocks job) {chunk : Int} {count : Nat}
    (chunk_ge : 20 ≤ chunk)
    (before : count * chunk.toNat < Printer.tailStart job.stream job.bands) :
    PageBytes call (job.stream.take (count * chunk.toNat) ++
      Printer.filler job.stream (count * chunk.toNat) job.bands) := by
  rw [paged.stream_eq, paged.bands_eq] at before ⊢
  rcases stop_bounds chunk_ge before with zero | ⟨started, inside⟩
  · refine ⟨[], .nothing, fun _ member => absurd member List.not_mem_nil, ?_⟩
    rw [zero, filler_nil_of_le blocks (Nat.zero_le _)]
    rfl
  · obtain ⟨printed, left, sent⟩ := stop_among_bands _ .normal (prologueBytes profile level)
      ((feedCommands 20).flatMap PrinterCommand.bytes) blocks paged.cut.sized started inside
    refine ⟨.reset :: densityCommands profile level ++
      printed.map (Block.command profile.widthBytes.toNat .normal),
      .stopped paged.width paged.cut left, ?_, ?_⟩
    · intro command member
      rcases List.mem_append.mp member with start | raster
      · exact densityCommands_legal profile level command start
      · exact left.commands_legal (paged.fits.bandsFit _) paged.cut .normal command raster
    · rw [sent, prologueBytes, ← Block.flatMap_command_bytes, ← List.flatMap_append]

end PageJob

/-! ## Lines in sync -/

/-- Every printer object is usable, and every line that is up is whole. -/
structure InSync (w : World) (past : List TraceEvent) : Prop where
  usable : ∀ p, (w.printers p).Usable
  whole : ∀ p, w.isConnected p = true → (lineTo p past).Whole

/-- Between two awaits at any moment: a line that is up is whole, or a page is on it. -/
def OnTrack (w : World) (past : List TraceEvent) : Prop :=
  ∀ p, w.isConnected p = true → (lineTo p past).Whole ∨ (lineTo p past).OnPage

theorem InSync.waits {w : World} {past : List TraceEvent} (inSync : InSync w past) :
    OnTrack w past :=
  fun p connected => .inl (inSync.whole p connected)

theorem Printer.Usable.lowered {before after : Printer} (usable : before.Usable)
    (profile : after.profile = before.profile)
    (transport : before.transport.Lowered after.transport) : after.Usable where
  profile := profile ▸ usable.profile
  transportProfile := transport.profile ▸ usable.transportProfile
  chunk := by
    rcases transport.chunk with same | ⟨-, reset⟩
    · rw [same]
      exact usable.chunk
    · rw [reset, transport.profile]
      exact usable.transportProfile.chunk

/-- All lines but this one are whole. -/
structure Apart (p : PrinterId) (w : World) (past : List TraceEvent) : Prop where
  usable : ∀ q, (w.printers q).Usable
  others : ∀ q, q ≠ p → w.isConnected q = true → (lineTo q past).Whole

namespace Apart

variable {p : PrinterId} {w : World} {past : List TraceEvent}

theorem stable (p : PrinterId) : LowerStable (Apart p) where
  lowered := fun w after past lowered apart =>
    { usable := fun q => (apart.usable q).lowered (lowered.profile q) (lowered.transport q)
      others := fun q other connected => apart.others q other (lowered.isConnected connected) }
  silent := fun w past event silent apart =>
    { apart with
      others := fun q other connected => by
        rw [lineTo_silent q past silent]
        exact apart.others q other connected }

theorem wrote (apart : Apart p w past) (address : String) (data : Bytes) :
    Apart p w (past ++ [.wrote p address data]) where
  usable := apart.usable
  others := fun q other connected => by
    rw [lineTo_wrote_other other.symm]
    exact apart.others q other connected

/-- Any change of the printer object itself. -/
theorem setPrinter (apart : Apart p w past) {change : Printer → Printer}
    (usable : (change (w.printers p)).Usable) : Apart p (w.setPrinter p change) past where
  usable := fun q => by
    rw [World.setPrinter_printers]
    split
    · exact usable
    · exact apart.usable q
  others := fun q other connected => by
    rw [World.isConnected, World.setPrinter_printers, if_neg other] at connected
    exact apart.others q other connected

/-- Any change of its transport that leaves room for a write. -/
theorem setTransport (apart : Apart p w past) {change : Transport → Transport}
    (profile : (change (w.printers p).transport).profile = (w.printers p).transport.profile)
    (chunk : 20 ≤ (change (w.printers p).transport).effectiveChunkBytes) :
    Apart p (w.setTransport p change) past := by
  have before := apart.usable p
  unfold World.setTransport
  apply apart.setPrinter
  exact ⟨before.profile, profile ▸ before.transportProfile, chunk⟩

theorem dialed (apart : Apart p w past) (address : String) (overlapped : Bool) :
    Apart p w (past ++ [.dialed p address overlapped]) where
  usable := apart.usable
  others := fun q other connected => by
    rw [lineTo_dialed_other other.symm]
    exact apart.others q other connected

/-- The line itself is down, or whole. -/
theorem inSync (apart : Apart p w past)
    (here : w.isConnected p = true → (lineTo p past).Whole) : InSync w past where
  usable := apart.usable
  whole := by
    intro q connected
    by_cases same : q = p
    · subst same
      exact here connected
    · exact apart.others q same connected

theorem down (apart : Apart p w past) (offline : w.isConnected p = false) : InSync w past :=
  apart.inSync fun connected => absurd (offline.symm.trans connected) Bool.false_ne_true

theorem waits (apart : Apart p w past) (onPage : (lineTo p past).OnPage) : OnTrack w past := by
  intro q connected
  by_cases same : q = p
  · subst same
    exact .inr onPage
  · exact .inl (apart.others q same connected)

end Apart

theorem InSync.apart {w : World} {past : List TraceEvent} (inSync : InSync w past)
    (p : PrinterId) : Apart p w past :=
  ⟨inSync.usable, fun q _ => inSync.whole q⟩

namespace InSync

variable {w : World} {past : List TraceEvent}

theorem stable : LowerStable InSync where
  lowered := fun w after past lowered inSync =>
    { usable := fun p => (inSync.usable p).lowered (lowered.profile p) (lowered.transport p)
      whole := fun p connected => inSync.whole p (lowered.isConnected connected) }
  silent := fun w past event silent inSync =>
    { inSync with
      whole := fun p connected => by
        rw [lineTo_silent p past silent]
        exact inSync.whole p connected }

end InSync

/-- A page of this bitmap and height was delivered, and the lines are whole. -/
structure DeliveredPage (p : PrinterId) (bitmap : Bytes) (height : Nat) (w : World)
    (past : List TraceEvent) : Prop extends InSync w past where
  delivers : ∃ call, call.bitmap = bitmap ∧ call.height = height ∧ (lineTo p past).Delivers call

theorem DeliveredPage.stable (p : PrinterId) (bitmap : Bytes) (height : Nat) :
    LowerStable (DeliveredPage p bitmap height) where
  lowered := fun w after past lowered delivered =>
    { delivered with
      toInSync := InSync.stable.lowered w after past lowered delivered.toInSync }
  silent := fun w past event silent delivered =>
    { toInSync := InSync.stable.silent w past event silent delivered.toInSync
      delivers := by
        rw [lineTo_silent p past silent]
        exact delivered.delivers }

/-- What whole lines rest on: the MTU is at least that of Bluetooth, and a page is printed on the
printer the bridge holds, with the bytes its head is wide. -/
def Orderly : TraceEvent → Prop
  | .tick answer => ∀ mtu ∈ answer.mtu, 23 ≤ mtu
  | .printCalled call => call.linked = true → call.OnHeldHead
  | _ => True

instance (call : PrintCall) : Decidable call.OnHeldHead := inferInstanceAs (Decidable (_ ∧ _))

instance : DecidablePred Orderly := fun event => by
  apply @TraceEvent.casesOn (fun event => Decidable (Orderly event)) event <;> intros <;>
    first
    | exact .isTrue trivial
    | exact inferInstanceAs (Decidable (_ → _))
    | exact inferInstanceAs (Decidable (∀ mtu ∈ Tick.mtu ‹Tick›, (23 : Int) ≤ mtu))

/-- A printer that has been dialed has a line with nothing on it. -/
abbrev Dialed (p : PrinterId) (w : World) (past : List TraceEvent) : Prop :=
  InSync w past ∧ (lineTo p past).Whole

/-- Everything but printing keeps the lines whole. -/
theorem inSync_fleet {env : Env} (usable : ∀ profile ∈ env.registry.profiles, profile.Usable) :
    FleetStable env Orderly InSync Dialed where
  toLowerStable := InSync.stable
  wrote := by
    intro p w past client data inSync writable commanded
    apply ((inSync.apart p).wrote client.address data).inSync
    intro connected
    rw [lineTo_wrote]
    exact (inSync.whole p connected).brief commanded
  created := by
    intro w past profile address registered inSync
    have made : Apart w.nextPrinter
        (w.setPrinter w.nextPrinter fun _ => Printer.new profile address) past :=
      (inSync.apart _).setPrinter (Printer.usable_new (usable profile registered) address)
    have offline : (w.setPrinter w.nextPrinter fun _ =>
        Printer.new profile address).isConnected w.nextPrinter = false := by
      rw [World.isConnected, World.setPrinter_printers, if_pos rfl]
      rfl
    exact InSync.stable.aside (made.down offline) rfl
  usedProfile := by
    intro p w past profile registered inSync
    have before := inSync.usable p
    have used : Apart p (w.useProfile p profile) past := (inSync.apart p).setPrinter
      ⟨usable profile registered, usable profile registered, before.chunk⟩
    apply used.inSync
    intro connected
    rw [World.isConnected, World.useProfile, World.setPrinter_printers, if_pos rfl] at connected
    exact inSync.whole p connected
  dials := by
    intro p w past device overlapped inSync
    have given : Apart p (w.setClient p (some ⟨w.nextClient, device.address⟩)) past := by
      unfold World.setClient
      exact (inSync.apart p).setTransport rfl (inSync.usable p).chunk
    have quiet : (lineTo p (past ++ [.dialed p device.address overlapped])).Whole := by
      rw [lineTo_dialed]
      exact PrinterLine.whole_nil
    have dialed := (given.dialed device.address overlapped).inSync fun _ => quiet
    exact ⟨InSync.stable.aside dialed rfl, quiet⟩
  fresh := fun p =>
    { lowered := fun w after past lowered dialed =>
        ⟨InSync.stable.lowered w after past lowered dialed.1, dialed.2⟩
      silent := fun w past event silent dialed =>
        ⟨InSync.stable.silent w past event silent dialed.1, by
          rw [lineTo_silent p past silent]
          exact dialed.2⟩ }
  up := by
    intro p w past dialed
    have linked : Apart p (w.setConnected p true) past := by
      unfold World.setConnected
      exact (dialed.1.apart p).setTransport rfl (dialed.1.usable p).chunk
    exact ⟨linked.inSync fun _ => dialed.2, dialed.2⟩
  negotiated := by
    intro p w past answer mtu relied negotiated above dialed
    have bound : 23 ≤ mtu := relied mtu negotiated
    have agreed : Apart p (w.setChunkBytes p (mtu - 3)) past := by
      unfold World.setChunkBytes
      apply (dialed.1.apart p).setTransport
      · rfl
      · change 20 ≤ mtu - 3
        omega
    exact ⟨agreed.inSync fun _ => dialed.2, dialed.2⟩
  forget := fun _ _ _ => And.left

/-- Commands on their own follow a delivered page. -/
theorem DeliveredPage.wire {env : Env} (fleet : FleetStable env Orderly InSync Dialed)
    (p : PrinterId) (bitmap : Bytes) (height : Nat) :
    WireStable Orderly (DeliveredPage p bitmap height) p where
  toIdleStable := (DeliveredPage.stable p bitmap height).idle
  wrote := by
    intro w past client data delivered writable _ commanded
    refine ⟨fleet.wrote p w past client data delivered.toInSync writable commanded, ?_⟩
    obtain ⟨call, bitmap_eq, height_eq, delivers⟩ := delivered.delivers
    refine ⟨call, bitmap_eq, height_eq, ?_⟩
    rw [lineTo_wrote]
    exact delivers.brief commanded
  lost := by
    intro w past delivered _
    have stable := DeliveredPage.stable p bitmap height
    apply stable.silent _ _ (.writeFailed p) trivial
    exact stable.lowered w _ past (World.lowered_setConnected p) delivered

end Phomemo
