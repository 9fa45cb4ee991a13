import Mathlib.Data.List.Basic

/-!
# Memory and the descriptors that fill it

Memory comes in blocks of a fixed size; an access outside its block is no result at all.  A
descriptor hands out what it is given in pieces: a read gets what has come of one piece, as far as
it fits.
-/

namespace Phomemo.Async

variable {β : Type}

/-! ## Memory -/

/-- A block of allocated memory. -/
abbrev Memory (β : Type) : Type := List β

namespace Memory

/-- Read so many cells from a position. -/
def load (start count : Nat) (memory : Memory β) : Option (List β) :=
  if start + count ≤ memory.length then some ((memory.drop start).take count) else none

/-- Write cells from a position. -/
def store (start : Nat) (items : List β) (memory : Memory β) : Option (Memory β) :=
  if start + items.length ≤ memory.length then
    some (memory.take start ++ items ++ memory.drop (start + items.length))
  else none

/-- `memmove` within a block. -/
def move (target source count : Nat) (memory : Memory β) : Option (Memory β) :=
  (memory.load source count).bind fun items => memory.store target items

/-- `realloc`: the cells that are new hold anything. -/
def resize (size : Nat) (junk : Nat → β) (memory : Memory β) : Memory β :=
  memory.take size ++ (List.range (size - memory.length)).map junk

theorem load_eq {start count : Nat} {memory : Memory β} (inside : start + count ≤ memory.length) :
    memory.load start count = some ((memory.drop start).take count) :=
  if_pos inside

/-- What lies before a store stays; the store follows it. -/
theorem exists_store (start : Nat) (items : List β) {memory : Memory β}
    (inside : start + items.length ≤ memory.length) :
    ∃ stored, memory.store start items = some stored ∧ stored.length = memory.length ∧
      stored.take (start + items.length) = memory.take start ++ items := by
  have before : (memory.take start).length = start := by simp; omega
  refine ⟨_, if_pos inside, by simp; omega, ?_⟩
  rw [← List.length_append.trans (congrArg (· + items.length) before)]
  exact List.take_left

/-- Moved to the front, the end of what was held is all that is held. -/
theorem exists_move {count held : Nat} {memory : Memory β} (some_held : count ≤ held)
    (inside : held ≤ memory.length) :
    ∃ moved, memory.move 0 count (held - count) = some moved ∧ moved.length = memory.length ∧
      moved.take (held - count) = (memory.take held).drop count := by
  have loaded : (memory.drop count).take (held - count) = (memory.take held).drop count := by
    rw [List.take_drop, Nat.add_sub_cancel' some_held]
  have long : ((memory.take held).drop count).length = held - count := by simp; omega
  have within : 0 + ((memory.take held).drop count).length ≤ memory.length := by omega
  obtain ⟨moved, stored, same, front⟩ := exists_store 0 ((memory.take held).drop count) within
  refine ⟨moved, ?_, same, by simpa [long] using front⟩
  rw [move, load_eq (by omega), loaded]
  exact stored

@[simp]
theorem resize_length {size : Nat} (junk : Nat → β) {memory : Memory β}
    (grows : memory.length ≤ size) : (memory.resize size junk).length = size := by
  simp [resize]
  omega

theorem resize_take {size held : Nat} (junk : Nat → β) {memory : Memory β}
    (inside : held ≤ memory.length) (grows : memory.length ≤ size) :
    (memory.resize size junk).take held = memory.take held := by
  rw [resize, List.take_of_length_le grows, List.take_append_of_le_length inside]

end Memory

/-! ## Descriptors -/

/-- What one read of a descriptor finds. -/
inductive Delivery (β : Type) where
  | piece (first : β) (rest : List β)
  /-- The read is interrupted by a signal. -/
  | interrupted
  | failed (reason : String)

/-- What a read comes to; nothing is got where the other side has closed. -/
inductive Reading (β : Type) where
  | got (items : List β)
  | interrupted
  | failed (reason : String)

namespace Delivery

/-- Leave what a read has not taken to the next one. -/
def putBack : List β → List (Delivery β) → List (Delivery β)
  | [], later => later
  | first :: rest, later => .piece first rest :: later

/-- `read` of so many items at most. -/
def read (want : Nat) : List (Delivery β) → Reading β × List (Delivery β)
  | [] => (.got [], [])
  | .interrupted :: later => (.interrupted, later)
  | .failed reason :: later => (.failed reason, later)
  | .piece first rest :: later =>
      (.got ((first :: rest).take want), putBack ((first :: rest).drop want) later)

/-- `read` into a block: the result, the block and the rest. -/
def fill (start want : Nat) (memory : Memory β) (deliveries : List (Delivery β)) :
    Option (Reading β × Memory β × List (Delivery β)) :=
  if start + want ≤ memory.length then
    match read want deliveries with
    | (.got items, later) =>
        (memory.store start items).map fun memory => (.got items, memory, later)
    | (reading, later) => some (reading, memory, later)
  else none

/-- The items that come before anything fails. -/
def arriving : List (Delivery β) → List β
  | [] => []
  | .interrupted :: later => arriving later
  | .failed _ :: _ => []
  | .piece first rest :: later => first :: rest ++ arriving later

/-- Bounds the reads that get something before the other side closes. -/
def remaining (deliveries : List (Delivery β)) : Nat :=
  deliveries.length + (arriving deliveries).length

theorem arriving_putBack (items : List β) (later : List (Delivery β)) :
    arriving (putBack items later) = items ++ arriving later := by
  cases items <;> rfl

theorem length_putBack (items : List β) (later : List (Delivery β)) :
    (putBack items later).length ≤ later.length + 1 := by
  cases items <;> simp [putBack]

/-- What a read of at least one item comes to. -/
inductive ReadSplits (want : Nat) (deliveries : List (Delivery β)) :
    Reading β → List (Delivery β) → Prop
  | got {items : List β} {later : List (Delivery β)} (some_got : items ≠ [])
      (fits : items.length ≤ want)
      (split : arriving deliveries = items ++ arriving later)
      (progress : remaining later < remaining deliveries) :
      ReadSplits want deliveries (.got items) later
  | closed {later : List (Delivery β)} (nothing : arriving deliveries = []) :
      ReadSplits want deliveries (.got []) later
  | interrupted {later : List (Delivery β)} (same : arriving deliveries = arriving later)
      (progress : remaining later < remaining deliveries) :
      ReadSplits want deliveries .interrupted later
  | failed {reason : String} {later : List (Delivery β)} (nothing : arriving deliveries = []) :
      ReadSplits want deliveries (.failed reason) later

theorem read_splits {want : Nat} (positive : 0 < want) (deliveries : List (Delivery β)) :
    ReadSplits want deliveries (read want deliveries).1 (read want deliveries).2 := by
  cases deliveries with
  | nil => exact .closed rfl
  | cons delivery later =>
      cases delivery with
      | interrupted => exact .interrupted rfl (by simp [read, remaining, arriving])
      | failed reason => exact .failed rfl
      | piece first rest =>
          have taken : (first :: rest).take want ≠ [] := by
            simp; omega
          have split : arriving (.piece first rest :: later) =
              (first :: rest).take want ++
                arriving (putBack ((first :: rest).drop want) later) := by
            rw [arriving_putBack, ← List.append_assoc, List.take_append_drop]
            rfl
          refine .got taken (List.length_take_le _ _) split ?_
          have shorter := length_putBack ((first :: rest).drop want) later
          have positive_taken := List.length_pos_iff.mpr taken
          have lengths := congrArg List.length split
          rw [List.length_append] at lengths
          simp only [remaining, read, List.length_cons]
          omega

/-- A read into a block leaves what lies before; what it got follows that. -/
theorem exists_fill {start want : Nat} {memory : Memory β} (positive : 0 < want)
    (inside : start + want ≤ memory.length) (deliveries : List (Delivery β)) :
    ∃ reading filled later, fill start want memory deliveries = some (reading, filled, later) ∧
      ReadSplits want deliveries reading later ∧ filled.length = memory.length ∧
      filled.take start = memory.take start ∧
      ∀ items, reading = .got items →
        filled.take (start + items.length) = memory.take start ++ items := by
  have splits := read_splits positive deliveries
  unfold fill
  rw [if_pos inside]
  generalize read want deliveries = outcome at splits
  obtain ⟨reading, later⟩ := outcome
  dsimp only at splits ⊢
  cases reading with
  | interrupted => exact ⟨_, _, _, rfl, splits, rfl, rfl, nofun⟩
  | failed reason => exact ⟨_, _, _, rfl, splits, rfl, rfl, nofun⟩
  | got items =>
      have fits : items.length ≤ want := by
        cases splits with
        | got _ fits _ _ => exact fits
        | closed _ => exact Nat.zero_le _
      have within : start + items.length ≤ memory.length := by omega
      obtain ⟨filled, stored, same, front⟩ := Memory.exists_store start items within
      have before : filled.take start = memory.take start := by
        have cut := congrArg (List.take start) front
        have long : start ≤ (memory.take start).length := by simp; omega
        rw [List.take_take, Nat.min_eq_left (Nat.le_add_right _ _),
          List.take_append_of_le_length long, List.take_take, Nat.min_self] at cut
        exact cut
      refine ⟨.got items, filled, later, by simp [stored], splits, same, before, ?_⟩
      rintro _ ⟨⟩
      exact front

end Delivery

end Phomemo.Async
