import Mathlib.Logic.Function.Iterate
import Mathlib.Data.List.TakeWhile

/-!
# Buffered byte streams

A stream reader collects what has been fed to it until a read takes it out again.  A read that
finds too little waits, and tries again when more has come.  Also here: a function that makes
progress until it rests, rests after boundedly many rounds.
-/

namespace Phomemo.Async

variable {β : Type}

/-- What has been fed and not yet read, and whether the stream has ended. -/
structure StreamReader (β : Type) where
  buffer : List β := []
  eof : Bool := false

/-- What one attempt of a read comes to. -/
inductive Attempt (β : Type) where
  | ready (value : List β) (stream : StreamReader β)
  | waiting
  /-- The stream has ended too early; what was left of it. -/
  | incomplete (part : List β)
  /-- The limit of the stream was overrun. -/
  | overrun

namespace StreamReader

/-- Append data that has arrived. -/
def feed (data : List β) (stream : StreamReader β) : StreamReader β :=
  { stream with buffer := stream.buffer ++ data }

/-- A read that found too little. -/
def lacking (stream : StreamReader β) : Attempt β :=
  if stream.eof then .incomplete stream.buffer else .waiting

/-- Read up to and including a separator. -/
def readuntil [DecidableEq β] (limit : Nat) (separator : β) (stream : StreamReader β) :
    Attempt β :=
  let chunk := stream.buffer.takeWhile fun item => !decide (item = separator)
  if limit < chunk.length then .overrun
  else if separator ∈ stream.buffer then
    .ready (chunk ++ [separator])
      { stream with buffer := stream.buffer.drop (chunk.length + 1) }
  else stream.lacking

/-- Read a number of items. -/
def readexactly (count : Nat) (stream : StreamReader β) : Attempt β :=
  if count ≤ stream.buffer.length then
    .ready (stream.buffer.take count) { stream with buffer := stream.buffer.drop count }
  else stream.lacking

theorem takeWhile_separator [DecidableEq β] {separator : β} {line : List β}
    (absent : separator ∉ line) (rest : List β) :
    (line ++ separator :: rest).takeWhile (fun item => !decide (item = separator)) = line := by
  induction line with
  | nil => simp
  | cons item line ih =>
      simp only [List.mem_cons, not_or] at absent
      simp [Ne.symm absent.1, ih absent.2]

/-- A separator that has arrived ends the read. -/
theorem readuntil_ready [DecidableEq β] {limit : Nat} {separator : β} {stream : StreamReader β}
    {line rest : List β} (split : stream.buffer = line ++ separator :: rest)
    (absent : separator ∉ line) (short : line.length ≤ limit) :
    stream.readuntil limit separator =
      .ready (line ++ [separator]) { stream with buffer := rest } := by
  have chunk := takeWhile_separator absent rest
  have enough : ¬limit < line.length := by omega
  simp [readuntil, split, chunk, enough]

/-- Without one the read waits. -/
theorem readuntil_lacking [DecidableEq β] {limit : Nat} {separator : β}
    {stream : StreamReader β} (absent : separator ∉ stream.buffer)
    (short : stream.buffer.length ≤ limit) :
    stream.readuntil limit separator = stream.lacking := by
  have chunk : stream.buffer.takeWhile (fun item => !decide (item = separator)) =
      stream.buffer := by
    refine List.takeWhile_eq_self_iff.mpr fun item member => ?_
    simpa using ne_of_mem_of_not_mem member absent
  have enough : ¬limit < stream.buffer.length := by omega
  simp only [readuntil, chunk, enough, absent, if_false]

/-- Items that have arrived end the read. -/
theorem readexactly_ready {stream : StreamReader β} {value rest : List β}
    (split : stream.buffer = value ++ rest) :
    stream.readexactly value.length = .ready value { stream with buffer := rest } := by
  simp [readexactly, split]

theorem readexactly_lacking {count : Nat} {stream : StreamReader β}
    (short : stream.buffer.length < count) : stream.readexactly count = stream.lacking := by
  have missing : ¬count ≤ stream.buffer.length := by omega
  simp [readexactly, missing]

end StreamReader

/-- Of a line and what follows, either the separator has not arrived or the line has. -/
theorem prefix_separated {separator : β} {line tail data : List β}
    (absent : separator ∉ line) (arrived : data <+: line ++ separator :: tail) :
    separator ∉ data ∧ data.length ≤ line.length ∨
      ∃ more, data = line ++ separator :: more ∧ more <+: tail := by
  induction line generalizing data with
  | nil =>
      cases data with
      | nil => exact .inl ⟨List.not_mem_nil, Nat.le_refl _⟩
      | cons item more =>
          obtain ⟨rfl, within⟩ := List.cons_prefix_cons.mp arrived
          exact .inr ⟨more, rfl, within⟩
  | cons first line ih =>
      simp only [List.mem_cons, not_or] at absent
      cases data with
      | nil => exact .inl ⟨List.not_mem_nil, Nat.zero_le _⟩
      | cons item data =>
          obtain ⟨rfl, later⟩ := List.cons_prefix_cons.mp arrived
          rcases ih absent.2 later with ⟨missing, short⟩ | ⟨more, rfl, within⟩
          · exact .inl ⟨by simp [absent.1, missing], Nat.succ_le_succ short⟩
          · exact .inr ⟨more, rfl, within⟩

/-- A function that grows a bounded measure unless it rests, rests in the end. -/
theorem iterate_rests {σ : Type} {f : σ → σ} {measure : σ → Nat} {bound : Nat}
    {inv rested : σ → Prop} (bounded : ∀ state, inv state → measure state ≤ bound)
    (grows : ∀ state, inv state → inv (f state) ∧
      (measure state < measure (f state) ∨ f state = state ∧ rested state))
    {start : σ} (initial : inv start) {rounds : Nat} (enough : bound < rounds) :
    inv (f^[rounds] start) ∧ rested (f^[rounds] start) := by
  have progress : ∀ rounds, inv (f^[rounds] start) ∧
      (rested (f^[rounds] start) ∧ f (f^[rounds] start) = f^[rounds] start ∨
        rounds ≤ measure (f^[rounds] start)) := by
    intro rounds
    induction rounds with
    | zero => exact ⟨initial, .inr (Nat.zero_le _)⟩
    | succ rounds ih =>
        obtain ⟨held, ih⟩ := ih
        rw [Function.iterate_succ_apply']
        obtain ⟨kept, grown | ⟨same, rest⟩⟩ := grows _ held
        · refine ⟨kept, ?_⟩
          rcases ih with ⟨-, same⟩ | reached
          · rw [same] at grown
            omega
          · exact .inr (by omega)
        · rw [same]
          exact ⟨held, .inl ⟨rest, same⟩⟩
  obtain ⟨held, ⟨rest, -⟩ | reached⟩ := progress rounds
  · exact ⟨held, rest⟩
  · have := bounded _ held
    omega

end Phomemo.Async
