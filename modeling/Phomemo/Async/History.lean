import Mathlib.Data.List.Induction

/-!
# Properties of every event of a history

An event is judged by what came before it.  A property of all events of a history is kept by
one more event that has it.
-/

namespace Phomemo.Async

variable {τ : Type} {holds : List τ → τ → Prop}

/-- What stands in a list with one more item. -/
theorem getElem?_concat {α : Type} {items : List α} {last item : α} {i : Nat} :
    (items ++ [last])[i]? = some item ↔
      items[i]? = some item ∨ i = items.length ∧ item = last := by
  rcases Nat.lt_trichotomy i items.length with inside | rfl | outside
  · rw [List.getElem?_append_left inside]
    simp [Nat.ne_of_lt inside]
  · simp [eq_comm]
  · have beyond : (items ++ [last]).length ≤ i := by
      rw [List.length_append]
      exact outside
    rw [List.getElem?_eq_none beyond, List.getElem?_eq_none (Nat.le_of_lt outside)]
    simp [Nat.ne_of_gt outside]

/-- Every event of the history has the property, given the events before it. -/
def Throughout (holds : List τ → τ → Prop) (past : List τ) : Prop :=
  ∀ before event after, past = before ++ event :: after → holds before event

theorem throughout_nil : Throughout holds [] := by
  intro before event after split
  simp at split

theorem Throughout.concat {past : List τ} {event : τ} (throughout : Throughout holds past)
    (here : holds past event) : Throughout holds (past ++ [event]) := by
  intro before other after split
  rcases List.eq_nil_or_concat after with rfl | ⟨rest, last, rfl⟩
  · obtain ⟨rfl, same⟩ := List.append_inj' split rfl
    rw [← (List.cons.inj same).1]
    exact here
  · rw [List.concat_eq_append, ← List.cons_append, ← List.append_assoc] at split
    obtain ⟨same, -⟩ := List.append_inj' split rfl
    exact throughout before other rest same

/-- Later events that have the property wherever they come. -/
theorem Throughout.append {past later : List τ} (throughout : Throughout holds past)
    (always : ∀ event ∈ later, ∀ before, holds before event) :
    Throughout holds (past ++ later) := by
  induction later generalizing past with
  | nil => rwa [List.append_nil]
  | cons event later ih =>
      obtain ⟨first, others⟩ := List.forall_mem_cons.mp always
      rw [← List.concat_append, List.concat_eq_append]
      exact ih (throughout.concat (first past)) others

/-- An earlier history had the property. -/
theorem Throughout.of_append {past later : List τ} (throughout : Throughout holds (past ++ later)) :
    Throughout holds past := by
  rintro before event after rfl
  apply throughout before event (after ++ later)
  simp

theorem Throughout.of_concat {past : List τ} {event : τ}
    (throughout : Throughout holds (past ++ [event])) : Throughout holds past :=
  throughout.of_append

theorem Throughout.last {past : List τ} {event : τ}
    (throughout : Throughout holds (past ++ [event])) : holds past event :=
  throughout past event [] rfl

/-- Properties that agree at every event hold throughout the same histories. -/
theorem Throughout.congr {other : List τ → τ → Prop} {past : List τ}
    (agree : Throughout (fun before event => holds before event ↔ other before event) past) :
    Throughout holds past ↔ Throughout other past :=
  ⟨fun throughout before event after split =>
      (agree before event after split).mp (throughout before event after split),
    fun throughout before event after split =>
      (agree before event after split).mpr (throughout before event after split)⟩

/-- The events are checked one after the other. -/
theorem throughout_iff {past : List τ} :
    Throughout holds past ↔ ∀ i : Fin past.length, holds (past.take i) past[i] := by
  constructor
  · intro throughout i
    apply throughout (past.take i) past[i] (past.drop (i + 1))
    simp
  · rintro each before event after rfl
    have here := each ⟨before.length, by simp⟩
    simpa using here

instance [∀ past, DecidablePred (holds past)] (past : List τ) : Decidable (Throughout holds past) :=
  decidable_of_iff _ throughout_iff.symm

/-- A history split at two of its events, found by their places. -/
theorem exists_split_at_two {α : Type} {past : List α} {first second : α → Bool} (i j : Nat)
    (here : past[i]?.any first = true) (there : (past.drop (i + 1))[j]?.any second = true) :
    ∃ a b, first a = true ∧ second b = true ∧
      past = past.take i ++ a :: (past.drop (i + 1)).take j ++
        b :: (past.drop (i + 1)).drop (j + 1) := by
  obtain ⟨a, atFirst, isFirst⟩ := Option.any_eq_true _ _ |>.mp here
  obtain ⟨b, atSecond, isSecond⟩ := Option.any_eq_true _ _ |>.mp there
  refine ⟨a, b, isFirst, isSecond, ?_⟩
  obtain ⟨inside, rfl⟩ := List.getElem?_eq_some_iff.mp atFirst
  obtain ⟨inside', rfl⟩ := List.getElem?_eq_some_iff.mp atSecond
  rw [List.append_assoc, List.cons_append, List.getElem_cons_drop, List.take_append_drop,
    List.getElem_cons_drop, List.take_append_drop]

end Phomemo.Async
