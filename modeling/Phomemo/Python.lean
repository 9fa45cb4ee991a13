import Mathlib.Data.List.Infix

/-!
# Python values

The exceptions the driver raises and catches, with the subclass relations its `except` clauses
use, and the JSON values that travel over the bridge socket.
-/

namespace Phomemo

/-- A byte string. -/
abbrev Bytes : Type := List UInt8

/-- Why a transfer stopped: the reasons `PrintAborted` is raised with. -/
inductive AbortReason where
  | cancelled
  | lidOpened
  deriving DecidableEq, Repr

/-- The text of the reason. -/
def AbortReason.text : AbortReason → String
  | .cancelled => "cancelled"
  | .lidOpened => "lid opened"

/-- Exceptions, each with its message. -/
inductive PyExc where
  | connectionError (message : String)
  | timeoutError (message : String)
  | osError (message : String)
  | runtimeError (message : String)
  | recursionError (message : String)
  | valueError (message : String)
  | typeError (message : String)
  | overflowError (message : String)
  | zeroDivisionError (message : String)
  | attributeError (message : String)
  | keyError (message : String)
  | assertionError (message : String)
  | bleakError (message : String)
  | patternError (message : String)
  | sheetRanOut (message : String)
  | printAborted (reason : AbortReason)
  | commandError (message : String)
  deriving DecidableEq, Repr

namespace PyExc

/-- `str(exc)`. -/
def message : PyExc → String
  | connectionError text => text
  | timeoutError text => text
  | osError text => text
  | runtimeError text => text
  | recursionError text => text
  | valueError text => text
  | typeError text => text
  | overflowError text => text
  | zeroDivisionError text => text
  | attributeError text => text
  | keyError text => text
  | assertionError text => text
  | bleakError text => text
  | patternError text => text
  | sheetRanOut text => text
  | printAborted reason => reason.text
  | commandError text => text

/-- `type(exc).__name__`. -/
def className : PyExc → String
  | connectionError _ => "ConnectionError"
  | timeoutError _ => "TimeoutError"
  | osError _ => "OSError"
  | runtimeError _ => "RuntimeError"
  | recursionError _ => "RecursionError"
  | valueError _ => "ValueError"
  | typeError _ => "TypeError"
  | overflowError _ => "OverflowError"
  | zeroDivisionError _ => "ZeroDivisionError"
  | attributeError _ => "AttributeError"
  | keyError _ => "KeyError"
  | assertionError _ => "AssertionError"
  | bleakError _ => "BleakError"
  | patternError _ => "PatternError"
  | sheetRanOut _ => "SheetRanOut"
  | printAborted _ => "PrintAborted"
  | commandError _ => "CommandError"

/-- `isinstance(exc, ConnectionError)`. -/
def IsConnectionError : PyExc → Prop
  | connectionError _ => True
  | _ => False

/-- `isinstance(exc, OSError)`: `ConnectionError` and `TimeoutError` are subclasses of it. -/
def IsOsError : PyExc → Prop
  | connectionError _ => True
  | timeoutError _ => True
  | osError _ => True
  | _ => False

instance : DecidablePred IsConnectionError := fun exc => by
  cases exc <;> unfold IsConnectionError <;> infer_instance

instance : DecidablePred IsOsError := fun exc => by
  cases exc <;> unfold IsOsError <;> infer_instance

end PyExc

/-- What a computation returned came from what its first part returned. -/
theorem except_bind_eq_ok {ε α β : Type} {first : Except ε α} {next : α → Except ε β}
    {result : β} :
    (first >>= next) = .ok result ↔ ∃ value, first = .ok value ∧ next value = .ok result := by
  cases first with
  | error exc => exact ⟨nofun, nofun⟩
  | ok value =>
      constructor
      · exact fun returned => ⟨value, rfl, returned⟩
      · rintro ⟨_, same, returned⟩
        obtain rfl := Except.ok.inj same
        exact returned

/-- What a returned value was mapped from. -/
theorem except_map_eq_ok {ε α β : Type} {change : α → β} {outcome : Except ε α} {result : β} :
    outcome.map change = .ok result ↔ ∃ value, outcome = .ok value ∧ change value = result := by
  cases outcome with
  | error exc => exact ⟨nofun, nofun⟩
  | ok value => simp [Except.map]

/-- A JSON value.  A number with a fraction or an exponent is kept as its text. -/
inductive Json where
  | null
  | bool (value : Bool)
  | int (value : Int)
  | float (text : String)
  | str (value : String)
  | arr (items : List Json)
  | obj (fields : List (String × Json))

/-- The fields of a JSON object. -/
abbrev Fields : Type := List (String × Json)

/-- Whether a value is JSON `null`. -/
def Json.isNull : Json → Bool
  | .null => true
  | _ => false

/-- A string or `null`. -/
def Json.ofString : Option String → Json
  | none => .null
  | some value => .str value

/-- An integer or `null`. -/
def Json.ofInt : Option Int → Json
  | none => .null
  | some value => .int value

/-- Replace or append the value of a key. -/
def assocSet {α : Type} (key : String) (value : α) : List (String × α) → List (String × α)
  | [] => [(key, value)]
  | (other, old) :: rest =>
      if other = key then (key, value) :: rest else (other, old) :: assocSet key value rest

/-- The value of a key. -/
def assocGet {α : Type} (key : String) : List (String × α) → Option α
  | [] => none
  | (other, value) :: rest => if other = key then some value else assocGet key rest

theorem assocGet_eq_none {α : Type} {key : String} {entries : List (String × α)}
    (absent : key ∉ entries.map Prod.fst) : assocGet key entries = none := by
  induction entries with
  | nil => rfl
  | cons entry entries ih =>
      simp only [List.map_cons, List.mem_cons, not_or] at absent
      simp [assocGet, Ne.symm absent.1, ih absent.2]

theorem assocGet_assocSet_self {α : Type} (key : String) (value : α)
    (entries : List (String × α)) : assocGet key (assocSet key value entries) = some value := by
  induction entries with
  | nil => simp [assocSet, assocGet]
  | cons entry entries ih =>
      by_cases same : entry.1 = key
      · simp [assocSet, assocGet, same]
      · simp [assocSet, assocGet, same, ih]

/-- A field set under another key leaves the key as it is. -/
theorem assocGet_assocSet_of_ne {α : Type} {key other : String} (different : other ≠ key)
    (value : α) (entries : List (String × α)) :
    assocGet key (assocSet other value entries) = assocGet key entries := by
  induction entries with
  | nil => simp [assocSet, assocGet, different]
  | cons entry entries ih =>
      obtain ⟨name, old⟩ := entry
      unfold assocSet
      split
      · next same =>
          subst same
          simp [assocGet, different]
      · simp [assocGet, ih]

/-- `needle in text` for strings. -/
def contains (needle text : String) : Bool :=
  decide (needle.toList <:+: text.toList)

end Phomemo
