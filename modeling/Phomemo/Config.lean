import Phomemo.Manifest
import Phomemo.Printer

/-!
# The configuration of the bridge

`load_config` layers TOML files and an environment variable.  What a file may hold that is of no
use is logged and skipped; what Python cannot compare, convert or print raises.
-/

namespace Phomemo

open Binary64

/-! ## Layers -/

/-- What the last accepted entry of a key is read as. -/
def lastAccepted {α β : Type} (accept : String → α → Option β) (key : String) :
    List (String × α) → Option β
  | [] => none
  | (name, value) :: entries =>
      (lastAccepted accept key entries).or (if name = key then accept name value else none)

/-- `merged.update(values)`. -/
def assocUpdate {β : Type} (merged values : List (String × β)) : List (String × β) :=
  values.foldl (fun merged entry => assocSet entry.1 entry.2 merged) merged

section Layers

variable {α β : Type} {accept : String → α → Option β} {key : String}

theorem lastAccepted_append (first second : List (String × α)) :
    lastAccepted accept key (first ++ second) =
      (lastAccepted accept key second).or (lastAccepted accept key first) := by
  induction first with
  | nil => simp [lastAccepted]
  | cons entry first ih => simp [lastAccepted, ih, Option.or_assoc]

theorem lastAccepted_eq_none {entries : List (String × α)} :
    lastAccepted accept key entries = none ↔
      ∀ value, (key, value) ∈ entries → accept key value = none := by
  induction entries with
  | nil => simp [lastAccepted]
  | cons entry entries ih =>
      obtain ⟨name, value⟩ := entry
      simp only [lastAccepted, Option.or_eq_none_iff, ih, List.mem_cons, Prod.mk.injEq]
      by_cases same : name = key
      · subst same
        rw [if_pos rfl]
        constructor
        · rintro ⟨later, first⟩ other (⟨-, rfl⟩ | member)
          · exact first
          · exact later other member
        · exact fun all =>
            ⟨fun other member => all other (.inr member), all value (.inl ⟨rfl, rfl⟩)⟩
      · rw [if_neg same]
        constructor
        · rintro ⟨later, -⟩ other (⟨rfl, -⟩ | member)
          · exact absurd rfl same
          · exact later other member
        · exact fun all => ⟨fun other member => all other (.inr member), rfl⟩

/-- What comes last among what is accepted. -/
theorem lastAccepted_eq_some {entries : List (String × α)} {result : β}
    (accepted : lastAccepted accept key entries = some result) :
    ∃ before value after, entries = before ++ (key, value) :: after ∧
      accept key value = some result ∧ ∀ other, (key, other) ∈ after → accept key other = none := by
  induction entries with
  | nil => cases accepted
  | cons entry entries ih =>
      obtain ⟨name, value⟩ := entry
      rw [lastAccepted] at accepted
      cases later : lastAccepted accept key entries with
      | some found =>
          rw [later, Option.some_or] at accepted
          obtain ⟨before, value', after, rfl, rest⟩ := ih (later.trans accepted)
          exact ⟨(name, value) :: before, value', after, rfl, rest⟩
      | none =>
          rw [later, Option.none_or] at accepted
          split at accepted
          · rename_i same
            subst same
            exact ⟨[], value, entries, rfl, accepted, lastAccepted_eq_none.mp later⟩
          · cases accepted

end Layers

theorem assocSet_keys {β : Type} {key name : String} {value : β} {values : List (String × β)} :
    name ∈ (assocSet key value values).map Prod.fst ↔ name = key ∨ name ∈ values.map Prod.fst := by
  induction values with
  | nil => simp [assocSet]
  | cons entry values ih =>
      obtain ⟨other, old⟩ := entry
      unfold assocSet
      split
      · rename_i same
        simp [same]
      · simp only [List.map_cons, List.mem_cons, ih]
        tauto

theorem assocSet_distinct {β : Type} (key : String) (value : β) {values : List (String × β)}
    (distinct : (values.map Prod.fst).Nodup) :
    ((assocSet key value values).map Prod.fst).Nodup := by
  induction values with
  | nil => simp [assocSet]
  | cons entry values ih =>
      obtain ⟨other, old⟩ := entry
      obtain ⟨absent, rest⟩ := List.nodup_cons.mp distinct
      unfold assocSet
      split
      · rename_i same
        subst same
        exact List.nodup_cons.mpr ⟨absent, rest⟩
      · rename_i different
        refine List.nodup_cons.mpr ⟨?_, ih rest⟩
        rw [assocSet_keys, not_or]
        exact ⟨different, absent⟩

theorem assocGet_assocSet {β : Type} (key name : String) (value : β)
    (values : List (String × β)) :
    assocGet name (assocSet key value values) =
      if key = name then some value else assocGet name values := by
  split
  · rename_i same
    subst same
    exact assocGet_assocSet_self key value values
  · rename_i different
    exact assocGet_assocSet_of_ne different value values

/-- The values that are merged in come before those that were there. -/
theorem assocGet_assocUpdate {β : Type} {key : String} {merged values : List (String × β)}
    (distinct : (values.map Prod.fst).Nodup) :
    assocGet key (assocUpdate merged values) = (assocGet key values).or (assocGet key merged) := by
  induction values generalizing merged with
  | nil => rfl
  | cons entry values ih =>
      obtain ⟨name, value⟩ := entry
      obtain ⟨absent, rest⟩ := List.nodup_cons.mp distinct
      change assocGet key (assocUpdate (assocSet name value merged) values) = _
      rw [ih rest, assocGet_assocSet, assocGet]
      by_cases same : name = key
      · subst same
        rw [if_pos rfl, if_pos rfl, assocGet_eq_none absent]
        rfl
      · rw [if_neg same, if_neg same]

/-! ## Values -/

/-- A TOML value, as `tomllib` reads it. -/
inductive TomlValue where
  | bool (value : Bool)
  | int (value : Int)
  /-- A float with digits, which is rounded to a double. -/
  | float (written : ℚ)
  | infinite (negative : Bool)
  | nan
  | str (text : String)
  | dateTime (text : String)
  | arr (items : List TomlValue)
  | table (entries : List (String × TomlValue))

/-- An `int` or a `float`. -/
inductive PyNumber where
  | int (value : Int)
  | float (value : Double)

/-- The value as a number; a boolean is none. -/
def TomlValue.number : TomlValue → Option PyNumber
  | int value => some (.int value)
  | float written => some (.float (Double.ofRat written))
  | infinite negative => some (.float (.infinite negative))
  | nan => some (.float .nan)
  | _ => none

namespace PyNumber

/-- `value < 0`. -/
def isNegative : PyNumber → Bool
  | int value => decide (value < 0)
  | float (.finite value) => decide (value < 0)
  | float (.infinite negative) => negative
  | float .nan => false

/-- `value == 0`. -/
def isZero : PyNumber → Bool
  | int value => decide (value = 0)
  | float value => decide (value = .finite 0)

/-- `float(value)`. -/
def toFloat : PyNumber → Except PyExc Double
  | int value => (Number.int value).toFloat
  | float value => .ok value

/-- `value / 5`: the quotient of integers is rounded once. -/
def fifth : PyNumber → Except PyExc Double
  | int value =>
      match Double.ofRat (value / 5) with
      | .infinite _ => .error (.overflowError "integer division result too large for a float")
      | quotient => .ok quotient
  | float value => .ok (value.div (.finite 5))

/-- The timer for a number that is not negative. -/
def minutes (number : PyNumber) : Except PyExc Int :=
  if number.isZero then .ok 0
  else do
    let fifth ← number.fifth
    let steps ← intOfFloat (fifth.add (.finite (1 / 2)))
    return min (max 5 (steps * 5)) Printer.autoOffMaxMinutes

end PyNumber

/-! ## Entries -/

/-- What comes of reading a file: its entries, an exception the reader catches, or another one. -/
inductive TomlFile where
  | data (entries : List (String × TomlValue))
  | unreadable
  | raised (exc : PyExc)

/-- What `load_config` takes from Python and its host. -/
structure ConfigHost where
  /-- `repr`, which refuses integers of too many digits. -/
  repr : TomlValue → Except PyExc String
  /-- `Path(text).expanduser()`. -/
  expanduser : String → Except PyExc String
  isFile : String → Except PyExc Bool
  exists_ : String → Except PyExc Bool
  /-- `tomllib.loads(path.read_text())`. -/
  load : String → TomlFile

/-- A usable value. -/
inductive Setting where
  | minutes (value : Int)
  | number (value : Double)
  | text (value : String)
  deriving DecidableEq

/-- Why there is no usable value: `_Invalid`, or an exception that is not caught. -/
inductive CheckFailure where
  | invalid (message : String)
  | raised (exc : PyExc)

/-- `_NUMERIC`. -/
def numericKeys : List String :=
  ["idle_disconnect_minutes", "settle_seconds", "completion_timeout", "drain_seconds"]

namespace ConfigHost

variable (host : ConfigHost)

/-- `raise _Invalid(...)`, with the value in its message. -/
def refuse (message : String) (value : TomlValue) : CheckFailure :=
  match host.repr value with
  | .ok shown => .invalid s!"{message}, got {shown}"
  | .error exc => .raised exc

/-- `_auto_off`. -/
def autoOff (value : TomlValue) : Except CheckFailure (Setting × Option String) :=
  let refused := host.refuse
    s!"expected minutes as a number between 0 and {Printer.autoOffMaxMinutes}" value
  match value.number with
  | none => .error refused
  | some number =>
      if number.isNegative then .error refused
      else
        match number.minutes with
        | .error exc => .error (.raised exc)
        | .ok minutes =>
            match number with
            | .int written =>
                if minutes = written then .ok (.minutes minutes, none) else adjusted minutes
            | .float _ => adjusted minutes
where
  adjusted (minutes : Int) : Except CheckFailure (Setting × Option String) :=
    match host.repr value with
    | .error exc => .error (.raised exc)
    | .ok shown =>
        let note := s!"{shown} is not a valid timer (5-minute steps), using {minutes}"
        .ok (.minutes minutes, some note)

/-- `_check`. -/
def check (key : String) (value : TomlValue) : Except CheckFailure (Setting × Option String) :=
  if key = "auto_off_minutes" then host.autoOff value
  else if key ∈ numericKeys then
    match value.number with
    | none => .error (host.refuse "expected a number" value)
    | some number =>
        if number.isNegative then .error (host.refuse "must not be negative" value)
        else
          match number.toFloat with
          | .error exc => .error (.raised exc)
          | .ok value => .ok (.number value, none)
  else if key = "socket_path" then
    match value with
    | .str text => .ok (.text text, none)
    | _ => .error (host.refuse "expected a string" value)
  else .error (.invalid "unknown key")

/-- The loop of `_read` over the entries of a file. -/
def readEntries :
    List (String × TomlValue) → List (String × Setting) → Except PyExc (List (String × Setting))
  | [], values => .ok values
  | (key, value) :: entries, values =>
      match host.check key value with
      | .ok (setting, _) => readEntries entries (assocSet key setting values)
      | .error (.invalid _) => readEntries entries values
      | .error (.raised exc) => .error exc

/-- `_read`. -/
def read (path : String) : Except PyExc (List (String × Setting)) :=
  match host.load path with
  | .data entries => host.readEntries entries []
  | .unreadable => .ok []
  | .raised exc => .error exc

end ConfigHost

/-! ## Loading -/

/-- `BridgeConfig`. -/
structure BridgeConfig where
  socketPath : String
  idleDisconnectMinutes : Double := .finite 30
  autoOffMinutes : Option Int := none
  settleSeconds : Double := .finite 3
  completionTimeout : Double := .finite 300
  drainSeconds : Double := .finite 1

/-- What `load_config` raises. -/
inductive ConfigFailure where
  | configError (message : String)
  | raised (exc : PyExc)

/-- `os.path.join(directory, name)`. -/
def joinPath (directory name : String) : String :=
  if directory = "" ∨ directory.toList.getLast? = some '/' then directory ++ name
  else directory ++ "/" ++ name

/-- `SYSTEM_CONFIG`. -/
def systemConfig : String := "/etc/phomemo/bridge.toml"

/-- `SYSTEM_SOCKET`. -/
def systemSocket : String := "/run/phomemo/bridge.sock"

namespace ConfigHost

variable (host : ConfigHost)

/-- `default_paths`. -/
def defaultPaths (env : String → Option String) : Except PyExc (List String) :=
  let home := joinPath ((env "HOME").getD "~") ".config"
  let xdg := match env "XDG_CONFIG_HOME" with
    | some directory => if directory = "" then home else directory
    | none => home
  (host.expanduser xdg).map fun directory =>
    [systemConfig, joinPath (joinPath directory "phomemo") "bridge.toml"]

/-- `default_socket`. -/
def defaultSocket (env : String → Option String) : Except PyExc String :=
  (host.exists_ systemSocket).map fun present =>
    if present then systemSocket
    else match env "XDG_RUNTIME_DIR" with
      | some runtime =>
          if runtime = "" then systemSocket else joinPath runtime "phomemo-bridge.sock"
      | none => systemSocket

/-- The files to read, in override order. -/
def configPaths (paths : Option (List String)) (env : String → Option String) :
    Except PyExc (List String) :=
  match paths with
  | some paths => .ok paths
  | none => host.defaultPaths env

/-- The loop of `load_config` over the files. -/
def mergeFiles (requireFiles : Bool) :
    List String → List (String × Setting) → Except ConfigFailure (List (String × Setting))
  | [], merged => .ok merged
  | path :: paths, merged =>
      match host.isFile path with
      | .error exc => .error (.raised exc)
      | .ok true =>
          match host.read path with
          | .error exc => .error (.raised exc)
          | .ok values => mergeFiles requireFiles paths (assocUpdate merged values)
      | .ok false =>
          if requireFiles then .error (.configError s!"{path}: no such file")
          else mergeFiles requireFiles paths merged

end ConfigHost

/-- The number a key is set to. -/
def numberAt (key : String) (default : Double) (merged : List (String × Setting)) : Double :=
  match assocGet key merged with
  | some (.number value) => value
  | _ => default

/-- `BridgeConfig(socket_path=..., **merged)`. -/
def bridgeConfig (socket : String) (merged : List (String × Setting)) : BridgeConfig where
  socketPath := match assocGet "socket_path" merged with
    | some (.text path) => path
    | _ => socket
  idleDisconnectMinutes := numberAt "idle_disconnect_minutes" (.finite 30) merged
  autoOffMinutes := match assocGet "auto_off_minutes" merged with
    | some (.minutes minutes) => some minutes
    | _ => none
  settleSeconds := numberAt "settle_seconds" (.finite 3) merged
  completionTimeout := numberAt "completion_timeout" (.finite 300) merged
  drainSeconds := numberAt "drain_seconds" (.finite 1) merged

/-- `load_config`. -/
def loadConfig (host : ConfigHost) (paths : Option (List String)) (env : String → Option String)
    (requireFiles : Bool) : Except ConfigFailure BridgeConfig := do
  let paths ← (host.configPaths paths env).mapError .raised
  let merged ← host.mergeFiles requireFiles paths []
  let merged := match env "PHOMEMO_BRIDGE_SOCKET" with
    | some path => assocSet "socket_path" (.text path) merged
    | none => merged
  let socket ← (host.defaultSocket env).mapError .raised
  return bridgeConfig socket merged

/-! ## The nearest step -/

/-- The exact value of a finite number. -/
def PyNumber.value : PyNumber → Option ℚ
  | int value => some value
  | float (.finite value) => some value
  | float _ => none

/-- No multiple of five is nearer. -/
def NearestStep (value : ℚ) (steps : Int) : Prop :=
  ∀ other : Int, |(5 * steps : ℚ) - value| ≤ |(5 * other : ℚ) - value|

/-- A timer of so many steps, as far as the printer has them. -/
def clampSteps (steps : Int) : Int := min (max 5 (steps * 5)) Printer.autoOffMaxMinutes

theorem nearestStep_floor (value : ℚ) : NearestStep value ⌊value / 5 + 1 / 2⌋ := by
  intro other
  have low := Int.floor_le (value / 5 + 1 / 2)
  have high := Int.lt_floor_add_one (value / 5 + 1 / 2)
  set steps := ⌊value / 5 + 1 / 2⌋
  have near : |(5 * steps : ℚ) - value| ≤ 5 / 2 := by
    rw [abs_le]
    constructor <;> linarith
  rcases lt_trichotomy other steps with less | rfl | greater
  · have apart : (other : ℚ) + 1 ≤ steps := by exact_mod_cast less
    have left : (5 * other : ℚ) - value ≤ -(5 / 2) := by linarith
    rw [abs_of_nonpos (a := (5 * other : ℚ) - value) (by linarith)]
    linarith
  · exact le_rfl
  · have apart : (steps : ℚ) + 1 ≤ other := by exact_mod_cast greater
    have right : 5 / 2 ≤ (5 * other : ℚ) - value := by linarith
    exact near.trans (right.trans (le_abs_self _))

/-- A double is a multiple of a power of two that it does not exceed by far. -/
structure OnGrid (value : ℚ) (exponent : Int) : Prop where
  multiple : ∃ n : Int, value = n * (2 : ℚ) ^ (exponent - 52)
  within : value ≤ (2 : ℚ) ^ (exponent + 1)
  low : -1 ≤ exponent
  high : exponent ≤ 40

/-- Below the middle between two steps, the fifth of a double is rounded to what is below it. -/
theorem round_fifth_lt {value : ℚ} {exponent k : Int} (grid : OnGrid value exponent)
    (positive : 0 < value) (below : value / 5 < k + 1 / 2) :
    Binary64.round (value / 5) < k + 1 / 2 := by
  obtain ⟨n, multiple⟩ := grid.multiple
  have low := grid.low
  have high := grid.high
  have one_lt : (1 : ℚ) < 2 := by norm_num
  obtain ⟨m, half⟩ := exists_multiple (5 * (2 * k + 1)) (exponent - 52) (-1)
    (by omega)
  have middle : 5 * ((k : ℚ) + 1 / 2) = m * 2 ^ (exponent - 52) := by
    rw [← half, zpow_neg_one]
    push_cast
    ring
  have gap : value ≤ 5 * ((k : ℚ) + 1 / 2) - (2 : ℚ) ^ (exponent - 52) := by
    have less : value < 5 * ((k : ℚ) + 1 / 2) := by linarith
    rw [middle, multiple] at less
    rw [middle, multiple]
    exact multiple_le less
  have fifth_pos : 0 < value / 5 := by positivity
  have small : |value / 5| < (2 : ℚ) ^ (exponent - 1) := by
    have quarter : (2 : ℚ) ^ (exponent + 1) = 4 * 2 ^ (exponent - 1) := by
      rw [show exponent + 1 = exponent - 1 + 2 by ring, zpow_add₀ (by norm_num)]
      norm_num
      ring
    have power_pos : (0 : ℚ) < 2 ^ (exponent - 1) := by positivity
    rw [abs_of_pos fifth_pos]
    linarith [grid.within]
  have place := lastPlace_lt fifth_pos.ne' small (by omega)
  have fine : (2 : ℚ) ^ lastPlace (value / 5) ≤ 2 ^ (exponent - 52) / 4 := by
    calc (2 : ℚ) ^ lastPlace (value / 5) ≤ 2 ^ (exponent - 52 - 2) :=
          zpow_le_zpow_right₀ one_lt.le (by omega)
      _ = 2 ^ (exponent - 52) / 4 := by
          rw [zpow_sub₀ (by norm_num)]
          norm_num
  have error := (abs_le.mp (abs_round_sub_place (value / 5))).2
  have gap_pos : (0 : ℚ) < 2 ^ (exponent - 52) := by positivity
  linarith

/-- The same for the sum: the fifth is a double as well. -/
theorem round_add_half_lt_of_round {quotient : ℚ} {k : Int} (low : 1 / 2 ≤ quotient)
    (high : quotient < 256) (below : Binary64.round quotient < k + 1 / 2) :
    Binary64.round (Binary64.round quotient + 1 / 2) < k + 1 := by
  have one_lt : (1 : ℚ) < 2 := by norm_num
  have positive : 0 < quotient := by linarith
  obtain ⟨reached, bounded⟩ := binade_spec positive.ne'
  rw [abs_of_pos positive] at reached bounded
  have lowest : -1 < binade quotient + 1 := by
    refine (zpow_lt_zpow_iff_right₀ one_lt).mp (lt_of_le_of_lt ?_ bounded)
    norm_num
    linarith
  have highest : binade quotient < 8 := by
    refine (zpow_lt_zpow_iff_right₀ one_lt).mp (reached.trans_lt ?_)
    norm_num
    linarith
  have place : lastPlace quotient = binade quotient - 52 := by
    unfold lastPlace
    omega
  obtain ⟨n, scaled⟩ := exists_round_eq quotient
  obtain ⟨m, power⟩ := exists_multiple 1 (lastPlace quotient) (binade quotient + 1) (by omega)
  rw [Int.cast_one, one_mul] at power
  have within := round_le power bounded.le
  rw [place] at scaled
  exact round_add_half_lt scaled (round_nonneg positive.le) within (by omega) (by omega) below

theorem clampSteps_of_le_one {steps : Int} (few : steps ≤ 1) : clampSteps steps = 5 := by
  unfold clampSteps Printer.autoOffMaxMinutes
  omega

theorem clampSteps_of_large {steps : Int} (many : 256 ≤ steps) : clampSteps steps = 1275 := by
  unfold clampSteps Printer.autoOffMaxMinutes
  omega

/-- Rounded twice on the way, the number of steps is still that of a nearest step, once it is
clamped. -/
theorem clampSteps_round {value : ℚ} (positive : 0 < value)
    (grid : 5 / 2 ≤ value → value < 1280 → ∃ exponent, OnGrid value exponent) :
    clampSteps ⌊Binary64.round (Binary64.round (value / 5) + 1 / 2)⌋ =
      clampSteps ⌊value / 5 + 1 / 2⌋ := by
  have fifth_pos : 0 < value / 5 := by positivity
  have low := Int.floor_le (value / 5 + 1 / 2)
  have high := Int.lt_floor_add_one (value / 5 + 1 / 2)
  set k := ⌊value / 5 + 1 / 2⌋ with k_eq
  have sum_error := (abs_le.mp (abs_round_sub (Binary64.round (value / 5) + 1 / 2))).2
  have fifth_error := (abs_le.mp (abs_round_sub (value / 5))).2
  have rounded_nonneg : 0 ≤ Binary64.round (value / 5) := round_nonneg fifth_pos.le
  rw [abs_of_nonneg (a := Binary64.round (value / 5) + 1 / 2) (by linarith)] at sum_error
  rw [abs_of_pos fifth_pos] at fifth_error
  -- what is reached by the exact quotient is reached by the rounded ones
  have reaches : ∀ steps : Int, |steps| ≤ 2 ^ 30 → (steps : ℚ) ≤ value / 5 + 1 / 2 →
      steps ≤ ⌊Binary64.round (Binary64.round (value / 5) + 1 / 2)⌋ := by
    intro steps small le
    have bounds := abs_le.mp small
    have first := half_le_round (2 * steps - 1) (value / 5)
      (abs_le.mpr (by omega)) (by push_cast; linarith)
    have second := half_le_round (2 * steps) (Binary64.round (value / 5) + 1 / 2)
      (abs_le.mpr (by omega)) (by push_cast at first ⊢; linarith)
    push_cast at second
    exact Int.le_floor.mpr (by linarith)
  have k_nonneg : 0 ≤ k := Int.floor_nonneg.mpr (by positivity)
  by_cases large : 256 ≤ k
  · have reached : ((256 : Int) : ℚ) ≤ value / 5 + 1 / 2 :=
      le_trans (by exact_mod_cast large) low
    rw [clampSteps_of_large (reaches 256 (by norm_num) reached), clampSteps_of_large large]
  have small : (k : ℚ) ≤ 255 := by exact_mod_cast (show k ≤ 255 by omega)
  by_cases none : k = 0
  · have below : Binary64.round (Binary64.round (value / 5) + 1 / 2) < 2 := by
      rw [none] at high
      push_cast at high
      norm_num at fifth_error sum_error
      linarith
    have few := Int.floor_lt.mpr (show _ < ((2 : Int) : ℚ) by exact_mod_cast below)
    rw [clampSteps_of_le_one (by omega), clampSteps_of_le_one (by omega)]
  · have one_le : (1 : ℚ) ≤ k := by exact_mod_cast (show 1 ≤ k by omega)
    obtain ⟨exponent, onGrid⟩ := grid (by linarith) (by linarith)
    have fifth_below := round_fifth_lt (k := k) onGrid positive (by linarith)
    have sum_below := round_add_half_lt_of_round (k := k) (by linarith) (by linarith) fifth_below
    have above := reaches k (by rw [abs_of_nonneg k_nonneg]; omega) low
    have less := Int.floor_lt.mpr (show _ < ((k + 1 : Int) : ℚ) by exact_mod_cast sum_below)
    rw [show ⌊Binary64.round (Binary64.round (value / 5) + 1 / 2)⌋ = k by omega]

theorem OnGrid.intCast {n : Int} (small : n < 1280) : OnGrid n 10 := by
  have bounded : (n : ℚ) < 1280 := by exact_mod_cast small
  refine ⟨⟨n * 2 ^ 42, ?_⟩, ?_, by norm_num, by norm_num⟩
  · rw [show (10 : Int) - 52 = -42 by norm_num, zpow_neg]
    push_cast
    norm_num
    ring
  · norm_num
    linarith

theorem OnGrid.of_round {written : ℚ} (low : 5 / 2 ≤ Binary64.round written)
    (high : Binary64.round written < 1280) :
    ∃ exponent, OnGrid (Binary64.round written) exponent := by
  have one_lt : (1 : ℚ) < 2 := by norm_num
  have positive : 0 < written := by
    by_contra nonpos
    have := round_nonpos (not_lt.mp nonpos)
    linarith
  have reaches : 2 ≤ written := by
    by_contra small
    have bounded : |written| < (2 : ℚ) ^ (1 : Int) := by
      rw [abs_of_pos positive, zpow_one]
      exact not_le.mp small
    have place := lastPlace_lt positive.ne' bounded (by norm_num)
    obtain ⟨m, two⟩ := exists_multiple 1 (lastPlace written) 1 (by omega)
    rw [Int.cast_one, one_mul, zpow_one] at two
    linarith [round_le two (not_le.mp small).le]
  have below : written < 4096 := by
    by_contra large
    have passed := half_le_round 8192 written (by norm_num) (by
      norm_num
      linarith [not_lt.mp large])
    norm_num at passed
    linarith
  obtain ⟨reached, bounded⟩ := binade_spec positive.ne'
  rw [abs_of_pos positive] at reached bounded
  have lowest : 1 < binade written + 1 :=
    (zpow_lt_zpow_iff_right₀ one_lt).mp (lt_of_le_of_lt (by norm_num; linarith) bounded)
  have highest : binade written < 12 :=
    (zpow_lt_zpow_iff_right₀ one_lt).mp (reached.trans_lt (by norm_num; linarith))
  have place : lastPlace written = binade written - 52 := by
    unfold lastPlace
    omega
  obtain ⟨n, scaled⟩ := exists_round_eq written
  obtain ⟨m, power⟩ := exists_multiple 1 (lastPlace written) (binade written + 1) (by omega)
  rw [Int.cast_one, one_mul] at power
  rw [place] at scaled
  exact ⟨binade written, ⟨n, scaled⟩, round_le power bounded.le, by omega, by omega⟩

/-! ## The timer of a number -/

/-- The fifth of a double is finite. -/
theorem ofRat_fifth {written value : ℚ} (finite_value : Double.ofRat written = .finite value)
    (nonneg : 0 ≤ value) : Double.ofRat (value / 5) = .finite (Binary64.round (value / 5)) := by
  obtain ⟨same, bounded⟩ := Double.ofRat_eq_finite.mp finite_value
  rw [← same, abs_of_nonneg nonneg] at bounded
  have fifth_nonneg : 0 ≤ value / 5 := by positivity
  have error := (abs_le.mp (abs_round_sub (value / 5))).2
  rw [abs_of_nonneg fifth_nonneg] at error
  refine Double.ofRat_eq_finite.mpr ⟨rfl, ?_⟩
  rw [abs_of_nonneg (round_nonneg fifth_nonneg)]
  have top : (1 : ℚ) ≤ 2 ^ (1024 : Int) := one_le_zpow₀ (by norm_num) (by norm_num)
  generalize (2 : ℚ) ^ (1024 : Int) = huge at bounded top ⊢
  norm_num at error
  linarith

namespace PyNumber

theorem fifth_int {whole : Int} {quotient : ℚ}
    (same : Double.ofRat ((whole : ℚ) / 5) = .finite quotient) :
    (int whole).fifth = .ok (.finite quotient) := by
  unfold fifth
  dsimp only
  rw [same]

theorem fifth_overflows {whole : Int} {negative : Bool}
    (large : Double.ofRat ((whole : ℚ) / 5) = .infinite negative) :
    (int whole).fifth =
      .error (.overflowError "integer division result too large for a float") := by
  unfold fifth
  dsimp only
  rw [large]

theorem fifth_float (value : Double) : (float value).fifth = .ok (value.div (.finite 5)) := rfl

/-- The timer of a finite number that is not negative is that of a nearest step. -/
theorem minutes_eq {toml : TomlValue} {number : PyNumber} (isNumber : toml.number = some number)
    {value : ℚ} (finite_value : number.value = some value) (nonneg : 0 ≤ value)
    (divides : ∀ whole, number = .int whole →
      ∃ quotient, Double.ofRat ((whole : ℚ) / 5) = .finite quotient) :
    number.minutes = .ok (if value = 0 then 0 else clampSteps ⌊value / 5 + 1 / 2⌋) := by
  have zero : number.isZero = decide (value = 0) := by
    cases number with
    | int whole =>
        obtain rfl := Option.some.inj finite_value
        simp [isZero]
    | float double =>
        cases double with
        | finite exactly =>
            obtain rfl := Option.some.inj finite_value
            simp [isZero]
        | infinite negative => cases finite_value
        | nan => cases finite_value
  unfold minutes
  rw [zero]
  by_cases none : value = 0
  · simp [none]
  rw [if_neg none]
  have positive : 0 < value := lt_of_le_of_ne nonneg (Ne.symm none)
  have quotient : number.fifth = .ok (.finite (Binary64.round (value / 5))) ∧
      Double.ofRat (value / 5) = .finite (Binary64.round (value / 5)) ∧
      (5 / 2 ≤ value → value < 1280 → ∃ exponent, OnGrid value exponent) := by
    cases number with
    | int whole =>
        obtain rfl := Option.some.inj finite_value
        obtain ⟨quotient, same⟩ := divides whole rfl
        have rounded := (Double.ofRat_eq_finite.mp same).1
        rw [rounded] at same
        refine ⟨fifth_int same, same, fun _ small => ⟨10, ?_⟩⟩
        exact OnGrid.intCast (by exact_mod_cast small)
    | float double =>
        cases double with
        | infinite negative => cases finite_value
        | nan => cases finite_value
        | finite exactly =>
            obtain rfl := Option.some.inj finite_value
            obtain ⟨written, same⟩ : ∃ written, Double.ofRat written = .finite exactly := by
              cases toml with
              | float written => exact ⟨written, by simpa [TomlValue.number] using isNumber⟩
              | infinite negative => simp [TomlValue.number] at isNumber
              | nan => simp [TomlValue.number] at isNumber
              | int whole => simp [TomlValue.number] at isNumber
              | _ => cases isNumber
            have fifth_finite := ofRat_fifth same nonneg
            refine ⟨?_, fifth_finite, ?_⟩
            · simp [fifth_float, Double.div, fifth_finite]
            · obtain ⟨rfl, -⟩ := Double.ofRat_eq_finite.mp same
              exact OnGrid.of_round
  obtain ⟨divided, rounded, grid⟩ := quotient
  have fifth_nonneg : 0 ≤ value / 5 := by positivity
  have sum := Double.ofRat_add_half fifth_nonneg rounded
  have sum_nonneg : 0 ≤ Binary64.round (Binary64.round (value / 5) + 1 / 2) :=
    round_nonneg (by linarith [round_nonneg fifth_nonneg])
  have floored : truncate (Binary64.round (Binary64.round (value / 5) + 1 / 2)) =
      ⌊Binary64.round (Binary64.round (value / 5) + 1 / 2)⌋ := if_pos sum_nonneg
  rw [divided, if_neg (by simpa using none), ← clampSteps_round positive grid, ← floored]
  simp only [bind, Except.bind, pure, Except.pure, Double.add, sum, intOfFloat, clampSteps]

end PyNumber

/-! ## What the entries mean -/

/-- The kinds of settings. -/
inductive SettingKind where
  | timer
  | number
  | text

/-- The kind of a key, if it is known. -/
def settingKind (key : String) : Option SettingKind :=
  if key = "auto_off_minutes" then some .timer
  else if key ∈ numericKeys then some .number
  else if key = "socket_path" then some .text
  else none

/-- What the documentation makes of an entry: a number that is not negative, a timer of a nearest
step, or a text. -/
def Means (key : String) (value : TomlValue) (setting : Setting) : Prop :=
  match settingKind key with
  | some .timer => ∃ number exactly, value.number = some number ∧ number.value = some exactly ∧
      (exactly = 0 ∧ setting = .minutes 0 ∨
        0 < exactly ∧ ∃ steps, NearestStep exactly steps ∧ setting = .minutes (clampSteps steps))
  | some .number => ∃ number float, value.number = some number ∧ number.toFloat = .ok float ∧
      (Double.finite 0).le float = true ∧ setting = .number float
  | some .text => ∃ text, value = .str text ∧ setting = .text text
  | none => False

def Usable (key : String) (value : TomlValue) : Prop := ∃ setting, Means key value setting

/-- A value that is neither usable nor refused. -/
def SlipsIn (key : String) (value : TomlValue) : Prop :=
  settingKind key = some .number ∧ value = .nan

/-- The number has a fifth to round. -/
def PyNumber.Divides : PyNumber → Prop
  | int value => ∃ quotient, Double.ofRat ((value : ℚ) / 5) = .finite quotient
  | float (.finite _) => True
  | float _ => False

/-- The number converts to a float. -/
def PyNumber.Converts : PyNumber → Prop
  | int value => ∃ float, Double.ofRat value = .finite float
  | float _ => True

/-- The value goes into a message. -/
def Shown (key : String) (value : TomlValue) : Prop :=
  match settingKind key with
  | some .timer => ¬∃ minutes, value = .int minutes ∧ 0 ≤ minutes ∧ minutes ≤ 1275 ∧ minutes % 5 = 0
  | some .number => ¬∃ number, value.number = some number ∧ number.isNegative = false
  | some .text => ¬∃ text, value = .str text
  | none => False

/-- Nothing about the entry raises. -/
structure Checkable (host : ConfigHost) (key : String) (value : TomlValue) : Prop where
  divides : settingKind key = some .timer → ∀ number, value.number = some number →
    number.isNegative = false → number.Divides
  converts : settingKind key = some .number → ∀ number, value.number = some number →
    number.isNegative = false → number.Converts
  prints : Shown key value → ∃ text, host.repr value = .ok text

/-- What comes of checking an entry. -/
inductive CheckOutcome (host : ConfigHost) (key : String) (value : TomlValue) :
    Except CheckFailure (Setting × Option String) → Prop
  | accepted {setting : Setting} {note : Option String} (checkable : Checkable host key value)
      (means : Means key value setting ∨ SlipsIn key value ∧ setting = .number .nan) :
      CheckOutcome host key value (.ok (setting, note))
  | invalid {message : String} (checkable : Checkable host key value)
      (unusable : ¬Usable key value) (refused : ¬SlipsIn key value) :
      CheckOutcome host key value (.error (.invalid message))
  | raised {exc : PyExc} (uncheckable : ¬Checkable host key value) :
      CheckOutcome host key value (.error (.raised exc))

theorem ofRat_ne_nan (value : ℚ) : Double.ofRat value ≠ .nan := by
  unfold Double.ofRat
  split <;> simp

/-- A value that is refused and printed. -/
theorem refuse_outcome {host : ConfigHost} {key : String} {value : TomlValue} (message : String)
    (printed : Shown key value) (unusable : ¬Usable key value) (refused : ¬SlipsIn key value)
    (checkable : (∃ text, host.repr value = .ok text) → Checkable host key value) :
    CheckOutcome host key value (.error (host.refuse message value)) := by
  unfold ConfigHost.refuse
  cases shown : host.repr value with
  | error exc =>
      refine .raised fun checkable => ?_
      obtain ⟨text, same⟩ := checkable.prints printed
      cases shown.symm.trans same
  | ok text => exact .invalid (checkable ⟨text, shown⟩) unusable refused

/-- A number that is not negative and has a fifth is finite. -/
theorem PyNumber.Divides.value {number : PyNumber} (divides : number.Divides)
    (nonneg : number.isNegative = false) :
    ∃ exactly, number.value = some exactly ∧ 0 ≤ exactly := by
  match number with
  | .int whole =>
      refine ⟨whole, rfl, ?_⟩
      simpa [PyNumber.isNegative] using nonneg
  | .float (.finite exactly) =>
      refine ⟨exactly, rfl, ?_⟩
      simpa [PyNumber.isNegative] using nonneg
  | .float (.infinite negative) => exact divides.elim
  | .float .nan => exact divides.elim

/-- Without one the timer raises. -/
theorem PyNumber.minutes_raises {number : PyNumber} (undivided : ¬number.Divides) :
    ∃ exc, number.minutes = .error exc := by
  match number with
  | .int whole =>
      have nonzero : whole ≠ 0 := by
        rintro rfl
        refine undivided ⟨0, ?_⟩
        have zero : ((0 : Int) : ℚ) / 5 = ((0 : Int) : ℚ) := by norm_num
        rw [zero, Double.ofRat_intCast (by norm_num)]
        norm_num
      cases quotient : Double.ofRat ((whole : ℚ) / 5) with
      | finite value => exact absurd ⟨value, quotient⟩ undivided
      | nan => exact absurd quotient (ofRat_ne_nan _)
      | infinite negative =>
          exact ⟨_, by simp [minutes, isZero, nonzero, fifth_overflows quotient]; rfl⟩
  | .float (.finite exactly) => exact absurd trivial undivided
  | .float (.infinite negative) => exact ⟨_, rfl⟩
  | .float .nan => exact ⟨_, rfl⟩

theorem not_usable_timer {key : String} {value : TomlValue} (kind : settingKind key = some .timer)
    (negative : ∀ number, value.number = some number → number.isNegative = true) :
    ¬Usable key value := by
  rintro ⟨setting, means⟩
  rw [Means, kind] at means
  obtain ⟨number, exactly, isNumber, same, meant⟩ := means
  have nonneg : 0 ≤ exactly := by
    rcases meant with ⟨rfl, -⟩ | ⟨positive, -⟩
    · exact le_rfl
    · exact positive.le
  have below := negative number isNumber
  match number with
  | .int whole =>
      obtain rfl := Option.some.inj same
      simp only [PyNumber.isNegative, decide_eq_true_eq] at below
      have whole_nonneg : 0 ≤ whole := by exact_mod_cast nonneg
      omega
  | .float (.finite value) =>
      obtain rfl := Option.some.inj same
      simp only [PyNumber.isNegative, decide_eq_true_eq] at below
      linarith
  | .float (.infinite _) => cases same
  | .float .nan => cases same

section Outcomes

variable {host : ConfigHost} {key : String} {value : TomlValue}

/-- The timer of a number that has one is what the entry means. -/
theorem means_timer (kind : settingKind key = some .timer) {number : PyNumber}
    (isNumber : value.number = some number) {exactly : ℚ} (same : number.value = some exactly)
    (nonneg : 0 ≤ exactly) :
    Means key value (.minutes (if exactly = 0 then 0 else clampSteps ⌊exactly / 5 + 1 / 2⌋)) := by
  rw [Means, kind]
  refine ⟨number, exactly, isNumber, same, ?_⟩
  by_cases zero : exactly = 0
  · exact .inl ⟨zero, by rw [if_pos zero]⟩
  · refine .inr ⟨lt_of_le_of_ne nonneg (Ne.symm zero), _, nearestStep_floor exactly, ?_⟩
    rw [if_neg zero]

/-- Every timer is one that the printer has. -/
theorem timer_valid (exactly : ℚ) :
    let minutes := if exactly = 0 then 0 else clampSteps ⌊exactly / 5 + 1 / 2⌋
    minutes % 5 = 0 ∧ 0 ≤ minutes ∧ minutes ≤ 1275 := by
  dsimp only [clampSteps, Printer.autoOffMaxMinutes]
  split <;> omega

/-- The timers of the printer are kept. -/
theorem timer_kept {minutes : Int} (nonneg : 0 ≤ minutes) (le : minutes ≤ 1275)
    (step : minutes % 5 = 0) :
    (if (minutes : ℚ) = 0 then 0 else clampSteps ⌊(minutes : ℚ) / 5 + 1 / 2⌋) = minutes := by
  obtain ⟨steps, rfl⟩ := Int.dvd_of_emod_eq_zero step
  have floored : ⌊((5 * steps : Int) : ℚ) / 5 + 1 / 2⌋ = steps := by
    rw [Int.floor_eq_iff]
    push_cast
    constructor <;> linarith
  rw [floored]
  split
  · rename_i zero
    exact_mod_cast zero.symm
  · rename_i nonzero
    have some_steps : steps ≠ 0 := by
      rintro rfl
      simp at nonzero
    unfold clampSteps Printer.autoOffMaxMinutes
    omega

/-- A timer that had to be adjusted is noted. -/
theorem adjusted_outcome {minutes : Int} (printed : Shown key value)
    (means : Means key value (.minutes minutes))
    (checkable : (∃ text, host.repr value = .ok text) → Checkable host key value) :
    CheckOutcome host key value (ConfigHost.autoOff.adjusted host value minutes) := by
  unfold ConfigHost.autoOff.adjusted
  cases shown : host.repr value with
  | error exc =>
      refine .raised fun checkable => ?_
      obtain ⟨text, same⟩ := checkable.prints printed
      cases shown.symm.trans same
  | ok text => exact .accepted (checkable ⟨text, shown⟩) (.inl means)

theorem autoOff_outcome (kind : settingKind key = some .timer) :
    CheckOutcome host key value (host.autoOff value) := by
  have slipless : ¬SlipsIn key value := by
    rintro ⟨other, -⟩
    rw [kind] at other
    cases other
  have checkable (prints : Shown key value → ∃ text, host.repr value = .ok text)
      (divides : ∀ number, value.number = some number → number.isNegative = false →
        number.Divides) : Checkable host key value := by
    refine ⟨fun _ => divides, fun other => ?_, prints⟩
    rw [kind] at other
    cases other
  unfold ConfigHost.autoOff
  cases isNumber : value.number with
  | none =>
      refine refuse_outcome _ ?_ (not_usable_timer kind (by simp [isNumber])) slipless ?_
      · rw [Shown, kind]
        rintro ⟨minutes, rfl, -⟩
        cases isNumber
      · exact fun printable => checkable (fun _ => printable) (by simp [isNumber])
  | some number =>
      have unique : ∀ other, value.number = some other → other = number := fun other same =>
        Option.some.inj (same.symm.trans isNumber)
      dsimp only
      by_cases sign : number.isNegative = true
      · rw [if_pos sign]
        have negative : ∀ other, value.number = some other → other.isNegative = true :=
          fun other same => unique other same ▸ sign
        refine refuse_outcome _ ?_ (not_usable_timer kind negative) slipless ?_
        · rw [Shown, kind]
          rintro ⟨minutes, rfl, nonneg, -⟩
          have below := negative (.int minutes) rfl
          simp only [PyNumber.isNegative, decide_eq_true_eq] at below
          omega
        · refine fun printable => checkable (fun _ => printable) fun other same nonneg => ?_
          rw [negative other same] at nonneg
          cases nonneg
      · rw [if_neg sign]
        have unsigned : number.isNegative = false := by simpa using sign
        by_cases divides : number.Divides
        · obtain ⟨exactly, same, nonneg⟩ := divides.value unsigned
          have divided : ∀ whole, number = .int whole →
              ∃ quotient, Double.ofRat ((whole : ℚ) / 5) = .finite quotient := by
            rintro whole rfl
            exact divides
          have sound := fun prints => checkable prints fun other same' _ =>
            unique other same' ▸ divides
          have means := means_timer kind isNumber same nonneg
          have valid := timer_valid exactly
          have keeps : ∀ whole : Int, exactly = whole → 0 ≤ whole → whole ≤ 1275 → whole % 5 = 0 →
              (if exactly = 0 then 0 else clampSteps ⌊exactly / 5 + 1 / 2⌋) = whole := by
            rintro whole rfl
            exact timer_kept
          rw [PyNumber.minutes_eq isNumber same nonneg divided]
          dsimp only at valid ⊢
          generalize (if exactly = 0 then 0 else clampSteps ⌊exactly / 5 + 1 / 2⌋) = minutes
            at means valid keeps
          cases number with
          | int written =>
              obtain rfl : value = .int written := by
                cases value <;> simp [TomlValue.number] at isNumber
                rw [isNumber]
              dsimp only
              split
              · rename_i kept
                subst kept
                refine .accepted (sound fun printed => ?_) (.inl means)
                rw [Shown, kind] at printed
                exact absurd ⟨minutes, rfl, valid.2.1, valid.2.2, valid.1⟩ printed
              · rename_i changed
                refine adjusted_outcome ?_ means fun printable => sound fun _ => printable
                rw [Shown, kind]
                rintro ⟨whole, same', low, high, step⟩
                obtain rfl := TomlValue.int.inj same'
                exact changed (keeps written (Option.some.inj same).symm low high step)
          | float double =>
              refine adjusted_outcome ?_ means fun printable => sound fun _ => printable
              rw [Shown, kind]
              rintro ⟨minutes, rfl, -⟩
              cases isNumber
        · obtain ⟨exc, raises⟩ := PyNumber.minutes_raises divides
          rw [raises]
          exact .raised fun checkable => divides (checkable.divides kind number isNumber unsigned)

theorem toFloat_int {whole : Int} {float : Double} :
    (PyNumber.int whole).toFloat = .ok float ↔
      ∃ exactly, Double.ofRat whole = .finite exactly ∧ float = .finite exactly := by
  have unfolded : (Number.int whole).toDouble = Double.ofRat whole := rfl
  unfold PyNumber.toFloat Number.toFloat
  dsimp only
  rw [unfolded]
  generalize rounded : Double.ofRat (whole : ℚ) = converted
  cases converted with
  | finite exactly =>
      constructor
      · intro same
        exact ⟨exactly, rfl, (Except.ok.inj same).symm⟩
      · rintro ⟨_, same, rfl⟩
        rw [same]
  | infinite negative => exact ⟨nofun, nofun⟩
  | nan => exact absurd rounded (ofRat_ne_nan _)

/-- The sign of a number is that of its float; `nan` has none. -/
theorem toFloat_sign {number : PyNumber} {float : Double} (converted : number.toFloat = .ok float)
    (number_ne : number ≠ .float .nan) :
    (Double.finite 0).le float = !number.isNegative := by
  match number with
  | .int whole =>
      obtain ⟨exactly, rounded, rfl⟩ := toFloat_int.mp converted
      obtain ⟨rfl, -⟩ := Double.ofRat_eq_finite.mp rounded
      by_cases negative : whole < 0
      · have below : (whole : ℚ) ≤ -1 := by exact_mod_cast Int.le_sub_one_iff.mpr negative
        have error := (abs_le.mp (abs_round_sub (whole : ℚ))).2
        rw [abs_of_nonpos (by linarith)] at error
        have rounded_neg : Binary64.round (whole : ℚ) < 0 := by linarith
        simp [PyNumber.isNegative, Double.le, negative, rounded_neg]
      · have nonneg : (0 : ℚ) ≤ whole := by exact_mod_cast not_lt.mp negative
        simp [PyNumber.isNegative, Double.le, negative, round_nonneg nonneg]
  | .float (.finite exactly) =>
      obtain rfl := Except.ok.inj converted
      simp [PyNumber.isNegative, Double.le, ← not_lt]
  | .float (.infinite negative) =>
      obtain rfl := Except.ok.inj converted
      rfl
  | .float .nan => exact absurd rfl number_ne

theorem number_nan (isNumber : value.number = some (.float .nan)) : value = .nan := by
  cases value with
  | nan => rfl
  | float written => simp [TomlValue.number, ofRat_ne_nan] at isNumber
  | int whole => simp [TomlValue.number] at isNumber
  | infinite negative => simp [TomlValue.number] at isNumber
  | _ => cases isNumber

theorem number_outcome (kind : settingKind key = some .number) :
    CheckOutcome host key value
      (match value.number with
        | none => .error (host.refuse "expected a number" value)
        | some number =>
            if number.isNegative then .error (host.refuse "must not be negative" value)
            else
              match number.toFloat with
              | .error exc => .error (.raised exc)
              | .ok value => .ok (.number value, none)) := by
  have checkable (prints : Shown key value → ∃ text, host.repr value = .ok text)
      (converts : ∀ number, value.number = some number → number.isNegative = false →
        number.Converts) : Checkable host key value := by
    refine ⟨fun other => ?_, fun _ => converts, prints⟩
    rw [kind] at other
    cases other
  cases isNumber : value.number with
  | none =>
      refine refuse_outcome _ ?_ ?_ ?_ fun printable =>
        checkable (fun _ => printable) (by simp [isNumber])
      · rw [Shown, kind]
        simp [isNumber]
      · rintro ⟨setting, means⟩
        rw [Means, kind] at means
        simp [isNumber] at means
      · rintro ⟨-, rfl⟩
        cases isNumber
  | some number =>
      have unique : ∀ other, value.number = some other → other = number := fun other same =>
        Option.some.inj (same.symm.trans isNumber)
      dsimp only
      by_cases sign : number.isNegative = true
      · rw [if_pos sign]
        have sane : number ≠ .float .nan := by
          rintro rfl
          cases sign
        refine refuse_outcome _ ?_ ?_ ?_ fun printable =>
          checkable (fun _ => printable) fun other same nonneg => ?_
        · rw [Shown, kind]
          rintro ⟨other, same, nonneg⟩
          rw [unique other same, sign] at nonneg
          cases nonneg
        · rintro ⟨setting, means⟩
          rw [Means, kind] at means
          obtain ⟨other, float, same, converted, nonneg, -⟩ := means
          rw [unique other same] at converted
          rw [toFloat_sign converted sane, sign] at nonneg
          cases nonneg
        · rintro ⟨-, rfl⟩
          exact sane (unique _ rfl).symm
        · rw [unique other same, sign] at nonneg
          cases nonneg
      · rw [if_neg sign]
        have unsigned : number.isNegative = false := by simpa using sign
        have unprinted : Shown key value → ∃ text, host.repr value = .ok text := by
          intro printed
          rw [Shown, kind] at printed
          exact absurd ⟨number, isNumber, unsigned⟩ printed
        cases converted : number.toFloat with
        | error exc =>
            refine .raised fun checkable => ?_
            have converts := checkable.converts kind number isNumber unsigned
            cases number with
            | int whole =>
                obtain ⟨exactly, rounded⟩ := converts
                cases converted.symm.trans (toFloat_int.mpr ⟨exactly, rounded, rfl⟩)
            | float double => cases converted
        | ok float =>
            refine .accepted (checkable unprinted fun other same _ => ?_) ?_
            · rw [unique other same]
              cases number with
              | int whole =>
                  obtain ⟨exactly, rounded, -⟩ := toFloat_int.mp converted
                  exact ⟨exactly, rounded⟩
              | float double => exact trivial
            · by_cases sane : number = .float .nan
              · subst sane
                obtain rfl := Except.ok.inj converted
                exact .inr ⟨⟨kind, number_nan isNumber⟩, rfl⟩
              · left
                rw [Means, kind]
                exact ⟨number, float, isNumber, converted,
                  by rw [toFloat_sign converted sane, unsigned]; rfl, rfl⟩

/-- Every entry is accepted for what it means, refused as unusable, or raises. -/
theorem check_outcome (host : ConfigHost) (key : String) (value : TomlValue) :
    CheckOutcome host key value (host.check key value) := by
  unfold ConfigHost.check
  by_cases timer : key = "auto_off_minutes"
  · rw [if_pos timer]
    exact autoOff_outcome (by rw [settingKind, if_pos timer])
  rw [if_neg timer]
  by_cases numeric : key ∈ numericKeys
  · rw [if_pos numeric]
    exact number_outcome (by rw [settingKind, if_neg timer, if_pos numeric])
  rw [if_neg numeric]
  have checkable (prints : Shown key value → ∃ text, host.repr value = .ok text) :
      Checkable host key value := by
    refine ⟨fun kind => ?_, fun kind => ?_, prints⟩
    all_goals
      rw [settingKind, if_neg timer, if_neg numeric] at kind
      split at kind <;> cases kind
  have slipless : ¬SlipsIn key value := by
    rintro ⟨kind, -⟩
    rw [settingKind, if_neg timer, if_neg numeric] at kind
    split at kind <;> cases kind
  by_cases socket : key = "socket_path"
  · rw [if_pos socket]
    have kind : settingKind key = some .text := by
      rw [settingKind, if_neg timer, if_neg numeric, if_pos socket]
    split
    · rename_i text
      refine .accepted (checkable fun printed => ?_) (.inl ?_)
      · rw [Shown, kind] at printed
        exact absurd ⟨text, rfl⟩ printed
      · rw [Means, kind]
        exact ⟨text, rfl, rfl⟩
    · rename_i other
      refine refuse_outcome _ ?_ ?_ slipless fun printable => checkable fun _ => printable
      · rw [Shown, kind]
        exact fun ⟨text, same⟩ => other text same
      · rintro ⟨setting, means⟩
        rw [Means, kind] at means
        obtain ⟨text, same, -⟩ := means
        exact other text same
  · rw [if_neg socket]
    have kind : settingKind key = none := by
      rw [settingKind, if_neg timer, if_neg numeric, if_neg socket]
    refine .invalid (checkable fun printed => ?_) ?_ slipless
    · rw [Shown, kind] at printed
      exact printed.elim
    · rintro ⟨setting, means⟩
      rw [Means, kind] at means
      exact means

end Outcomes

/-! ## Files -/

namespace ConfigHost

/-- The setting an entry is accepted for. -/
def accept (host : ConfigHost) (key : String) (value : TomlValue) : Option Setting :=
  match host.check key value with
  | .ok (setting, _) => some setting
  | .error _ => none

/-- The entries a file adds. -/
def fileEntries (host : ConfigHost) (path : String) : List (String × TomlValue) :=
  match host.isFile path, host.load path with
  | .ok true, .data entries => entries
  | _, _ => []

/-- The entries of all files, in override order. -/
def configEntries (host : ConfigHost) (paths : List String) : List (String × TomlValue) :=
  paths.flatMap host.fileEntries

/-- A file can be looked for, and is read or found unreadable. -/
def Readable (host : ConfigHost) (path : String) : Prop :=
  ∃ present, host.isFile path = .ok present ∧
    (present = true → ∀ exc, host.load path ≠ .raised exc)

variable {host : ConfigHost}

theorem accept_means {key : String} {value : TomlValue} {setting : Setting}
    (accepted : host.accept key value = some setting) :
    Means key value setting ∨ SlipsIn key value ∧ setting = .number .nan := by
  have outcome := check_outcome host key value
  unfold accept at accepted
  generalize host.check key value = result at outcome accepted
  cases outcome with
  | accepted _ means =>
      obtain rfl := Option.some.inj accepted
      exact means
  | invalid => cases accepted
  | raised => cases accepted

theorem accept_usable {key : String} {value : TomlValue} (checkable : Checkable host key value)
    (usable : Usable key value ∨ SlipsIn key value) : host.accept key value ≠ none := by
  have outcome := check_outcome host key value
  unfold accept
  generalize host.check key value = result at outcome
  cases outcome with
  | accepted => nofun
  | invalid _ unusable refused => exact absurd usable (not_or.mpr ⟨unusable, refused⟩)
  | raised uncheckable => exact absurd checkable uncheckable

/-- Entries that can be checked leave the last accepted value of each key. -/
theorem readEntries_ok {entries : List (String × TomlValue)} (values : List (String × Setting))
    (checkable : ∀ entry ∈ entries, Checkable host entry.1 entry.2)
    (distinct : (values.map Prod.fst).Nodup) :
    ∃ result, host.readEntries entries values = .ok result ∧ (result.map Prod.fst).Nodup ∧
      ∀ key, assocGet key result =
        (lastAccepted host.accept key entries).or (assocGet key values) := by
  induction entries generalizing values with
  | nil => exact ⟨values, rfl, distinct, fun _ => rfl⟩
  | cons entry entries ih =>
      obtain ⟨key, value⟩ := entry
      obtain ⟨first, rest⟩ := List.forall_mem_cons.mp checkable
      have outcome := check_outcome host key value
      simp only [readEntries, lastAccepted, accept]
      generalize host.check key value = checked at outcome
      cases outcome with
      | @accepted setting _ _ _ =>
          obtain ⟨result, read, still, found⟩ :=
            ih _ rest (assocSet_distinct key setting distinct)
          refine ⟨result, read, still, fun name => ?_⟩
          rw [found, assocGet_assocSet, Option.or_assoc]
          by_cases same : key = name <;> simp [same]
      | invalid =>
          obtain ⟨result, read, still, found⟩ := ih _ rest distinct
          refine ⟨result, read, still, fun name => ?_⟩
          rw [found, Option.or_assoc]
          simp
      | raised uncheckable => exact absurd first uncheckable

theorem readEntries_checkable {entries : List (String × TomlValue)}
    {values result : List (String × Setting)}
    (read : host.readEntries entries values = .ok result) :
    ∀ entry ∈ entries, Checkable host entry.1 entry.2 := by
  induction entries generalizing values with
  | nil => nofun
  | cons entry entries ih =>
      obtain ⟨key, value⟩ := entry
      have outcome := check_outcome host key value
      rw [readEntries] at read
      generalize host.check key value = checked at outcome read
      cases outcome with
      | accepted checkable => exact List.forall_mem_cons.mpr ⟨checkable, ih read⟩
      | invalid checkable => exact List.forall_mem_cons.mpr ⟨checkable, ih read⟩
      | raised => cases read

/-- Files that can be read leave the last accepted value of each key. -/
theorem mergeFiles_ok {paths : List String} (merged : List (String × Setting))
    (readable : ∀ path ∈ paths, host.Readable path)
    (checkable : ∀ entry ∈ host.configEntries paths, Checkable host entry.1 entry.2) :
    ∃ result, host.mergeFiles false paths merged = .ok result ∧
      ∀ key, assocGet key result =
        (lastAccepted host.accept key (host.configEntries paths)).or (assocGet key merged) := by
  induction paths generalizing merged with
  | nil => exact ⟨merged, rfl, fun _ => rfl⟩
  | cons path paths ih =>
      obtain ⟨⟨present, looked, loads⟩, rest⟩ := List.forall_mem_cons.mp readable
      rw [configEntries, List.flatMap_cons] at checkable
      have later : ∀ entry ∈ host.configEntries paths, Checkable host entry.1 entry.2 :=
        fun entry member => checkable entry (List.mem_append_right _ member)
      have skipped : host.fileEntries path = [] → ∃ result,
          host.mergeFiles false paths merged = .ok result ∧
            ∀ key, assocGet key result =
              (lastAccepted host.accept key (host.configEntries (path :: paths))).or
                (assocGet key merged) := by
        intro none_added
        rw [configEntries, List.flatMap_cons, none_added, List.nil_append]
        exact ih _ rest later
      cases present with
      | false =>
          simp only [mergeFiles, looked]
          exact skipped (by simp [fileEntries, looked])
      | true =>
          simp only [mergeFiles, looked, read]
          cases loaded : host.load path with
          | raised exc => exact absurd loaded (loads rfl exc)
          | unreadable => exact skipped (by simp [fileEntries, looked, loaded])
          | data entries =>
              have added : host.fileEntries path = entries := by simp [fileEntries, looked, loaded]
              rw [added] at checkable
              obtain ⟨values, valued, distinct, found⟩ := readEntries_ok []
                (fun entry member => checkable entry (List.mem_append_left _ member)) List.nodup_nil
              obtain ⟨result, merges, lookup⟩ := ih (assocUpdate merged values) rest later
              have split : host.configEntries (path :: paths) =
                  entries ++ host.configEntries paths := by
                rw [configEntries, List.flatMap_cons, added]
                rfl
              simp only [valued]
              refine ⟨result, merges, fun key => ?_⟩
              rw [lookup, assocGet_assocUpdate distinct, found, split, lastAccepted_append,
                Option.or_assoc, assocGet, Option.none_or, Option.or_assoc]

theorem mergeFiles_only {paths : List String} {merged result : List (String × Setting)}
    (loaded : host.mergeFiles false paths merged = .ok result) :
    (∀ path ∈ paths, host.Readable path) ∧
      ∀ entry ∈ host.configEntries paths, Checkable host entry.1 entry.2 := by
  induction paths generalizing merged with
  | nil => exact ⟨nofun, nofun⟩
  | cons path paths ih =>
      have whole (readable : host.Readable path)
          (first : ∀ entry ∈ host.fileEntries path, Checkable host entry.1 entry.2)
          {merged : List (String × Setting)}
          (later : host.mergeFiles false paths merged = .ok result) :
          (∀ path' ∈ path :: paths, host.Readable path') ∧
            ∀ entry ∈ host.configEntries (path :: paths), Checkable host entry.1 entry.2 := by
        obtain ⟨rest, checkable⟩ := ih later
        refine ⟨List.forall_mem_cons.mpr ⟨readable, rest⟩, fun entry member => ?_⟩
        rw [configEntries, List.flatMap_cons] at member
        exact (List.mem_append.mp member).elim (first entry) (checkable entry)
      rw [mergeFiles] at loaded
      cases looked : host.isFile path with
      | error exc =>
          rw [looked] at loaded
          cases loaded
      | ok present =>
          rw [looked] at loaded
          cases present with
          | false =>
              have none_added : host.fileEntries path = [] := by simp [fileEntries, looked]
              exact whole ⟨false, looked, nofun⟩ (by simp [none_added]) loaded
          | true =>
              dsimp only at loaded
              rw [read] at loaded
              cases file : host.load path with
              | raised exc =>
                  rw [file] at loaded
                  cases loaded
              | unreadable =>
                  rw [file] at loaded
                  have none_added : host.fileEntries path = [] := by
                    simp [fileEntries, looked, file]
                  exact whole ⟨true, looked, fun _ exc => by rw [file]; nofun⟩
                    (by simp [none_added]) loaded
              | data entries =>
                  rw [file] at loaded
                  have added : host.fileEntries path = entries := by
                    simp [fileEntries, looked, file]
                  dsimp only at loaded
                  cases valued : host.readEntries entries [] with
                  | error exc =>
                      rw [valued] at loaded
                      cases loaded
                  | ok values =>
                      rw [valued] at loaded
                      refine whole ⟨true, looked, fun _ exc => by rw [file]; nofun⟩ ?_ loaded
                      rw [added]
                      exact readEntries_checkable valued

end ConfigHost

/-! ## The configuration -/

/-- What a configuration sets a key to. -/
def BridgeConfig.setting (config : BridgeConfig) (key : String) : Option Setting :=
  if key = "auto_off_minutes" then config.autoOffMinutes.map .minutes
  else if key = "idle_disconnect_minutes" then some (.number config.idleDisconnectMinutes)
  else if key = "settle_seconds" then some (.number config.settleSeconds)
  else if key = "completion_timeout" then some (.number config.completionTimeout)
  else if key = "drain_seconds" then some (.number config.drainSeconds)
  else if key = "socket_path" then some (.text config.socketPath)
  else none

/-- The setting of a key is what its last usable entry means, or the default. -/
def Layered (entries : List (String × TomlValue)) (key : String)
    (setting default : Option Setting) : Prop :=
  (∃ before value after meant, entries = before ++ (key, value) :: after ∧
    (∀ other, (key, other) ∈ after → ¬Usable key other) ∧ Means key value meant ∧
    setting = some meant) ∨
  (∀ value, (key, value) ∈ entries → ¬Usable key value) ∧ setting = default

/-- The configuration is what the documentation makes of the files and the environment. -/
structure ConfigRight (host : ConfigHost) (env : String → Option String)
    (entries : List (String × TomlValue)) (config : BridgeConfig) : Prop where
  numeric : ∀ key ∈ numericKeys, ∃ float, config.setting key = some (.number float) ∧
    (Double.finite 0).le float = true
  autoOff : ∀ minutes, config.autoOffMinutes = some minutes →
    minutes % 5 = 0 ∧ 0 ≤ minutes ∧ minutes ≤ 1275
  layered : ∀ key ∈ "auto_off_minutes" :: numericKeys,
    Layered entries key (config.setting key) (BridgeConfig.setting { socketPath := "" } key)
  socket : match env "PHOMEMO_BRIDGE_SOCKET" with
    | some path => config.socketPath = path
    | none => ∃ path, host.defaultSocket env = .ok path ∧
        Layered entries "socket_path" (some (.text config.socketPath)) (some (.text path))

/-- Nothing in the files raises, no `nan` is the last number of its key, and the host can look for
the socket. -/
structure Loads (host : ConfigHost) (paths : List String) : Prop where
  readable : ∀ path ∈ paths, host.Readable path
  checkable : ∀ entry ∈ host.configEntries paths, Checkable host entry.1 entry.2
  overridden : ∀ key ∈ numericKeys, ∀ before after,
    host.configEntries paths = before ++ (key, .nan) :: after →
      ∃ value, (key, value) ∈ after ∧ Usable key value
  socket : ∃ present, host.exists_ systemSocket = .ok present

section Settings

variable {host : ConfigHost} {key : String} {merged : List (String × Setting)}
  {entries : List (String × TomlValue)} {setting : Setting}

theorem settingKind_numeric (numeric : key ∈ numericKeys) : settingKind key = some .number := by
  have other : key ≠ "auto_off_minutes" := by
    rintro rfl
    exact absurd numeric (by decide)
  rw [settingKind, if_neg other, if_pos numeric]

/-- The last accepted entry, and that it is not overridden. -/
theorem lastAccepted_means (last : lastAccepted host.accept key entries = some setting) :
    ∃ before value after, entries = before ++ (key, value) :: after ∧
      (Means key value setting ∨ SlipsIn key value ∧ setting = .number .nan) ∧
      ∀ other, (key, other) ∈ after → host.accept key other = none := by
  obtain ⟨before, value, after, split, accepted, rest⟩ := lastAccepted_eq_some last
  exact ⟨before, value, after, split, ConfigHost.accept_means accepted, rest⟩

theorem lastAccepted_number (numeric : key ∈ numericKeys)
    (last : lastAccepted host.accept key entries = some setting) :
    ∃ float, setting = .number float := by
  obtain ⟨-, value, -, -, means | ⟨-, rfl⟩, -⟩ := lastAccepted_means last
  · rw [Means, settingKind_numeric numeric] at means
    obtain ⟨-, float, -, -, -, rfl⟩ := means
    exact ⟨float, rfl⟩
  · exact ⟨_, rfl⟩

theorem lastAccepted_timer
    (last : lastAccepted host.accept "auto_off_minutes" entries = some setting) :
    ∃ minutes, setting = .minutes minutes ∧ minutes % 5 = 0 ∧ 0 ≤ minutes ∧ minutes ≤ 1275 := by
  obtain ⟨-, value, -, -, means | ⟨⟨kind, -⟩, -⟩, -⟩ := lastAccepted_means last
  · obtain ⟨-, -, -, -, ⟨-, rfl⟩ | ⟨-, steps, -, rfl⟩⟩ := means
    · exact ⟨0, rfl, by decide⟩
    · refine ⟨_, rfl, ?_⟩
      unfold clampSteps Printer.autoOffMaxMinutes
      omega
  · cases kind

theorem lastAccepted_text (last : lastAccepted host.accept "socket_path" entries = some setting) :
    ∃ text, setting = .text text := by
  obtain ⟨-, value, -, -, means | ⟨⟨kind, -⟩, -⟩, -⟩ := lastAccepted_means last
  · obtain ⟨text, -, rfl⟩ := means
    exact ⟨text, rfl⟩
  · cases kind

/-- What is accepted last is what is usable last, unless a `nan` has slipped in. -/
theorem lastAccepted_layered
    (checkable : ∀ entry ∈ entries, Checkable host entry.1 entry.2)
    (sane : ∀ before after, entries = before ++ (key, .nan) :: after →
      settingKind key = some .number → ∃ value, (key, value) ∈ after ∧ Usable key value)
    (default : Option Setting) :
    Layered entries key ((lastAccepted host.accept key entries).or default) default := by
  cases last : lastAccepted host.accept key entries with
  | none =>
      refine .inr ⟨fun value member usable => ?_, rfl⟩
      exact ConfigHost.accept_usable (checkable _ member) (.inl usable)
        (lastAccepted_eq_none.mp last value member)
  | some setting =>
      obtain ⟨before, value, after, split, meant, rest⟩ := lastAccepted_means last
      have unused : ∀ other, (key, other) ∈ after → ¬Usable key other := by
        intro other member usable
        refine ConfigHost.accept_usable (checkable (key, other) ?_) (.inl usable)
          (rest other member)
        rw [split]
        exact List.mem_append_right _ (List.mem_cons_of_mem _ member)
      rcases meant with means | ⟨⟨kind, rfl⟩, -⟩
      · exact .inl ⟨before, value, after, setting, split, unused, means, rfl⟩
      · obtain ⟨other, member, usable⟩ := sane before after split kind
        exact absurd usable (unused other member)

/-- The defaults are numbers that are not negative. -/
theorem exists_default (numeric : key ∈ numericKeys) :
    ∃ default, (Double.finite 0).le default = true ∧
      BridgeConfig.setting { socketPath := "" } key = some (.number default) ∧
      ∀ socket merged, (bridgeConfig socket merged).setting key =
        some (.number (numberAt key default merged)) := by
  simp only [numericKeys, List.mem_cons, List.not_mem_nil, or_false] at numeric
  rcases numeric with rfl | rfl | rfl | rfl
  · exact ⟨.finite 30, by decide, rfl, fun _ _ => rfl⟩
  · exact ⟨.finite 3, by decide, rfl, fun _ _ => rfl⟩
  · exact ⟨.finite 300, by decide, rfl, fun _ _ => rfl⟩
  · exact ⟨.finite 1, by decide, rfl, fun _ _ => rfl⟩

theorem setting_number (numeric : key ∈ numericKeys)
    (found : assocGet key merged = lastAccepted host.accept key entries) (socket : String) :
    (bridgeConfig socket merged).setting key =
      (lastAccepted host.accept key entries).or
        (BridgeConfig.setting { socketPath := "" } key) := by
  obtain ⟨default, -, initial, named⟩ := exists_default numeric
  rw [named, initial, numberAt, found]
  cases last : lastAccepted host.accept key entries with
  | none => rfl
  | some setting =>
      obtain ⟨float, rfl⟩ := lastAccepted_number numeric last
      rfl

theorem setting_timer
    (found : assocGet "auto_off_minutes" merged =
      lastAccepted host.accept "auto_off_minutes" entries) (socket : String) :
    (bridgeConfig socket merged).setting "auto_off_minutes" =
      lastAccepted host.accept "auto_off_minutes" entries := by
  change (match assocGet "auto_off_minutes" merged with
    | some (.minutes minutes) => some minutes
    | _ => none).map Setting.minutes = _
  rw [found]
  cases last : lastAccepted host.accept "auto_off_minutes" entries with
  | none => rfl
  | some setting =>
      obtain ⟨minutes, rfl, -⟩ := lastAccepted_timer last
      rfl

theorem setting_text
    (found : assocGet "socket_path" merged = lastAccepted host.accept "socket_path" entries)
    (socket : String) :
    some (.text (bridgeConfig socket merged).socketPath) =
      (lastAccepted host.accept "socket_path" entries).or (some (.text socket)) := by
  change some (Setting.text (match assocGet "socket_path" merged with
    | some (.text path) => path
    | _ => socket)) = _
  rw [found]
  cases last : lastAccepted host.accept "socket_path" entries with
  | none => rfl
  | some setting =>
      obtain ⟨text, rfl⟩ := lastAccepted_text last
      rfl

end Settings

/-- The merged values with the socket of the environment. -/
def withSocket (env : String → Option String) (merged : List (String × Setting)) :
    List (String × Setting) :=
  match env "PHOMEMO_BRIDGE_SOCKET" with
  | some path => assocSet "socket_path" (.text path) merged
  | none => merged

theorem assocGet_withSocket (env : String → Option String) {merged : List (String × Setting)}
    {key : String} (other : key ≠ "socket_path") :
    assocGet key (withSocket env merged) = assocGet key merged := by
  unfold withSocket
  split
  · exact assocGet_assocSet_of_ne (Ne.symm other) _ merged
  · rfl

theorem loadConfig_eq_ok {host : ConfigHost} {paths : Option (List String)}
    {env : String → Option String} {files : List String}
    (listed : host.configPaths paths env = .ok files) {config : BridgeConfig} :
    loadConfig host paths env false = .ok config ↔
      ∃ merged socket, host.mergeFiles false files [] = .ok merged ∧
        host.defaultSocket env = .ok socket ∧
          bridgeConfig socket (withSocket env merged) = config := by
  unfold loadConfig
  rw [listed]
  constructor
  · intro loaded
    obtain ⟨_, same, loaded⟩ := except_bind_eq_ok.mp loaded
    obtain rfl := Except.ok.inj same
    obtain ⟨merged, merges, loaded⟩ := except_bind_eq_ok.mp loaded
    obtain ⟨socket, found, built⟩ := except_bind_eq_ok.mp loaded
    refine ⟨merged, socket, merges, ?_, Except.ok.inj built⟩
    cases defaulted : host.defaultSocket env with
    | error exc =>
        rw [defaulted] at found
        cases found
    | ok path =>
        rw [defaulted] at found
        exact congrArg Except.ok (Except.ok.inj found)
  · rintro ⟨merged, socket, merges, found, rfl⟩
    exact except_bind_eq_ok.mpr ⟨files, rfl, except_bind_eq_ok.mpr ⟨merged, merges,
      except_bind_eq_ok.mpr ⟨socket, by rw [found]; rfl, rfl⟩⟩⟩

/-- The values the files leave, whichever socket the environment names. -/
theorem configRight_of_found {host : ConfigHost} {env : String → Option String}
    {entries : List (String × TomlValue)} {merged : List (String × Setting)} {socket : String}
    (defaulted : host.defaultSocket env = .ok socket)
    (found : ∀ key, assocGet key merged = lastAccepted host.accept key entries)
    (checkable : ∀ entry ∈ entries, Checkable host entry.1 entry.2)
    (overridden : ∀ key ∈ numericKeys, ∀ before after, entries = before ++ (key, .nan) :: after →
      ∃ value, (key, value) ∈ after ∧ Usable key value) :
    ConfigRight host env entries (bridgeConfig socket (withSocket env merged)) := by
  have numbers : ∀ key ∈ numericKeys, Layered entries key
      ((bridgeConfig socket (withSocket env merged)).setting key)
      (BridgeConfig.setting { socketPath := "" } key) := by
    intro key numeric
    have other : key ≠ "socket_path" := by
      rintro rfl
      exact absurd numeric (by decide)
    rw [setting_number numeric ((assocGet_withSocket env other).trans (found key))]
    exact lastAccepted_layered checkable (fun before after split _ =>
      overridden key numeric before after split) _
  have kept : assocGet "auto_off_minutes" (withSocket env merged) =
      lastAccepted host.accept "auto_off_minutes" entries :=
    (assocGet_withSocket env (by decide)).trans (found "auto_off_minutes")
  have timer := setting_timer kept socket
  refine ⟨fun key numeric => ?_, fun minutes set => ?_, List.forall_mem_cons.mpr ⟨?_, numbers⟩, ?_⟩
  · rcases numbers key numeric with ⟨before, value, after, meant, -, -, means, set⟩ | ⟨-, initial⟩
    · rw [Means, settingKind_numeric numeric] at means
      obtain ⟨-, float, -, -, nonneg, rfl⟩ := means
      exact ⟨float, set, nonneg⟩
    · obtain ⟨default, nonneg, same, -⟩ := exists_default numeric
      exact ⟨default, initial.trans same, nonneg⟩
  · have last : lastAccepted host.accept "auto_off_minutes" entries = some (.minutes minutes) := by
      rw [← timer]
      exact congrArg (Option.map Setting.minutes) set
    obtain ⟨_, same, valid⟩ := lastAccepted_timer last
    obtain rfl := Setting.minutes.inj same
    exact valid
  · rw [timer]
    have layered : Layered entries "auto_off_minutes"
        ((lastAccepted host.accept "auto_off_minutes" entries).or none) none :=
      lastAccepted_layered checkable (fun _ _ _ kind => by cases kind) none
    rw [Option.or_none] at layered
    exact layered
  · cases named : env "PHOMEMO_BRIDGE_SOCKET" with
    | some path =>
        have overridden : withSocket env merged = assocSet "socket_path" (.text path) merged := by
          rw [withSocket, named]
        rw [overridden, bridgeConfig, assocGet_assocSet_self]
    | none =>
        have unchanged : withSocket env merged = merged := by
          rw [withSocket, named]
        refine ⟨socket, defaulted, ?_⟩
        rw [unchanged, setting_text (found "socket_path")]
        exact lastAccepted_layered checkable (fun _ _ _ kind => by cases kind) _

/-- A `nan` that nothing overrides is what the key is set to. -/
theorem lastAccepted_nan {host : ConfigHost} {key : String} (numeric : key ∈ numericKeys)
    {entries before after : List (String × TomlValue)}
    (checkable : ∀ entry ∈ entries, Checkable host entry.1 entry.2)
    (split : entries = before ++ (key, .nan) :: after)
    (unused : ∀ value, (key, value) ∈ after → ¬Usable key value) :
    lastAccepted host.accept key entries = some (.number .nan) := by
  have kind := settingKind_numeric numeric
  have slips : host.accept key .nan = some (.number .nan) := by
    have member : (key, TomlValue.nan) ∈ entries := by simp [split]
    obtain ⟨setting, accepted⟩ := Option.ne_none_iff_exists'.mp
      (ConfigHost.accept_usable (checkable _ member) (.inr ⟨kind, rfl⟩))
    rcases ConfigHost.accept_means accepted with means | ⟨-, rfl⟩
    · rw [Means, kind] at means
      obtain ⟨number, float, isNumber, converted, nonneg, -⟩ := means
      cases isNumber
      cases converted
      cases nonneg
    · exact accepted
  rw [split, lastAccepted_append, lastAccepted, if_pos rfl, slips]
  cases last : lastAccepted host.accept key after with
  | none => rfl
  | some setting =>
      obtain ⟨first, value, rest, rfl, means | ⟨-, rfl⟩, -⟩ := lastAccepted_means last
      · exact absurd ⟨setting, means⟩ (unused value (by simp))
      · rfl

/-- The configuration loads and is right exactly if nothing in the files raises and no `nan` is the
last number of its key. -/
theorem loadConfig_right_iff (host : ConfigHost) (paths : Option (List String))
    (env : String → Option String) :
    (∃ files config, host.configPaths paths env = .ok files ∧
        loadConfig host paths env false = .ok config ∧
        ConfigRight host env (host.configEntries files) config) ↔
      ∃ files, host.configPaths paths env = .ok files ∧ Loads host files := by
  constructor
  · rintro ⟨files, config, listed, loaded, right⟩
    obtain ⟨merged, socket, merges, defaulted, rfl⟩ := (loadConfig_eq_ok listed).mp loaded
    obtain ⟨readable, checkable⟩ := ConfigHost.mergeFiles_only merges
    refine ⟨files, listed, readable, checkable, ?_, ?_⟩
    · intro key numeric before after split
      by_contra unused
      push Not at unused
      have last := lastAccepted_nan numeric checkable split unused
      obtain ⟨_, again, found⟩ := ConfigHost.mergeFiles_ok [] readable checkable
      obtain rfl := Except.ok.inj (merges.symm.trans again)
      have other : key ≠ "socket_path" := by
        rintro rfl
        exact absurd numeric (by decide)
      have same := (assocGet_withSocket env other).trans ((found key).trans (Option.or_none ..))
      obtain ⟨float, set, nonneg⟩ := right.numeric key numeric
      rw [setting_number numeric same, last] at set
      cases set
      cases nonneg
    · obtain ⟨present, looked, -⟩ := except_map_eq_ok.mp defaulted
      exact ⟨present, looked⟩
  · rintro ⟨files, listed, loads⟩
    obtain ⟨merged, merges, found⟩ :=
      ConfigHost.mergeFiles_ok [] loads.readable loads.checkable
    obtain ⟨present, looked⟩ := loads.socket
    have defaulted : ∃ socket, host.defaultSocket env = .ok socket := by
      unfold ConfigHost.defaultSocket
      rw [looked]
      exact ⟨_, rfl⟩
    obtain ⟨socket, defaulted⟩ := defaulted
    exact ⟨files, _, listed, (loadConfig_eq_ok listed).mpr ⟨merged, socket, merges, defaulted, rfl⟩,
      configRight_of_found defaulted (fun key => (found key).trans (Option.or_none ..))
        loads.checkable loads.overridden⟩

/-- A host whose only file holds one entry. -/
def oneEntry (key : String) (value : TomlValue) : ConfigHost where
  repr _ := .ok "nan"
  expanduser path := .ok path
  isFile path := .ok (path == "bridge.toml")
  exists_ _ := .ok false
  load _ := .data [(key, value)]

/-- `auto_off_minutes = nan` keeps the configuration from loading, and `settle_seconds = nan` is
taken as the settling time. -/
theorem nan_slips_in :
    loadConfig (oneEntry "auto_off_minutes" .nan) (some ["bridge.toml"]) (fun _ => none) false =
        .error (.raised (.valueError "cannot convert float NaN to integer")) ∧
      (loadConfig (oneEntry "settle_seconds" .nan) (some ["bridge.toml"]) (fun _ => none) false).map
        BridgeConfig.settleSeconds = .ok .nan := by
  constructor <;> rfl

end Phomemo
