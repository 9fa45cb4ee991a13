import Mathlib.Data.List.Infix
import Phomemo.Binary64
import Phomemo.Protocol

/-!
# Printer profiles

The geometry and link settings of a printer model, the registry of models, and the choice of a
model by advertised name and serial.
-/

namespace Phomemo

open Binary64

/-! ## Conversions -/

/-- `float(value)` of an integer. -/
def floatOfInt (value : Int) : Except PyExc Double :=
  match Double.ofRat value with
  | .infinite _ => .error (.overflowError "int too large to convert to float")
  | float => .ok float

/-- `int(value)` of a float. -/
def intOfFloat : Double → Except PyExc Int
  | .finite value => .ok (truncate value)
  | .infinite _ => .error (.overflowError "cannot convert float infinity to integer")
  | .nan => .error (.valueError "cannot convert float NaN to integer")

/-- `round(value)` of a float. -/
def roundFloat : Double → Except PyExc Int
  | .finite value => .ok (roundHalfEven value)
  | .infinite _ => .error (.overflowError "cannot convert float infinity to integer")
  | .nan => .error (.valueError "cannot convert float NaN to integer")

/-! ## Profiles -/

/-- The parameters two profiles must share to share a connection. -/
structure BleSettings where
  serviceUuid : String
  writeUuid : String
  notifyUuid : String
  statusUuid : String
  maxChunkBytes : Int
  negotiateMtu : Bool
  writeWithResponse : Bool
  chunkDelayS : ℚ
  deriving DecidableEq

/-- Hardware and protocol parameters of a printer model.  The proofs are the checks
`__post_init__` makes on the numbers; a length is the double nearest to its number. -/
structure PrinterProfile where
  /-- Model identifier, the registry key. -/
  name : String
  /-- Regular expression searched in advertised names. -/
  bleNamePattern : String
  /-- Head width in dots. -/
  printWidthPx : Int
  /-- Substrings of the serial that mark the model. -/
  serialCodes : List String := []
  /-- Dots per inch. -/
  dpi : Int := 203
  /-- Largest write when no MTU is read. -/
  maxChunkBytes : Int := 244
  /-- Whether the MTU is read at connect time. -/
  negotiateMtu : Bool := true
  /-- Whether writes wait for the printer's response. -/
  writeWithResponse : Bool := true
  /-- Pause between unacknowledged writes, in seconds. -/
  chunkDelayS : ℚ := 0
  /-- Largest number of rows in one raster command. -/
  bandHeight : Int := 256
  /-- Sheet length in millimetres, `none` for roll media. -/
  sheetLengthMm : Option ℚ := none
  /-- Unprintable lead. -/
  topMarginMm : ℚ := 0
  /-- Rows kept free at the sheet end. -/
  bottomMarginMm : ℚ := 0
  serviceUuid : String := "0000ff00-0000-1000-8000-00805f9b34fb"
  writeUuid : String := "0000ff02-0000-1000-8000-00805f9b34fb"
  notifyUuid : String := "0000ff01-0000-1000-8000-00805f9b34fb"
  statusUuid : String := "0000ff03-0000-1000-8000-00805f9b34fb"
  /-- Concentration values of the three densities, `none` without density control. -/
  densityLevels : Option (Int × Int × Int) := none
  width_aligned : printWidthPx % 8 = 0
  sheet_printable : ∀ length ∈ sheetLengthMm, 0 < length ∧
    (Double.ofRat length).le ((Double.ofRat topMarginMm).add (.ofRat bottomMarginMm)) = false
  deriving DecidableEq

namespace PrinterProfile

/-- Roll media without margins has no sheet to fit into. -/
theorem sheetless_printable : ∀ length ∈ (none : Option ℚ), 0 < length ∧
    (Double.ofRat length).le ((Double.ofRat 0).add (.ofRat 0)) = false := by
  simp

/-- `25.4`, the millimetres of an inch. -/
def inch : Double := .ofRat (127 / 5)

/-- Print width in bytes. -/
def widthBytes (profile : PrinterProfile) : Int := profile.printWidthPx / 8

/-- Dot rows between the margins of a sheet of the given length, `none` for roll media. -/
def rowsFor (profile : PrinterProfile) (lengthMm : Option ℚ) : Except PyExc (Option Int) :=
  match lengthMm with
  | none => .ok none
  | some length =>
      let printable :=
        ((Double.ofRat length).sub (.ofRat profile.topMarginMm)).sub (.ofRat profile.bottomMarginMm)
      if printable.le (.finite 0) then
        .error (.valueError s!"sheet of {length}mm leaves nothing printable after the margins")
      else do
        let dpi ← floatOfInt profile.dpi
        let rows ← intOfFloat ((printable.div inch).mul dpi)
        return some rows

/-- Rows covered by the top margin. -/
def leadRows (profile : PrinterProfile) : Except PyExc Int := do
  let dpi ← floatOfInt profile.dpi
  roundFloat (((Double.ofRat profile.topMarginMm).div inch).mul dpi)

/-- The parameters the Bluetooth connection is set up with. -/
def bleSettings (profile : PrinterProfile) : BleSettings where
  serviceUuid := profile.serviceUuid
  writeUuid := profile.writeUuid
  notifyUuid := profile.notifyUuid
  statusUuid := profile.statusUuid
  maxChunkBytes := profile.maxChunkBytes
  negotiateMtu := profile.negotiateMtu
  writeWithResponse := profile.writeWithResponse
  chunkDelayS := profile.chunkDelayS

/-- Whether one of the model's codes occurs in the serial. -/
def matchesSerial (profile : PrinterProfile) (serial : String) : Bool :=
  profile.serialCodes.any fun code => contains code serial

/-- The model's concentration value for a density. -/
def densityValue (profile : PrinterProfile) (level : Density) : Option Int :=
  match profile.densityLevels, level with
  | none, _ => none
  | some (low, _, _), .low => some low
  | some (_, medium, _), .medium => some medium
  | some (_, _, high), .high => some high

/-- The profile's numbers fit the command fields they are sent in. -/
structure Fits (profile : PrinterProfile) : Prop where
  bandHeight_pos : 1 ≤ profile.bandHeight
  bandHeight_lt : profile.bandHeight < 65536
  widthBytes_pos : 1 ≤ profile.widthBytes
  widthBytes_lt : profile.widthBytes < 65536
  density_nonneg : ∀ level, ∀ value ∈ profile.densityValue level, 0 ≤ value
  density_lt : ∀ level, ∀ value ∈ profile.densityValue level, value < 256

end PrinterProfile

theorem m08f_printable : ∀ length ∈ some (297 : ℚ), 0 < length ∧
    (Double.ofRat length).le ((Double.ofRat 10).add (.ofRat 5)) = false := by
  decide +kernel

/-- The M08F, as `models/m08f/model.json` describes it. -/
def m08f : PrinterProfile where
  name := "m08f"
  bleNamePattern := "^M08F"
  printWidthPx := 1680
  sheetLengthMm := some 297
  topMarginMm := 10
  bottomMarginMm := 5
  writeUuid := "00000000-0000-0000-0000-00000000ff02"
  notifyUuid := "00000000-0000-0000-0000-00000000ff01"
  statusUuid := "00000000-0000-0000-0000-00000000ff03"
  densityLevels := some (1, 5, 6)
  width_aligned := by decide
  sheet_printable := m08f_printable

/-- The exact product of the sheet of 40.4 mm is below 203. -/
example : m08f.rowsFor (some (202 / 5)) = .ok (some 203) := by
  decide +kernel

theorem m08f_fits : m08f.Fits where
  bandHeight_pos := by decide
  bandHeight_lt := by decide
  widthBytes_pos := by decide
  widthBytes_lt := by decide
  density_nonneg := by
    intro level value valued
    cases level <;> · obtain rfl := Option.some.inj valued; decide
  density_lt := by
    intro level value valued
    cases level <;> · obtain rfl := Option.some.inj valued; decide

/-- A model with a head of one byte and no margins. -/
def strip : PrinterProfile where
  name := "strip"
  bleNamePattern := "^S"
  printWidthPx := 8
  width_aligned := by decide
  sheet_printable := PrinterProfile.sheetless_printable

theorem strip_fits : strip.Fits where
  bandHeight_pos := by decide
  bandHeight_lt := by decide
  widthBytes_pos := by decide
  widthBytes_lt := by decide
  density_nonneg := by
    intro level value valued
    cases level <;> cases valued
  density_lt := by
    intro level value valued
    cases level <;> cases valued

/-- Patterns that any name matches. -/
def anyName (_ : String) : Except String (String → Bool) := .ok fun _ => true

theorem anyName_compiles (profiles : List PrinterProfile) :
    ∀ profile ∈ profiles, ∃ search, anyName profile.bleNamePattern = .ok search :=
  fun _ _ => ⟨_, rfl⟩

theorem strip_compiles :
    ∀ profile ∈ [strip], ∃ search, anyName profile.bleNamePattern = .ok search :=
  anyName_compiles [strip]

theorem PrinterProfile.singleton_nodup (profile : PrinterProfile) :
    ([profile].map PrinterProfile.name).Nodup :=
  List.nodup_singleton _

/-- The registered profiles in identifier order, together with the regular expressions of their
name patterns. -/
structure Registry where
  /-- `_REGISTRY[key] for key in sorted(_REGISTRY)`. -/
  profiles : List PrinterProfile
  /-- `re.compile(pattern)`: its search in a name, or what is wrong with the pattern. -/
  compile : String → Except String (String → Bool)
  /-- A name is registered once. -/
  names_nodup : (profiles.map PrinterProfile.name).Nodup
  /-- A registered pattern is a regular expression. -/
  compiles : ∀ profile ∈ profiles, ∃ search, compile profile.bleNamePattern = .ok search

namespace Registry

variable (registry : Registry)

/-- The registered profile of that name. -/
def getProfile (name : String) : Option PrinterProfile :=
  registry.profiles.find? fun profile => profile.name = name

/-- `re.search(pattern, name)` for a pattern that compiles. -/
def search (pattern name : String) : Bool :=
  match registry.compile pattern with
  | .ok found => found name
  | .error _ => false

/-- The pattern of all models together. -/
def joinedPattern : String :=
  "|".intercalate (registry.profiles.map fun profile => s!"(?:{profile.bleNamePattern})")

/-- The patterns of the models, joined, are a regular expression. -/
def Joins : Prop := ∃ search, registry.compile registry.joinedPattern = .ok search

theorem Joins.not_error {registry : Registry} (joined : registry.Joins) (text : String) :
    registry.compile registry.joinedPattern ≠ .error text := by
  obtain ⟨search, compiled⟩ := joined
  rw [compiled]
  exact nofun

instance : Decidable registry.Joins :=
  match compiled : registry.compile registry.joinedPattern with
  | .ok search => .isTrue ⟨search, compiled⟩
  | .error text => .isFalse fun joined => joined.not_error text compiled

/-- What a scan for every model raises: Bluetooth fails, or the joined pattern does not compile. -/
inductive ScanRaises : PyExc → Prop where
  | connection (text : String) : ScanRaises (.connectionError text)
  | pattern {text : String} (malformed : registry.compile registry.joinedPattern = .error text) :
      ScanRaises (.patternError text)

/-- The names of all registered profiles. -/
def listProfiles : List String :=
  registry.profiles.map PrinterProfile.name

/-- Every profile whose name pattern matches an advertised name. -/
def profilesForName (bleName : Option String) : List PrinterProfile :=
  match bleName with
  | none => []
  | some name =>
      if name = "" then []
      else registry.profiles.filter fun profile => registry.search profile.bleNamePattern name

/-- The candidate one of whose codes occurs in the serial. -/
def bySerial (candidates : List PrinterProfile) : Option String → Option PrinterProfile
  | none => none
  | some serial =>
      if serial = "" then none
      else candidates.find? fun profile => profile.matchesSerial serial

/-- The profile of a printer by advertised name and serial. -/
def profileForName (bleName : Option String) (serial : Option String) : Option PrinterProfile :=
  match registry.profilesForName bleName with
  | [] => none
  | first :: others =>
      match bySerial (first :: others) serial with
      | some profile => some profile
      | none =>
          match (first :: others).find? fun profile => profile.serialCodes.isEmpty with
          | some profile => some profile
          | none => some first

theorem getProfile_name {name : String} {profile : PrinterProfile}
    (found : registry.getProfile name = some profile) : profile.name = name := by
  simpa using List.find?_some found

theorem getProfile_mem {name : String} {profile : PrinterProfile}
    (found : registry.getProfile name = some profile) : profile ∈ registry.profiles :=
  List.mem_of_find?_eq_some found

/-- A registered profile is found under its name. -/
theorem getProfile_of_mem {profile : PrinterProfile} (member : profile ∈ registry.profiles) :
    registry.getProfile profile.name = some profile := by
  have unique := registry.names_nodup
  unfold getProfile
  generalize registry.profiles = profiles at member unique
  induction profiles with
  | nil => cases member
  | cons first others ih =>
      rw [List.map_cons, List.nodup_cons] at unique
      rcases List.mem_cons.mp member with rfl | later
      · simp
      · have other : first.name ≠ profile.name := fun same =>
          unique.1 (same ▸ List.mem_map_of_mem later)
        rw [List.find?_cons_of_neg (by simpa using other)]
        exact ih later unique.2

/-- A listed name has a profile. -/
theorem getProfile_isSome {name : String} (listed : name ∈ registry.listProfiles) :
    ∃ profile, registry.getProfile name = some profile := by
  obtain ⟨profile, member, named⟩ := List.mem_map.mp listed
  have found : (registry.getProfile name).isSome := by
    rw [getProfile, List.find?_isSome]
    exact ⟨profile, member, by simpa using named⟩
  exact Option.isSome_iff_exists.mp found

theorem profilesForName_subset (bleName : Option String) :
    ∀ profile ∈ registry.profilesForName bleName, profile ∈ registry.profiles := by
  intro profile member
  cases bleName with
  | none => simp [profilesForName] at member
  | some name =>
      simp only [profilesForName] at member
      split at member
      · simp at member
      · exact List.mem_of_mem_filter member

/-- The chosen profile is one of the candidates of the name. -/
theorem profileForName_mem {bleName serial : Option String} {profile : PrinterProfile}
    (chosen : registry.profileForName bleName serial = some profile) :
    profile ∈ registry.profilesForName bleName := by
  unfold profileForName at chosen
  cases candidates : registry.profilesForName bleName with
  | nil => simp [candidates] at chosen
  | cons first others =>
      simp only [candidates] at chosen
      cases coded : bySerial (first :: others) serial with
      | some other =>
          simp only [coded, Option.some.injEq] at chosen
          subst chosen
          cases serial with
          | none => simp [bySerial] at coded
          | some text =>
              simp only [bySerial] at coded
              split at coded
              · simp at coded
              · exact List.mem_of_find?_eq_some coded
      | none =>
          simp only [coded] at chosen
          cases plain : (first :: others).find? fun profile => profile.serialCodes.isEmpty with
          | none =>
              simp only [plain, Option.some.injEq] at chosen
              simp [chosen]
          | some other =>
              simp only [plain, Option.some.injEq] at chosen
              subst chosen
              exact List.mem_of_find?_eq_some plain

end Registry

end Phomemo
