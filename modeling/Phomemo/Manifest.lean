import Phomemo.Registry

/-!
# Model manifests

`load_manifest` builds a profile from the `model.json` of a model.  Floats are doubles here, as
Python holds them.
-/

namespace Phomemo

open Binary64

/-! ## Numbers -/

/-- A JSON number. -/
inductive Number where
  | int (value : Int)
  | float (text : String)

/-- The number a row of digits stands for. -/
def digitsValue (digits : List Char) : Nat :=
  digits.foldl (fun value digit => 10 * value + (digit.toNat - '0'.toNat)) 0

/-- The number behind the `e` of a JSON number. -/
def exponentValue : List Char → Int
  | [] => 0
  | _ :: '-' :: digits => -digitsValue digits
  | _ :: '+' :: digits => digitsValue digits
  | _ :: digits => digitsValue digits

/-- The value of the text of a JSON number. -/
def decimalValue (text : String) : ℚ :=
  let (negative, unsigned) := match text.toList with
    | '-' :: rest => (true, rest)
    | rest => (false, rest)
  let whole := unsigned.takeWhile Char.isDigit
  let (fraction, rest) := match unsigned.dropWhile Char.isDigit with
    | '.' :: rest => (rest.takeWhile Char.isDigit, rest.dropWhile Char.isDigit)
    | rest => ([], rest)
  let value := digitsValue (whole ++ fraction) * power 10 (exponentValue rest - fraction.length)
  if negative then -value else value

/-- The double nearest to a number. -/
def Number.toDouble : Number → Double
  | int value => Double.ofRat value
  | float text => Double.ofRat (decimalValue text)

/-- `float(value)`: an integer that is too large is refused, a float has become infinite. -/
def Number.toFloat (number : Number) : Except PyExc Double :=
  match number, number.toDouble with
  | int _, .infinite _ => .error (.overflowError "int too large to convert to float")
  | _, value => .ok value

/-! ## Fields -/

/-- What the reader takes from Python: its JSON parser, with the text of the error, and `repr`. -/
structure ManifestEnv where
  loads : String → Except String Json
  repr : Json → String
  reprFloat : Double → String

/-- A kind of field: the names of its Python types, and the values that are instances of them.  A
boolean is no number here. -/
structure Kind (α : Type) where
  types : List String
  read : Json → Option α

namespace Kind

def str : Kind String where
  types := ["str"]
  read
    | .str value => some value
    | _ => none

def int : Kind Int where
  types := ["int"]
  read
    | .int value => some value
    | _ => none

def number : Kind Number where
  types := ["int", "float"]
  read
    | .int value => some (.int value)
    | .float text => some (.float text)
    | _ => none

def bool : Kind Bool where
  types := ["bool"]
  read
    | .bool value => some value
    | _ => none

def list : Kind (List Json) where
  types := ["list"]
  read
    | .arr items => some items
    | _ => none

def dict : Kind Fields where
  types := ["dict"]
  read
    | .obj fields => some fields
    | _ => none

end Kind

/-- `_field`: the value of a key, which must be there and of the kind. -/
def field {α : Type} (env : ManifestEnv) (location : String) (data : Fields) (key : String)
    (kind : Kind α) : Except PyExc α :=
  match assocGet key data with
  | none => .error (.valueError s!"{location}: {key}: missing")
  | some value =>
      match kind.read value with
      | some held => .ok held
      | none =>
          let expected := " or ".intercalate kind.types
          let shown := env.repr value
          .error (.valueError s!"{location}: {key}: expected {expected}, got {shown}")

/-- The fields of `_FIELDS`. -/
structure ManifestFields where
  id : String
  make : String
  name : String
  bleNamePattern : String
  printWidthPx : Int
  dpi : Int
  bandHeight : Int
  sheetLengthMm : Number
  topMarginMm : Number
  bottomMarginMm : Number
  media : List Json
  ble : Fields

def manifestFields (env : ManifestEnv) (location : String) (data : Fields) :
    Except PyExc ManifestFields := do
  return {
    id := ← field env location data "id" .str
    make := ← field env location data "make" .str
    name := ← field env location data "name" .str
    bleNamePattern := ← field env location data "ble_name_pattern" .str
    printWidthPx := ← field env location data "print_width_px" .int
    dpi := ← field env location data "dpi" .int
    bandHeight := ← field env location data "band_height" .int
    sheetLengthMm := ← field env location data "sheet_length_mm" .number
    topMarginMm := ← field env location data "top_margin_mm" .number
    bottomMarginMm := ← field env location data "bottom_margin_mm" .number
    media := ← field env location data "media" .list
    ble := ← field env location data "ble" .dict }

/-- The fields of `_BLE_FIELDS`. -/
structure BleFields where
  maxChunkBytes : Int
  negotiateMtu : Bool
  writeWithResponse : Bool
  chunkDelayS : Number
  serviceUuid : String
  writeUuid : String
  notifyUuid : String
  statusUuid : String

def bleFields (env : ManifestEnv) (location : String) (data : Fields) :
    Except PyExc BleFields := do
  return {
    maxChunkBytes := ← field env location data "max_chunk_bytes" .int
    negotiateMtu := ← field env location data "negotiate_mtu" .bool
    writeWithResponse := ← field env location data "write_with_response" .bool
    chunkDelayS := ← field env location data "chunk_delay_s" .number
    serviceUuid := ← field env location data "service_uuid" .str
    writeUuid := ← field env location data "write_uuid" .str
    notifyUuid := ← field env location data "notify_uuid" .str
    statusUuid := ← field env location data "status_uuid" .str }

/-- `isinstance(code, str) and code`. -/
def serialCode : Json → Option String
  | .str code => if code = "" then none else some code
  | _ => none

/-- `_serial_codes`. -/
def serialCodes (env : ManifestEnv) (location : String) (data : Fields) :
    Except PyExc (List String) :=
  if (assocGet "serial_codes" data).isNone then .ok []
  else do
    let codes ← field env location data "serial_codes" .list
    match codes.mapM serialCode with
    | some codes => return codes
    | none => throw (.valueError s!"{location}: serial_codes: expected non-empty strings")

/-- The loop of `_media`: all names, and those of the default media. -/
def mediaNames (location : String) : List Json → Except PyExc (List String × List String)
  | [] => .ok ([], [])
  | entry :: entries =>
      match (Kind.dict.read entry).bind fun fields =>
          ((assocGet "pwg" fields).bind Kind.str.read).map fun pwg => (pwg, fields) with
      | none => .error (.valueError s!"{location}: media: expected objects with a pwg name")
      | some (pwg, fields) => do
          let (names, defaults) ← mediaNames location entries
          match assocGet "default" fields with
          | some (.bool true) => return (pwg :: names, pwg :: defaults)
          | _ => return (pwg :: names, defaults)

/-- `_media`. -/
def readMedia (location : String) (entries : List Json) :
    Except PyExc (List String × String) := do
  let (names, defaults) ← mediaNames location entries
  match defaults with
  | [only] => return (names, only)
  | _ => throw (.valueError s!"{location}: media: exactly one default medium needed")

/-- The `density` block of a manifest. -/
def densityLevels (env : ManifestEnv) (location : String) (data : Fields) :
    Except PyExc (Option (Int × Int × Int)) :=
  if (assocGet "density" data).isNone then .ok none
  else do
    let density ← field env location data "density" .dict
    let low ← field env s!"{location}: density" density "low" .int
    let medium ← field env s!"{location}: density" density "medium" .int
    let high ← field env s!"{location}: density" density "high" .int
    return some (low, medium, high)

/-- `bool(value)`. -/
def Json.truthy : Json → Bool
  | .null => false
  | .bool value => value
  | .int value => value ≠ 0
  | .float text => (Number.float text).toDouble ≠ .finite 0
  | .str value => value ≠ ""
  | .arr items => !items.isEmpty
  | .obj fields => !fields.isEmpty

/-! ## Profiles -/

/-- The profile a manifest gives. -/
structure ManifestProfile where
  name : String
  bleNamePattern : String
  serialCodes : List String
  printWidthPx : Int
  dpi : Int
  bandHeight : Int
  sheetLengthMm : Double
  topMarginMm : Double
  bottomMarginMm : Double
  maxChunkBytes : Int
  negotiateMtu : Bool
  writeWithResponse : Bool
  chunkDelayS : Double
  serviceUuid : String
  writeUuid : String
  notifyUuid : String
  statusUuid : String
  densityLevels : Option (Int × Int × Int)
  supportsEscposQueries : Bool
  make : String
  modelName : String
  media : List String
  defaultMedia : String

/-- A digit of a hexadecimal number. -/
def isHexDigit (char : Char) : Bool :=
  char.isDigit || ('a' ≤ char && char ≤ 'f') || ('A' ≤ char && char ≤ 'F')

/-- `_UUID_RE.match(value)`: the end of the pattern also matches before a last line break. -/
def isUuid (value : String) : Bool :=
  let chars := value.toList
  let chars := if chars.getLast? = some '\n' then chars.dropLast else chars
  let groups := chars.splitOn '-'
  groups.map List.length = [8, 4, 4, 4, 12] && groups.all fun group => group.all isHexDigit

/-- `PrinterProfile.__post_init__`. -/
def postInit (env : ManifestEnv) (profile : ManifestProfile) : Except PyExc Unit :=
  let uuids := [("service_uuid", profile.serviceUuid), ("write_uuid", profile.writeUuid),
    ("notify_uuid", profile.notifyUuid), ("status_uuid", profile.statusUuid)]
  if profile.printWidthPx % 8 ≠ 0 then
    .error (.valueError s!"print_width_px must be a multiple of 8, got {profile.printWidthPx}")
  else if profile.sheetLengthMm.le (.finite 0) then
    let shown := env.reprFloat profile.sheetLengthMm
    .error (.valueError s!"sheet_length_mm must be positive or None, got {shown}")
  else if profile.sheetLengthMm.le (profile.topMarginMm.add profile.bottomMarginMm) then
    .error (.valueError "top and bottom margin leave no printable length")
  else
    match uuids.find? fun uuid => !isUuid uuid.2 with
    | some (fieldName, value) =>
        let shown := env.repr (.str value)
        .error (.valueError s!"{fieldName} is not a valid UUID: {shown}")
    | none => .ok ()

/-- The call of `PrinterProfile` that ends `load_manifest`. -/
def makeProfile (env : ManifestEnv) (location : String) (data features : Fields)
    (values : ManifestFields) (ble : BleFields) (media : List String × String)
    (density : Option (Int × Int × Int)) : Except PyExc ManifestProfile := do
  let profile : ManifestProfile := {
    name := values.id
    bleNamePattern := values.bleNamePattern
    serialCodes := ← serialCodes env location data
    printWidthPx := values.printWidthPx
    dpi := values.dpi
    bandHeight := values.bandHeight
    sheetLengthMm := ← values.sheetLengthMm.toFloat
    topMarginMm := ← values.topMarginMm.toFloat
    bottomMarginMm := ← values.bottomMarginMm.toFloat
    maxChunkBytes := ble.maxChunkBytes
    negotiateMtu := ble.negotiateMtu
    writeWithResponse := ble.writeWithResponse
    chunkDelayS := ← ble.chunkDelayS.toFloat
    serviceUuid := ble.serviceUuid
    writeUuid := ble.writeUuid
    notifyUuid := ble.notifyUuid
    statusUuid := ble.statusUuid
    densityLevels := density
    supportsEscposQueries := ((assocGet "escpos_queries" features).getD (.bool false)).truthy
    make := values.make
    modelName := values.name
    media := media.1
    defaultMedia := media.2 }
  postInit env profile
  return profile

/-- `load_manifest`: `path` is the file, `directory` the name of the model's directory. -/
def loadManifest (env : ManifestEnv) (path directory text : String) :
    Except PyExc ManifestProfile :=
  match env.loads text with
  | .error message => .error (.valueError s!"{path}: {message}")
  | .ok (.obj data) => do
      let values ← manifestFields env path data
      if values.id ≠ directory then
        let shown := env.repr (.str values.id)
        let other := env.repr (.str directory)
        throw (.valueError s!"{path}: id: {shown} differs from the directory {other}")
      else
        let ble ← bleFields env s!"{path}: ble" values.ble
        match Kind.dict.read ((assocGet "features" data).getD (.obj [])) with
        | none => throw (.valueError s!"{path}: features: expected an object")
        | some features =>
            let media ← readMedia path values.media
            let density ← densityLevels env path data
            makeProfile env path data features values ble media density
  | .ok _ => .error (.valueError s!"{path}: expected an object")

/-! ## What was read -/

theorem field_eq_ok {α : Type} {env : ManifestEnv} {location key : String} {data : Fields}
    {kind : Kind α} {held : α} (found : field env location data key kind = .ok held) :
    ∃ value, assocGet key data = some value ∧ kind.read value = some held := by
  unfold field at found
  cases present : assocGet key data with
  | none => simp [present] at found
  | some value =>
      simp only [present] at found
      cases read : kind.read value with
      | none => simp [read] at found
      | some other =>
          simp only [read] at found
          exact ⟨value, rfl, read.trans (congrArg some (Except.ok.inj found))⟩

theorem Kind.read_str {value : Json} {held : String} (read : Kind.str.read value = some held) :
    value = .str held := by
  cases value <;> simp_all [Kind.str]

theorem Kind.read_int {value : Json} {held : Int} (read : Kind.int.read value = some held) :
    value = .int held := by
  cases value <;> simp_all [Kind.int]

theorem Kind.read_list {value : Json} {held : List Json}
    (read : Kind.list.read value = some held) : value = .arr held := by
  cases value <;> simp_all [Kind.list]

theorem Kind.read_dict {value : Json} {held : Fields} (read : Kind.dict.read value = some held) :
    value = .obj held := by
  cases value <;> simp_all [Kind.dict]

theorem Number.toFloat_eq_ok {number : Number} {value : Double}
    (converted : number.toFloat = .ok value) : number.toDouble = value := by
  unfold toFloat at converted
  split at converted
  · cases converted
  · exact Except.ok.inj converted

/-- The values of a profile stand in the manifest. -/
structure ManifestProfile.ReadFrom (profile : ManifestProfile) (path directory : String)
    (data : Fields) : Prop where
  named : profile.name = directory
  id : assocGet "id" data = some (.str profile.name)
  make : assocGet "make" data = some (.str profile.make)
  modelName : assocGet "name" data = some (.str profile.modelName)
  printWidthPx : assocGet "print_width_px" data = some (.int profile.printWidthPx)
  dpi : assocGet "dpi" data = some (.int profile.dpi)
  topMarginMm : ∃ value number, assocGet "top_margin_mm" data = some value ∧
    Kind.number.read value = some number ∧ number.toDouble = profile.topMarginMm
  bottomMarginMm : ∃ value number, assocGet "bottom_margin_mm" data = some value ∧
    Kind.number.read value = some number ∧ number.toDouble = profile.bottomMarginMm
  media : ∃ entries, assocGet "media" data = some (.arr entries) ∧
    readMedia path entries = .ok (profile.media, profile.defaultMedia)

/-- What `_FIELDS` and the call of `PrinterProfile` make of a manifest. -/
theorem manifestFields_eq_ok {env : ManifestEnv} {location : String} {data : Fields}
    {values : ManifestFields} (read : manifestFields env location data = .ok values) :
    assocGet "id" data = some (.str values.id) ∧
    assocGet "make" data = some (.str values.make) ∧
    assocGet "name" data = some (.str values.name) ∧
    assocGet "print_width_px" data = some (.int values.printWidthPx) ∧
    assocGet "dpi" data = some (.int values.dpi) ∧
    (∃ value, assocGet "top_margin_mm" data = some value ∧
      Kind.number.read value = some values.topMarginMm) ∧
    (∃ value, assocGet "bottom_margin_mm" data = some value ∧
      Kind.number.read value = some values.bottomMarginMm) ∧
    assocGet "media" data = some (.arr values.media) := by
  unfold manifestFields at read
  obtain ⟨id, idRead, read⟩ := except_bind_eq_ok.mp read
  obtain ⟨make, makeRead, read⟩ := except_bind_eq_ok.mp read
  obtain ⟨name, nameRead, read⟩ := except_bind_eq_ok.mp read
  obtain ⟨pattern, -, read⟩ := except_bind_eq_ok.mp read
  obtain ⟨width, widthRead, read⟩ := except_bind_eq_ok.mp read
  obtain ⟨dpi, dpiRead, read⟩ := except_bind_eq_ok.mp read
  obtain ⟨band, -, read⟩ := except_bind_eq_ok.mp read
  obtain ⟨sheet, -, read⟩ := except_bind_eq_ok.mp read
  obtain ⟨top, topRead, read⟩ := except_bind_eq_ok.mp read
  obtain ⟨bottom, bottomRead, read⟩ := except_bind_eq_ok.mp read
  obtain ⟨media, mediaRead, read⟩ := except_bind_eq_ok.mp read
  obtain ⟨ble, -, read⟩ := except_bind_eq_ok.mp read
  obtain rfl := Except.ok.inj read
  have strings : ∀ {key : String} {held : String}, field env location data key .str = .ok held →
      assocGet key data = some (.str held) := by
    intro key held found
    obtain ⟨value, present, isStr⟩ := field_eq_ok found
    rwa [Kind.read_str isStr] at present
  have ints : ∀ {key : String} {held : Int}, field env location data key .int = .ok held →
      assocGet key data = some (.int held) := by
    intro key held found
    obtain ⟨value, present, isInt⟩ := field_eq_ok found
    rwa [Kind.read_int isInt] at present
  obtain ⟨value, present, isList⟩ := field_eq_ok mediaRead
  rw [Kind.read_list isList] at present
  exact ⟨strings idRead, strings makeRead, strings nameRead, ints widthRead, ints dpiRead,
    field_eq_ok topRead, field_eq_ok bottomRead, present⟩

/-- What the profile takes over from the fields. -/
theorem makeProfile_eq_ok {env : ManifestEnv} {location : String} {data features : Fields}
    {values : ManifestFields} {ble : BleFields} {media : List String × String}
    {density : Option (Int × Int × Int)} {profile : ManifestProfile}
    (made : makeProfile env location data features values ble media density = .ok profile) :
    profile.name = values.id ∧ profile.make = values.make ∧ profile.modelName = values.name ∧
    profile.printWidthPx = values.printWidthPx ∧ profile.dpi = values.dpi ∧
    values.topMarginMm.toDouble = profile.topMarginMm ∧
    values.bottomMarginMm.toDouble = profile.bottomMarginMm ∧
    (profile.media, profile.defaultMedia) = media := by
  unfold makeProfile at made
  obtain ⟨codes, -, made⟩ := except_bind_eq_ok.mp made
  obtain ⟨sheet, -, made⟩ := except_bind_eq_ok.mp made
  obtain ⟨top, topRead, made⟩ := except_bind_eq_ok.mp made
  obtain ⟨bottom, bottomRead, made⟩ := except_bind_eq_ok.mp made
  obtain ⟨delay, -, made⟩ := except_bind_eq_ok.mp made
  obtain ⟨_, -, made⟩ := except_bind_eq_ok.mp made
  obtain rfl := Except.ok.inj made
  exact ⟨rfl, rfl, rfl, rfl, rfl, Number.toFloat_eq_ok topRead, Number.toFloat_eq_ok bottomRead,
    rfl⟩

/-- A profile that was made has passed its own checks. -/
theorem makeProfile_checked {env : ManifestEnv} {location : String} {data features : Fields}
    {values : ManifestFields} {ble : BleFields} {media : List String × String}
    {density : Option (Int × Int × Int)} {profile : ManifestProfile}
    (made : makeProfile env location data features values ble media density = .ok profile) :
    postInit env profile = .ok () := by
  unfold makeProfile at made
  obtain ⟨codes, -, made⟩ := except_bind_eq_ok.mp made
  obtain ⟨sheet, -, made⟩ := except_bind_eq_ok.mp made
  obtain ⟨top, -, made⟩ := except_bind_eq_ok.mp made
  obtain ⟨bottom, -, made⟩ := except_bind_eq_ok.mp made
  obtain ⟨delay, -, made⟩ := except_bind_eq_ok.mp made
  obtain ⟨_, checked, made⟩ := except_bind_eq_ok.mp made
  obtain rfl := Except.ok.inj made
  exact checked

/-- The steps of a `load_manifest` that returns. -/
theorem loadManifest_makes {env : ManifestEnv} {path directory text : String}
    {profile : ManifestProfile} (loaded : loadManifest env path directory text = .ok profile) :
    ∃ data features values ble media density, env.loads text = .ok (.obj data) ∧
      manifestFields env path data = .ok values ∧ values.id = directory ∧
      readMedia path values.media = .ok media ∧
      makeProfile env path data features values ble media density = .ok profile := by
  unfold loadManifest at loaded
  split at loaded
  · cases loaded
  · rename_i data parsed
    obtain ⟨values, read, loaded⟩ := except_bind_eq_ok.mp loaded
    by_cases named : values.id ≠ directory
    · rw [if_pos named] at loaded
      cases loaded
    · rw [if_neg named] at loaded
      obtain ⟨ble, -, loaded⟩ := except_bind_eq_ok.mp loaded
      cases object : Kind.dict.read ((assocGet "features" data).getD (.obj [])) with
      | none =>
          rw [object] at loaded
          cases loaded
      | some features =>
          rw [object] at loaded
          obtain ⟨media, mediaRead, loaded⟩ := except_bind_eq_ok.mp loaded
          obtain ⟨density, -, loaded⟩ := except_bind_eq_ok.mp loaded
          exact ⟨data, features, values, ble, media, density, parsed, read, not_not.mp named,
            mediaRead, loaded⟩
  · cases loaded

theorem loadManifest_reads {env : ManifestEnv} {path directory text : String}
    {profile : ManifestProfile} (loaded : loadManifest env path directory text = .ok profile) :
    ∃ data, env.loads text = .ok (.obj data) ∧ profile.ReadFrom path directory data := by
  obtain ⟨data, features, values, ble, media, density, parsed, read, named, mediaRead, made⟩ :=
    loadManifest_makes loaded
  obtain ⟨id, make, name, width, dpi, ⟨top, topAt, topRead⟩, ⟨bottom, bottomAt, bottomRead⟩,
    entries⟩ := manifestFields_eq_ok read
  obtain ⟨sameName, sameMake, sameModel, sameWidth, sameDpi, sameTop, sameBottom, sameMedia⟩ :=
    makeProfile_eq_ok made
  refine ⟨data, parsed, ?_⟩
  exact
    { named := sameName.trans named
      id := by rw [sameName]; exact id
      make := by rw [sameMake]; exact make
      modelName := by rw [sameModel]; exact name
      printWidthPx := by rw [sameWidth]; exact width
      dpi := by rw [sameDpi]; exact dpi
      topMarginMm := ⟨top, _, topAt, topRead, sameTop⟩
      bottomMarginMm := ⟨bottom, _, bottomAt, bottomRead, sameBottom⟩
      media := ⟨_, entries, by rw [sameMedia]; exact mediaRead⟩ }

/-- The print head of a loaded profile is whole bytes wide. -/
theorem loadManifest_aligned {env : ManifestEnv} {path directory text : String}
    {profile : ManifestProfile} (loaded : loadManifest env path directory text = .ok profile) :
    profile.printWidthPx % 8 = 0 := by
  obtain ⟨data, features, values, ble, media, density, -, -, -, -, made⟩ :=
    loadManifest_makes loaded
  have checked := makeProfile_checked made
  by_contra unaligned
  unfold postInit at checked
  rw [if_pos unaligned] at checked
  cases checked

/-! ## The manifest of the M08F -/

mutual

/-- The text of a value, without escapes and blanks. -/
def Json.render : Json → String
  | .null => "null"
  | .bool value => toString value
  | .int value => toString value
  | .float text => text
  | .str value => "\"" ++ value ++ "\""
  | .arr items => "[" ++ ",".intercalate (renderItems items) ++ "]"
  | .obj fields => "\x7b" ++ ",".intercalate (renderFields fields) ++ "\x7d"

def Json.renderItems : List Json → List String
  | [] => []
  | item :: items => item.render :: renderItems items

def Json.renderFields : Fields → List String
  | [] => []
  | (key, value) :: fields => ("\"" ++ key ++ "\":" ++ value.render) :: renderFields fields

end

/-- `models/m08f/model.json`, with other values for some of its keys. -/
def m08fManifest (id : String) (dpi : Int) (topMarginMm : Json) (media : List Json) : Fields :=
  [("id", .str id), ("make", .str "Phomemo"), ("name", .str "M08F"),
    ("ble_name_pattern", .str "^M08F"), ("serial_codes", .arr []), ("print_width_px", .int 1680),
    ("dpi", .int dpi), ("band_height", .int 256), ("sheet_length_mm", .float "297.0"),
    ("top_margin_mm", topMarginMm), ("bottom_margin_mm", .float "5.0"),
    ("density", .obj [("low", .int 1), ("medium", .int 5), ("high", .int 6)]),
    ("media", .arr media),
    ("ble", .obj [("max_chunk_bytes", .int 244), ("negotiate_mtu", .bool true),
      ("write_with_response", .bool true), ("chunk_delay_s", .float "0.0"),
      ("service_uuid", .str "0000ff00-0000-1000-8000-00805f9b34fb"),
      ("write_uuid", .str "00000000-0000-0000-0000-00000000ff02"),
      ("notify_uuid", .str "00000000-0000-0000-0000-00000000ff01"),
      ("status_uuid", .str "00000000-0000-0000-0000-00000000ff03")]),
    ("features", .obj [("escpos_queries", .bool false)])]

/-- The media of the M08F. -/
def m08fMedia : List Json :=
  [.obj [("pwg", .str "iso_a4_210x297mm"), ("default", .bool true)],
    .obj [("pwg", .str "iso_a5_148x210mm")]]

/-- Python with a parser that knows one manifest. -/
def readerOf (data : Fields) : ManifestEnv where
  loads text := if text = (Json.obj data).render then .ok (.obj data) else .error "no JSON"
  repr value := value.render
  reprFloat _ := "nan"

theorem readerOf_loads (data : Fields) :
    (readerOf data).loads (Json.obj data).render = .ok (.obj data) := if_pos rfl

/-- What the library makes of a manifest. -/
def libraryReads (id : String) (data : Fields) : Except PyExc ManifestProfile :=
  loadManifest (readerOf data) "model.json" id (Json.obj data).render

end Phomemo
