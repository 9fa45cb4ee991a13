import Mathlib.Data.List.TakeWhile
import Phomemo.Manifest
import Phomemo.PrinterApp.BridgeClient

/-!
# Printer models of the printer app

`parse_model` reads the same manifests as `load_manifest`, with cJSON and into a record of fixed
size.  What the library accepts the app accepts as well, up to its limits, and both then agree.
-/

namespace Phomemo

open Binary64

/-! ## cJSON -/

/-- The bytes of a string. -/
def utf8 (text : String) : Bytes := text.toUTF8.data.toList

/-- The C library sees the whole string. -/
def NullFree (text : String) : Prop := (0 : UInt8) ∉ utf8 text

instance : DecidablePred NullFree := fun text =>
  inferInstanceAs (Decidable ((0 : UInt8) ∉ utf8 text))

/-- `cJSON_GetObjectItemCaseSensitive`: the first field of that name; only objects have fields. -/
def getObjectItemCaseSensitive (object : Json) (key : String) : Option Json :=
  match object with
  | .obj fields => (fields.find? fun field => cString key = cString field.1).map Prod.snd
  | _ => none

/-- `string_of`. -/
def stringOf (object : Json) (key : String) : Option Bytes :=
  match getObjectItemCaseSensitive object key with
  | some (.str value) => some (cString value)
  | _ => none

/-- `number_of`. -/
def numberOf (object : Json) (key : String) : Option Double :=
  match getObjectItemCaseSensitive object key with
  | some (.int value) => some (Number.int value).toDouble
  | some (.float text) => some (Number.float text).toDouble
  | _ => none

/-- `cJSON_IsTrue`. -/
def isTrue : Option Json → Bool
  | some (.bool true) => true
  | _ => false

/-- What `snprintf` leaves of a text in a buffer, before the null that ends it. -/
def snprintf (size : Nat) (text : Bytes) : Bytes := text.take (size - 1)

/-! ## Models -/

/-- `PHOMEMO_MAX_MEDIA`. -/
def maxMedia : Nat := 8

/-- `phomemo_model_t` without the icons.  A number is `none` where its conversion to `int` is
undefined. -/
structure PhomemoModel where
  id : Bytes
  makeAndModel : Bytes
  deviceId : Bytes
  dpi : Option Int
  widthPx : Option Int
  headWidth : Option Int
  topMargin : Option Int
  bottomMargin : Option Int
  media : List Bytes
  defaultMedia : Nat
  deriving DecidableEq

/-- A margin in hundredths of a millimetre. -/
def hundredths (margin : Double) : Option Int :=
  ((margin.mul (.finite 100)).add (.finite (1 / 2))).toInt 32

/-- The model with these values. -/
def fillModel (id make name : Bytes) (dpi widthPx top bottom : Double) (media : List Bytes)
    (defaultMedia : Nat) : PhomemoModel where
  id := snprintf 32 id
  makeAndModel := snprintf 128 (make ++ utf8 " " ++ name)
  deviceId := snprintf 128 (utf8 "MFG:" ++ make ++ utf8 ";MDL:" ++ name ++ utf8 ";CMD:PHOMEMO;")
  dpi := dpi.toInt 32
  widthPx := widthPx.toInt 32
  headWidth := ((widthPx.div dpi).mul (.finite 2540)).toInt 32
  topMargin := hundredths top
  bottomMargin := hundredths bottom
  media
  defaultMedia

/-- The loop over the media: the names so far and the index of the last default among them. -/
def fillMedia (path : String) :
    List Json → List Bytes → Option Nat → Except String (List Bytes × Option Nat)
  | [], media, default => .ok (media, default)
  | entry :: entries, media, default =>
      match stringOf entry "pwg" with
      | none => .error s!"{path}: every media entry needs a pwg name"
      | some pwg =>
          fillMedia path entries (media ++ [snprintf 64 pwg])
            (if isTrue (getObjectItemCaseSensitive entry "default") then some media.length
              else default)

/-- `parse_model`: `path` names the manifest in messages. -/
def parseModel (parse : String → Option Json) (text id path : String) :
    Except String PhomemoModel :=
  match parse text with
  | none => .error s!"{path}: not valid JSON"
  | some json =>
      if stringOf json "id" ≠ some (cString id) then .error s!"{path}: id must be \"{id}\""
      else match stringOf json "make", stringOf json "name" with
      | some make, some name =>
          match numberOf json "dpi", numberOf json "print_width_px", numberOf json "top_margin_mm",
            numberOf json "bottom_margin_mm" with
          | some dpi, some widthPx, some top, some bottom =>
              if dpi.le (.finite 0) then
                .error s!"{path}: dpi, print_width_px and the margins must be numbers"
              else match getObjectItemCaseSensitive json "media" with
              | some (.arr entries) =>
                  if entries.length < 1 ∨ maxMedia < entries.length then
                    .error s!"{path}: media must list 1 to {maxMedia} sizes"
                  else match fillMedia path entries [] none with
                  | .error message => .error message
                  | .ok (_, none) => .error s!"{path}: one medium must be the default"
                  | .ok (media, some default) =>
                      .ok (fillModel (cString id) make name dpi widthPx top bottom media default)
              | _ => .error s!"{path}: media must list 1 to {maxMedia} sizes"
          | _, _, _, _ => .error s!"{path}: dpi, print_width_px and the margins must be numbers"
      | _, _ => .error s!"{path}: make and name are required"

/-! ## Strings in buffers -/

/-- A buffer of that size holds the whole string. -/
def Fits (size : Nat) (text : String) : Prop := NullFree text ∧ (utf8 text).length < size

theorem utf8_injective : Function.Injective utf8 := by
  intro first second same
  unfold utf8 at same
  exact String.toByteArray_inj.mp (ByteArray.ext (Array.toList_inj.mp same))

theorem utf8_append (first second : String) :
    utf8 (first ++ second) = utf8 first ++ utf8 second := by
  simp [utf8, String.toByteArray_append]

theorem cString_length_le (text : String) : (cString text).length ≤ (utf8 text).length :=
  (List.takeWhile_prefix _).length_le

theorem cString_eq_utf8_iff {text : String} : cString text = utf8 text ↔ NullFree text := by
  unfold cString NullFree utf8
  rw [List.takeWhile_eq_self_iff]
  constructor
  · intro all found
    simpa using all 0 found
  · intro free byte member
    have nonzero : byte ≠ 0 := fun zero => free (zero ▸ member)
    simpa using nonzero

theorem cString_inj {first second : String} (firstFree : NullFree first)
    (secondFree : NullFree second) : cString first = cString second ↔ first = second := by
  rw [cString_eq_utf8_iff.mpr firstFree, cString_eq_utf8_iff.mpr secondFree]
  exact utf8_injective.eq_iff

/-- A text that is no longer than what it stands for is kept exactly when it is that, and fits. -/
theorem snprintf_eq_iff {size : Nat} (room : 0 < size) {copy whole : Bytes}
    (short : copy.length ≤ whole.length) :
    snprintf size copy = whole ↔ copy = whole ∧ whole.length < size := by
  unfold snprintf
  constructor
  · intro kept
    have length := congrArg List.length kept
    rw [List.length_take] at length
    rw [List.take_of_length_le (by omega)] at kept
    exact ⟨kept, by omega⟩
  · rintro ⟨rfl, fits⟩
    exact List.take_of_length_le (by omega)

theorem snprintf_cString_eq_iff {size : Nat} (room : 0 < size) (text : String) :
    snprintf size (cString text) = utf8 text ↔ Fits size text := by
  rw [snprintf_eq_iff room (cString_length_le text), cString_eq_utf8_iff]
  rfl

theorem nullFree_append (first second : String) :
    NullFree (first ++ second) ↔ NullFree first ∧ NullFree second := by
  unfold NullFree
  rw [utf8_append, List.mem_append, not_or]

/-- Two strings with a space between. -/
theorem snprintf_spaced_eq_iff {size : Nat} (room : 0 < size) (first second : String) :
    snprintf size (cString first ++ utf8 " " ++ cString second) = utf8 (first ++ " " ++ second) ↔
      Fits size (first ++ " " ++ second) := by
  have firstShort := cString_length_le first
  have secondShort := cString_length_le second
  have space : NullFree " " := by decide +kernel
  have short : (cString first ++ utf8 " " ++ cString second).length ≤
      (utf8 (first ++ " " ++ second)).length := by
    simp only [utf8_append, List.length_append]
    omega
  have same : cString first ++ utf8 " " ++ cString second = utf8 (first ++ " " ++ second) ↔
      NullFree (first ++ " " ++ second) := by
    rw [nullFree_append, nullFree_append, utf8_append, utf8_append,
      ← @cString_eq_utf8_iff first, ← @cString_eq_utf8_iff second]
    constructor
    · intro whole
      have lengths := congrArg List.length whole
      simp only [List.length_append] at lengths
      obtain ⟨spaced, secondSame⟩ :=
        List.append_inj whole (by simp only [List.length_append]; omega)
      exact ⟨⟨List.append_inj_left spaced (by omega), space⟩, secondSame⟩
    · rintro ⟨⟨firstSame, -⟩, secondSame⟩
      rw [firstSame, secondSame]
  rw [snprintf_eq_iff room short, same]
  rfl

/-! ## What both parsers read -/

/-- A character of a JSON number. -/
def isNumberChar (char : Char) : Bool := char.isDigit || "+-.eE".toList.contains char

/-- A value both parsers read alike: no key stands twice in an object or has a null in it, and
`NaN` and `Infinity` are no numbers. -/
inductive Json.Plain : Json → Prop
  | null : Plain .null
  | bool (value : Bool) : Plain (.bool value)
  | int (value : Int) : Plain (.int value)
  | float {text : String} (number : text.toList.all isNumberChar) : Plain (.float text)
  | str (value : String) : Plain (.str value)
  | arr {items : List Json} (items_plain : ∀ item ∈ items, item.Plain) : Plain (.arr items)
  | obj {fields : Fields} (distinct : (fields.map Prod.fst).Nodup)
      (nullFree : ∀ field ∈ fields, NullFree field.1)
      (fields_plain : ∀ field ∈ fields, field.2.Plain) : Plain (.obj fields)

attribute [simp] Json.Plain.bool Json.Plain.int Json.Plain.str

/-- The parser of cJSON reads what the parser of Python reads. -/
def ParsersAgree (env : ManifestEnv) (parse : String → Option Json) : Prop :=
  ∀ text value, env.loads text = .ok value → value.Plain → parse text = some value

theorem Json.Plain.nullFree_key {fields : Fields} (plain : (Json.obj fields).Plain) :
    ∀ field ∈ fields, NullFree field.1 := by
  cases plain with
  | obj distinct nullFree fields_plain => exact nullFree

theorem Json.Plain.items {items : List Json} (plain : (Json.arr items).Plain) :
    ∀ item ∈ items, item.Plain := by
  cases plain with
  | arr items_plain => exact items_plain

theorem Json.Plain.assocGet {fields : Fields} (plain : (Json.obj fields).Plain) {key : String}
    {value : Json} (present : Phomemo.assocGet key fields = some value) : value.Plain := by
  cases plain with
  | obj distinct nullFree fields_plain =>
      clear distinct nullFree
      induction fields with
      | nil => cases present
      | cons field fields ih =>
          obtain ⟨name, held⟩ := field
          simp only [Phomemo.assocGet] at present
          split at present
          · obtain rfl := Option.some.inj present
            exact fields_plain (name, held) List.mem_cons_self
          · exact ih present fun field member => fields_plain field (List.mem_cons_of_mem _ member)

/-- Both readers look a key up alike. -/
theorem getObjectItemCaseSensitive_eq {fields : Fields} {key : String} (keyFree : NullFree key)
    (nullFree : ∀ field ∈ fields, NullFree field.1) :
    getObjectItemCaseSensitive (.obj fields) key = assocGet key fields := by
  unfold getObjectItemCaseSensitive
  dsimp only
  induction fields with
  | nil => rfl
  | cons field fields ih =>
      obtain ⟨name, value⟩ := field
      have nameFree := nullFree (name, value) List.mem_cons_self
      have rest := ih fun field member => nullFree field (List.mem_cons_of_mem _ member)
      by_cases same : name = key
      · simp [assocGet, same]
      · have differ : ¬cString key = cString name := by
          rw [cString_inj keyFree nameFree]
          exact Ne.symm same
        simp [assocGet, same, differ, rest]

theorem stringOf_eq {fields : Fields} (plain : (Json.obj fields).Plain) {key value : String}
    (keyFree : NullFree key) (present : assocGet key fields = some (.str value)) :
    stringOf (.obj fields) key = some (cString value) := by
  simp [stringOf, getObjectItemCaseSensitive_eq keyFree plain.nullFree_key, present]

theorem numberOf_eq {fields : Fields} (plain : (Json.obj fields).Plain) {key : String}
    {value : Json} {number : Number} (keyFree : NullFree key)
    (present : assocGet key fields = some value) (read : Kind.number.read value = some number) :
    numberOf (.obj fields) key = some number.toDouble := by
  unfold numberOf
  rw [getObjectItemCaseSensitive_eq keyFree plain.nullFree_key, present]
  cases value <;> cases read <;> rfl

/-! ## Media -/

/-- What the loop of `_media` makes of an entry. -/
theorem mediaNames_cons_eq_ok {location : String} {entry : Json} {entries : List Json}
    {names defaults : List String}
    (read : mediaNames location (entry :: entries) = .ok (names, defaults)) :
    ∃ fields pwg otherNames otherDefaults, entry = .obj fields ∧
      assocGet "pwg" fields = some (.str pwg) ∧
      mediaNames location entries = .ok (otherNames, otherDefaults) ∧
      names = pwg :: otherNames ∧
      defaults =
        if isTrue (assocGet "default" fields) then pwg :: otherDefaults else otherDefaults := by
  unfold mediaNames at read
  split at read
  · cases read
  · rename_i found
    obtain ⟨fields, object, found⟩ := Option.bind_eq_some_iff.mp found
    obtain ⟨pwg, string, same⟩ := Option.map_eq_some_iff.mp found
    obtain ⟨rfl, rfl⟩ := Prod.mk.inj same
    obtain ⟨value, present, isString⟩ := Option.bind_eq_some_iff.mp string
    obtain rfl := Kind.read_dict object
    obtain rfl := Kind.read_str isString
    obtain ⟨⟨otherNames, otherDefaults⟩, others, read⟩ := except_bind_eq_ok.mp read
    refine ⟨fields, pwg, otherNames, otherDefaults, rfl, present, others, ?_⟩
    dsimp only at read
    split at read
    · rename_i default
      obtain ⟨rfl, rfl⟩ := Prod.mk.inj (Except.ok.inj read)
      simp [default, isTrue]
    · rename_i other
      obtain ⟨rfl, rfl⟩ := Prod.mk.inj (Except.ok.inj read)
      have notTrue : isTrue (assocGet "default" fields) = false := by
        unfold isTrue
        split
        · exact absurd ‹_› other
        · rfl
      simp [notTrue]

theorem mediaNames_length {location : String} {entries : List Json} {names defaults : List String}
    (read : mediaNames location entries = .ok (names, defaults)) :
    names.length = entries.length := by
  induction entries generalizing names defaults with
  | nil =>
      obtain ⟨rfl, -⟩ := Prod.mk.inj (Except.ok.inj read)
      rfl
  | cons entry entries ih =>
      obtain ⟨_, _, _, _, -, -, others, rfl, -⟩ := mediaNames_cons_eq_ok read
      simp [ih others]

/-- One default among the entries is one of the names, and the app finds its index. -/
theorem fillMedia_eq {location path : String} {entries : List Json} {names defaults : List String}
    (plain : ∀ entry ∈ entries, entry.Plain)
    (read : mediaNames location entries = .ok (names, defaults)) (media : List Bytes)
    (before : Option Nat) :
    ∃ default, fillMedia path entries media before =
        .ok (media ++ names.map fun name => snprintf 64 (cString name), default) ∧
      (defaults = [] → default = before) ∧
      ∀ only, defaults = [only] →
        ∃ index, default = some (media.length + index) ∧ names[index]? = some only := by
  induction entries generalizing names defaults media before with
  | nil =>
      obtain ⟨rfl, rfl⟩ := Prod.mk.inj (Except.ok.inj read)
      exact ⟨before, by simp [fillMedia], fun _ => rfl, nofun⟩
  | cons entry entries ih =>
      obtain ⟨fields, pwg, otherNames, otherDefaults, rfl, named, others, rfl, rfl⟩ :=
        mediaNames_cons_eq_ok read
      have object := plain _ List.mem_cons_self
      have keyFree : NullFree "default" := by decide +kernel
      have lookup := getObjectItemCaseSensitive_eq keyFree object.nullFree_key
      obtain ⟨last, filled, noDefault, oneDefault⟩ :=
        ih (fun entry member => plain entry (List.mem_cons_of_mem _ member)) others
          (media ++ [snprintf 64 (cString pwg)])
          (if isTrue (assocGet "default" fields) then some media.length else before)
      refine ⟨last, ?_, ?_, ?_⟩
      · unfold fillMedia
        rw [stringOf_eq object (by decide +kernel) named, lookup]
        dsimp only
        rw [filled]
        simp
      · intro none
        cases default : isTrue (assocGet "default" fields) with
        | true => simp [default] at none
        | false => simpa [default] using noDefault (by simpa [default] using none)
      · intro only one
        cases default : isTrue (assocGet "default" fields) with
        | true =>
            obtain ⟨rfl, none⟩ := by simpa [default] using one
            exact ⟨0, by simpa [default] using noDefault none, rfl⟩
        | false =>
            obtain ⟨index, found, name⟩ := oneDefault only (by simpa [default] using one)
            refine ⟨index + 1, ?_, by simpa using name⟩
            rw [found, List.length_append, List.length_singleton]
            congr 1
            omega

/-! ## Agreement -/

/-- What `parse_model` makes of a manifest that `load_manifest` accepts. -/
theorem parseModel_of_readFrom {parse : String → Option Json} {text path directory : String}
    {data : Fields} {profile : ManifestProfile} (parsed : parse text = some (.obj data))
    (plain : (Json.obj data).Plain) (read : profile.ReadFrom path directory data)
    (location : String) :
    ∃ index, profile.media[index]? = some profile.defaultMedia ∧
      parseModel parse text directory location =
        if profile.dpi ≤ 0 then
          .error s!"{location}: dpi, print_width_px and the margins must be numbers"
        else if maxMedia < profile.media.length then
          .error s!"{location}: media must list 1 to {maxMedia} sizes"
        else .ok (fillModel (cString profile.name) (cString profile.make)
          (cString profile.modelName) (Double.ofRat profile.dpi)
          (Double.ofRat profile.printWidthPx) profile.topMarginMm profile.bottomMarginMm
          (profile.media.map fun name => snprintf 64 (cString name)) index) := by
  obtain ⟨entries, listed, mediaRead⟩ := read.media
  obtain ⟨⟨names, defaults⟩, named, one⟩ := except_bind_eq_ok.mp mediaRead
  obtain ⟨only, rfl, same⟩ : ∃ only, defaults = [only] ∧
      (names, only) = (profile.media, profile.defaultMedia) := by
    dsimp only at one
    split at one
    · exact ⟨_, rfl, Except.ok.inj one⟩
    · cases one
  obtain ⟨rfl, rfl⟩ := Prod.mk.inj same
  have length := mediaNames_length named
  obtain ⟨default, filled, -, oneDefault⟩ :=
    @fillMedia_eq path location _ _ _ (plain.assocGet listed).items named [] none
  obtain ⟨index, rfl, found⟩ := oneDefault _ rfl
  refine ⟨index, found, ?_⟩
  have keyFree : NullFree "media" := by decide +kernel
  have mediaItem := getObjectItemCaseSensitive_eq keyFree plain.nullFree_key
  have dpiRead : Kind.number.read (.int profile.dpi) = some (.int profile.dpi) := rfl
  have widthRead : Kind.number.read (.int profile.printWidthPx) =
      some (.int profile.printWidthPx) := rfl
  obtain ⟨top, topNumber, topAt, topRead, topSame⟩ := read.topMarginMm
  obtain ⟨bottom, bottomNumber, bottomAt, bottomRead, bottomSame⟩ := read.bottomMarginMm
  unfold parseModel
  simp only [parsed, stringOf_eq plain (by decide +kernel) read.id,
    stringOf_eq plain (by decide +kernel) read.make,
    stringOf_eq plain (by decide +kernel) read.modelName,
    numberOf_eq plain (by decide +kernel) read.dpi dpiRead,
    numberOf_eq plain (by decide +kernel) read.printWidthPx widthRead,
    numberOf_eq plain (by decide +kernel) topAt topRead,
    numberOf_eq plain (by decide +kernel) bottomAt bottomRead, mediaItem, listed, filled]
  rw [read.named, topSame, bottomSame]
  simp only [ne_eq, not_true_eq_false, if_false, Number.toDouble, Double.ofRat_intCast_le_zero,
    decide_eq_true_eq]
  have nonempty : ¬profile.media.length < 1 := by
    obtain ⟨inside, -⟩ := List.getElem?_eq_some_iff.mp found
    omega
  simp only [← length, nonempty, false_or, List.nil_append, List.length_nil, Nat.zero_add]

/-- A margin of the app is that of the library in hundredths, up to the roundings of doubles. -/
def HundredthsOf (margin : Option Int) (millimetres : Double) : Prop :=
  ∀ value, millimetres = .finite value → 0 ≤ value → 100 * value ≤ 2 ^ 31 - 1 →
    ∃ nearest : Int, margin = some nearest ∧
      |(nearest : ℚ) - 100 * value| ≤ 1 / 2 + (100 * value + 2) / 2 ^ 52

/-- A model and a profile agree as far as the buffers and integers of the model go. -/
structure PhomemoModel.Agrees (model : PhomemoModel) (profile : ManifestProfile) : Prop where
  id : model.id = utf8 profile.name ↔ Fits 32 profile.name
  makeAndModel : model.makeAndModel = utf8 (profile.make ++ " " ++ profile.modelName) ↔
    Fits 128 (profile.make ++ " " ++ profile.modelName)
  dpi : model.dpi = some profile.dpi ↔ profile.dpi < 2 ^ 31
  widthPx : model.widthPx = some profile.printWidthPx ↔
    -(2 ^ 31) ≤ profile.printWidthPx ∧ profile.printWidthPx < 2 ^ 31
  topMargin : HundredthsOf model.topMargin profile.topMarginMm
  bottomMargin : HundredthsOf model.bottomMargin profile.bottomMarginMm
  media : model.media = profile.media.map utf8 ↔ ∀ name ∈ profile.media, Fits 64 name
  defaultMedia : profile.media[model.defaultMedia]? = some profile.defaultMedia

theorem hundredths_spec (millimetres : Double) :
    HundredthsOf (hundredths millimetres) millimetres := by
  rintro value rfl nonneg small
  exact Double.toInt_hundredths nonneg small

/-- An integer survives as an `int` exactly when it is one. -/
theorem toInt_ofRat_eq_iff (n : Int) :
    (Double.ofRat n).toInt 32 = some n ↔ -(2 ^ 31) ≤ n ∧ n < 2 ^ 31 := by
  constructor
  · intro kept
    cases number : Double.ofRat n with
    | finite value =>
        rw [number] at kept
        simp only [Double.toInt] at kept
        split at kept
        · rename_i inside
          obtain rfl := Option.some.inj kept
          exact inside
        · cases kept
    | infinite negative =>
        rw [number] at kept
        cases kept
    | nan =>
        rw [number] at kept
        cases kept
  · rintro ⟨low, high⟩
    rw [Double.ofRat_intCast (abs_lt.mpr ⟨by omega, by omega⟩)]
    exact Double.toInt_intCast low high

theorem fillModel_agrees {profile : ManifestProfile} (positive : 0 < profile.dpi) {index : Nat}
    (found : profile.media[index]? = some profile.defaultMedia) :
    (fillModel (cString profile.name) (cString profile.make) (cString profile.modelName)
      (Double.ofRat profile.dpi) (Double.ofRat profile.printWidthPx) profile.topMarginMm
      profile.bottomMarginMm (profile.media.map fun name => snprintf 64 (cString name))
      index).Agrees profile where
  id := snprintf_cString_eq_iff (by norm_num) profile.name
  makeAndModel := snprintf_spaced_eq_iff (by norm_num) profile.make profile.modelName
  dpi := by
    have low : -(2 ^ 31) ≤ profile.dpi := by omega
    exact (toInt_ofRat_eq_iff profile.dpi).trans (and_iff_right low)
  widthPx := toInt_ofRat_eq_iff profile.printWidthPx
  topMargin := hundredths_spec profile.topMarginMm
  bottomMargin := hundredths_spec profile.bottomMarginMm
  media := by
    dsimp only [fillModel]
    rw [List.map_inj_left]
    exact forall₂_congr fun name _ => snprintf_cString_eq_iff (by norm_num) name
  defaultMedia := found

/-- The app accepts what the library accepts, with a resolution above zero and up to eight media,
and both then agree. -/
theorem parseModel_agrees {env : ManifestEnv} {parse : String → Option Json}
    (parsers : ParsersAgree env parse) {path directory text : String} {value : Json}
    (parsed : env.loads text = .ok value) (plain : value.Plain) {profile : ManifestProfile}
    (loaded : loadManifest env path directory text = .ok profile) (location : String) :
    ((∃ model, parseModel parse text directory location = .ok model) ↔
      0 < profile.dpi ∧ profile.media.length ≤ maxMedia) ∧
    ∀ model, parseModel parse text directory location = .ok model → model.Agrees profile := by
  obtain ⟨data, parsedAgain, read⟩ := loadManifest_reads loaded
  obtain rfl := Except.ok.inj (parsed.symm.trans parsedAgain)
  obtain ⟨index, found, result⟩ :=
    parseModel_of_readFrom (parsers text _ parsed plain) plain read location
  rw [result]
  by_cases nonpos : profile.dpi ≤ 0
  · simp [nonpos]
  · by_cases many : maxMedia < profile.media.length
    · simp [nonpos, many]
    · have positive := not_le.mp nonpos
      simp only [nonpos, many, if_false]
      refine ⟨⟨fun _ => ⟨positive, not_lt.mp many⟩, fun _ => ⟨_, rfl⟩⟩, ?_⟩
      rintro model accepted
      obtain rfl := Except.ok.inj accepted
      exact fillModel_agrees positive found

/-! ## Both readers on the manifest of the M08F -/

/-- The parser of the app on the same manifest. -/
def parserOf (data : Fields) (text : String) : Option Json := ((readerOf data).loads text).toOption

/-- What the app makes of the same text. -/
def appReads (id : String) (data : Fields) : Except String PhomemoModel :=
  parseModel (parserOf data) (Json.obj data).render id "model.json"

theorem parsersAgree_parserOf (data : Fields) : ParsersAgree (readerOf data) (parserOf data) := by
  intro text value read _
  simp [parserOf, read, Except.toOption]

/-- An identifier of 32 characters. -/
def longId : String := "m08f-with-a-battery-and-a-hinge-"

/-- The manifest with another upper margin. -/
def withTopMargin (text : String) : Fields := m08fManifest "m08f" 203 (.float text) m08fMedia

/-- The library reads manifests without a resolution, with nine media, with an identifier of 32
characters, with a margin below zero, and with one just below half a hundredth.  The app refuses
the first two, cuts the identifier, and rounds the margins to other hundredths. -/
theorem appReads_differs :
    let undefinedDpi := m08fManifest "m08f" 0 (.float "10.0") m08fMedia
    let nineMedia := m08fManifest "m08f" 203 (.float "10.0")
      (m08fMedia ++ List.replicate 7 (.obj [("pwg", .str "na_letter_8.5x11in")]))
    let longName := m08fManifest longId 203 (.float "10.0") m08fMedia
    (libraryReads "m08f" undefinedDpi).map (·.dpi) = .ok 0 ∧
    appReads "m08f" undefinedDpi =
      .error "model.json: dpi, print_width_px and the margins must be numbers" ∧
    (libraryReads "m08f" nineMedia).map (·.media.length) = .ok 9 ∧
    appReads "m08f" nineMedia = .error "model.json: media must list 1 to 8 sizes" ∧
    (libraryReads longId longName).map (·.name) = .ok longId ∧
    (appReads longId longName).map (·.id) = .ok ((utf8 longId).take 31) ∧
    (libraryReads "m08f" (withTopMargin "-1.0")).map (·.topMarginMm) = .ok (.finite (-1)) ∧
    (appReads "m08f" (withTopMargin "-1.0")).map (·.topMargin) = .ok (some (-99)) ∧
    (libraryReads "m08f" (withTopMargin "0.0049999999999999992")).map
      (·.topMarginMm.le (.finite (49999999999999993 / 10 ^ 19))) = .ok true ∧
    (appReads "m08f" (withTopMargin "0.0049999999999999992")).map (·.topMargin) =
      .ok (some 1) := by
  intro undefinedDpi nineMedia longName
  have refusesDpi : (libraryReads "m08f" undefinedDpi).map (·.dpi) = .ok 0 ∧
      appReads "m08f" undefinedDpi =
        .error "model.json: dpi, print_width_px and the margins must be numbers" := by
    decide +kernel
  have refusesNine : (libraryReads "m08f" nineMedia).map (·.media.length) = .ok 9 ∧
      appReads "m08f" nineMedia = .error "model.json: media must list 1 to 8 sizes" := by
    decide +kernel
  have cuts : (libraryReads longId longName).map (·.name) = .ok longId ∧
      (appReads longId longName).map (·.id) = .ok ((utf8 longId).take 31) := by
    decide +kernel
  have below : (libraryReads "m08f" (withTopMargin "-1.0")).map (·.topMarginMm) =
        .ok (.finite (-1)) ∧
      (appReads "m08f" (withTopMargin "-1.0")).map (·.topMargin) = .ok (some (-99)) := by
    decide +kernel
  have half : (libraryReads "m08f" (withTopMargin "0.0049999999999999992")).map
        (·.topMarginMm.le (.finite (49999999999999993 / 10 ^ 19))) = .ok true ∧
      (appReads "m08f" (withTopMargin "0.0049999999999999992")).map (·.topMargin) =
        .ok (some 1) := by
    decide +kernel
  exact ⟨refusesDpi.1, refusesDpi.2, refusesNine.1, refusesNine.2, cuts.1, cuts.2, below.1, below.2,
    half.1, half.2⟩

theorem m08fManifest_plain : (Json.obj (withTopMargin "10.0")).Plain := by
  have numbers : ∀ text ∈ ["297.0", "10.0", "5.0", "0.0"], text.toList.all isNumberChar := by
    decide +kernel
  have number : ∀ text ∈ ["297.0", "10.0", "5.0", "0.0"], (Json.float text).Plain :=
    fun text member => .float (numbers text member)
  have none : (Json.arr []).Plain := .arr nofun
  have density : (Json.obj [("low", .int 1), ("medium", .int 5), ("high", .int 6)]).Plain :=
    .obj (by decide +kernel) (by decide +kernel) (by simp)
  have media : (Json.arr m08fMedia).Plain := by
    refine .arr ?_
    simp only [m08fMedia, List.forall_mem_cons, List.not_mem_nil, IsEmpty.forall_iff,
      implies_true, and_true]
    exact ⟨.obj (by decide +kernel) (by decide +kernel) (by simp),
      .obj (by decide +kernel) (by decide +kernel) (by simp)⟩
  refine .obj (by decide +kernel) (by decide +kernel) ?_
  simp only [withTopMargin, m08fManifest, List.forall_mem_cons, List.not_mem_nil,
    IsEmpty.forall_iff, implies_true, and_true]
  simp only [Json.Plain.int, Json.Plain.str, number, none, density, media, List.mem_cons,
    true_or, or_true, true_and]
  constructor
  · exact .obj (by decide +kernel) (by decide +kernel) (by simp [number])
  · exact .obj (by decide +kernel) (by decide +kernel) (by simp)

/-- Both read the manifest of the M08F, and agree. -/
theorem parseModel_agrees_m08f :
    ∃ profile model, libraryReads "m08f" (withTopMargin "10.0") = .ok profile ∧
      appReads "m08f" (withTopMargin "10.0") = .ok model ∧ model.Agrees profile := by
  have limits : (libraryReads "m08f" (withTopMargin "10.0")).map
      (fun profile => (profile.dpi, profile.media.length)) = .ok (203, 2) := by decide +kernel
  obtain ⟨profile, loaded, same⟩ := except_map_eq_ok.mp limits
  obtain ⟨dpi, media⟩ := Prod.mk.inj same
  obtain ⟨accepted, agrees⟩ := parseModel_agrees (parsersAgree_parserOf _) (readerOf_loads _)
    m08fManifest_plain loaded "model.json"
  obtain ⟨model, accepted⟩ := accepted.mpr ⟨by rw [dpi]; norm_num, by rw [media]; decide⟩
  exact ⟨profile, model, loaded, accepted, agrees model accepted⟩

end Phomemo
