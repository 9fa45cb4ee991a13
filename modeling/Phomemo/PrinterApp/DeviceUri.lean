import Phomemo.PrinterApp.Models

/-!
# Device URIs

`format_uri` writes the address and the model of a discovered printer into a URI, and every
callback reads its part back with a buffer of its own.  Strings are the bytes before the null that
ends them.
-/

namespace Phomemo

namespace DeviceUri

/-- The byte of an ASCII character. -/
def charByte (char : Char) : UInt8 := char.toNat.toUInt8

/-- `URI_PREFIX`. -/
def scheme : Bytes := utf8 "phomemo://"

/-- `strcspn(text, reject)`, as the bytes it spans. -/
def span (reject : List Char) (text : Bytes) : Bytes :=
  text.takeWhile fun byte => byte ∉ reject.map charByte

/-- `strchr(text, char)`, empty where the character is missing. -/
def strchr (text : Bytes) (char : Char) : Bytes := text.dropWhile fun byte => byte ≠ charByte char

/-- Write one character for another. -/
def substitute (old new : Char) (byte : UInt8) : UInt8 :=
  if byte = charByte old then charByte new else byte

/-- `parse_address` with a buffer of that size. -/
def parseAddress (deviceUri : Bytes) (size : Nat) : Option Bytes :=
  if scheme.isPrefixOf deviceUri then
    let host := span ['/', '?', '#'] (deviceUri.drop scheme.length)
    if host.length = 0 ∨ size ≤ host.length then none
    else some (host.map (substitute '-' ':'))
  else none

/-- `format_uri` into a buffer of that size. -/
def formatUri (address model : Bytes) (size : Nat) : Bytes :=
  let uri := snprintf size (scheme ++ address)
  let uri := uri.take scheme.length ++ (uri.drop scheme.length).map (substitute ':' '-')
  uri ++ snprintf (size - uri.length) (utf8 "?model=" ++ model)

/-- The loop of `phomemo_uri_model` from a separator on: the value behind the last `model=`. -/
def modelValue : Bytes → Option Bytes → Option Bytes
  | [], value => value
  | _ :: rest, value =>
      modelValue (strchr rest '&')
        (if (utf8 "model=").isPrefixOf rest then some (rest.drop 6) else value)
  termination_by separator => separator.length
  decreasing_by
    exact Nat.lt_succ_of_le (List.dropWhile_sublist _).length_le

/-- `phomemo_uri_model` with a buffer of that size. -/
def phomemoUriModel (deviceUri : Bytes) (bufsize : Nat) : Option Bytes :=
  match modelValue (strchr deviceUri '?') none with
  | none => none
  | some value =>
      if value = [] then none
      else
        let model := span ['&', '#'] value
        if bufsize ≤ model.length then none else some model

/-- The fields of an `open`. -/
structure OpenRequest where
  address : Bytes
  model : Option Bytes
  deriving DecidableEq, Repr

/-- `open_request`: an empty model is left out. -/
def openRequest (address model : Bytes) : OpenRequest where
  address
  model := if model = [] then none else some model

/-- The URI `phomemo_list_cb` reports for a printer of that address and model. -/
def listed (address model : Bytes) : Bytes := formatUri address model 160

/-- The `open` behind `phomemo_open_cb`. -/
def deviceOpen (deviceUri : Bytes) : Option OpenRequest :=
  (parseAddress deviceUri 64).map fun address =>
    openRequest address ((phomemoUriModel deviceUri 32).getD [])

/-- The address `phomemo_status_cb` asks for. -/
def statusAddress (deviceUri : Bytes) : Option Bytes := parseAddress deviceUri 32

/-- The `open` of `phomemo_identify_cb`; the printer's driver names the model. -/
def identifyOpen (deviceUri driverName : Bytes) : Option OpenRequest :=
  (parseAddress deviceUri 64).map fun address => openRequest address driverName

/-- The `open` of `phomemo_testpage_cb`. -/
def testPageOpen (deviceUri driverName : Bytes) : Option OpenRequest :=
  (parseAddress deviceUri 64).map fun address => openRequest address driverName

/-- An address the URI can carry. -/
structure AddressText (address : Bytes) : Prop where
  nonempty : 1 ≤ address.length
  short : address.length ≤ 31
  plain : ∀ char ∈ ['-', '/', '?', '#'], charByte char ∉ address

/-- A model identifier the URI can carry. -/
structure ModelText (model : Bytes) : Prop where
  nonempty : 1 ≤ model.length
  short : model.length ≤ 31
  plain : ∀ char ∈ ['&', '#'], charByte char ∉ model

section Scans

theorem span_append {reject : List Char} {text : Bytes}
    (plain : ∀ char ∈ reject, charByte char ∉ text) {stop : Char} (stops : stop ∈ reject)
    (rest : Bytes) :
    span reject (text ++ charByte stop :: rest) = text := by
  unfold span
  have inside : ∀ byte ∈ text, decide (byte ∉ reject.map charByte) = true := by
    intro byte present
    rw [decide_eq_true_iff, List.mem_map]
    rintro ⟨char, rejected, rfl⟩
    exact plain char rejected present
  rw [List.takeWhile_append_of_pos inside, List.takeWhile_cons_of_neg, List.append_nil]
  simpa using ⟨stop, stops, rfl⟩

theorem span_whole {reject : List Char} {text : Bytes}
    (plain : ∀ char ∈ reject, charByte char ∉ text) : span reject text = text := by
  unfold span
  rw [List.takeWhile_eq_self_iff]
  intro byte present
  rw [decide_eq_true_iff, List.mem_map]
  rintro ⟨char, rejected, rfl⟩
  exact plain char rejected present

theorem strchr_append {text : Bytes} {char : Char} (missing : charByte char ∉ text)
    (rest : Bytes) : strchr (text ++ charByte char :: rest) char = charByte char :: rest := by
  unfold strchr
  rw [List.dropWhile_append_of_pos, List.dropWhile_cons_of_neg (by simp)]
  intro byte present
  rw [decide_eq_true_iff]
  rintro rfl
  exact missing present

theorem strchr_missing {text : Bytes} {char : Char} (missing : charByte char ∉ text) :
    strchr text char = [] := by
  unfold strchr
  rw [List.dropWhile_eq_nil_iff]
  intro byte present
  rw [decide_eq_true_iff]
  rintro rfl
  exact missing present

end Scans

section ReadBack

variable {address model : Bytes}

/-- With room for all of it, the URI is written whole. -/
theorem formatUri_eq {size : Nat} (room : address.length + model.length + 17 < size) :
    formatUri address model size =
      scheme ++ (address.map (substitute ':' '-') ++ charByte '?' :: (utf8 "model=" ++ model)) := by
  have scheme_length : scheme.length = 10 := by decide
  have key_length : (utf8 "?model=").length = 7 := by decide
  have key : utf8 "?model=" = charByte '?' :: utf8 "model=" := by decide
  have written : snprintf size (scheme ++ address) = scheme ++ address := by
    refine List.take_of_length_le ?_
    rw [List.length_append, scheme_length]
    omega
  unfold formatUri
  dsimp only
  rw [written, List.take_left, List.drop_left, List.append_assoc]
  have query : snprintf (size - (scheme ++ address.map (substitute ':' '-')).length)
      (utf8 "?model=" ++ model) = utf8 "?model=" ++ model := by
    refine List.take_of_length_le ?_
    rw [List.length_append, List.length_append, List.length_map, scheme_length, key_length]
    omega
  rw [query, key, List.cons_append]

theorem substitute_ne {char : Char} (differs : charByte char ≠ charByte '-') {byte : UInt8}
    (other : byte ≠ charByte char) : substitute ':' '-' byte ≠ charByte char := by
  unfold substitute
  split
  · exact differs.symm
  · exact other

/-- The host part has none of the characters that end it. -/
theorem AddressText.host_plain (text : AddressText address) :
    ∀ char ∈ ['/', '?', '#'], charByte char ∉ address.map (substitute ':' '-') := by
  intro char stops present
  obtain ⟨byte, inside, same⟩ := List.mem_map.mp present
  have differs : charByte char ≠ charByte '-' := by
    simp only [List.mem_cons, List.not_mem_nil, or_false] at stops
    obtain rfl | rfl | rfl := stops <;> decide
  refine substitute_ne differs ?_ same
  rintro rfl
  exact text.plain char (List.mem_cons_of_mem _ stops) inside

/-- Colons become dashes and the dashes colons again. -/
theorem AddressText.substitute_back (text : AddressText address) :
    (address.map (substitute ':' '-')).map (substitute '-' ':') = address := by
  have same : ∀ byte ∈ address, (substitute '-' ':' ∘ substitute ':' '-') byte = id byte := by
    intro byte present
    have other : byte ≠ charByte '-' := by
      rintro rfl
      exact text.plain '-' (by decide) present
    by_cases colon : byte = charByte ':'
    · rw [colon]
      decide
    · simp only [Function.comp_apply, substitute, if_neg colon, if_neg other, id]
  rw [List.map_map, List.map_congr_left same, List.map_id]

/-- The address a parser with a buffer of at least 32 bytes reads. -/
theorem parseAddress_formatUri (text : AddressText address) {size room : Nat}
    (fits : address.length + model.length + 17 < room) (buffer : 32 ≤ size) :
    parseAddress (formatUri address model room) size = some address := by
  have nonempty := text.nonempty
  have short := text.short
  rw [formatUri_eq fits]
  unfold parseAddress
  rw [if_pos (List.isPrefixOf_iff_prefix.mpr (List.prefix_append _ _)), List.drop_left]
  dsimp only
  rw [span_append text.host_plain (by decide), if_neg (by rw [List.length_map]; omega),
    text.substitute_back]

/-- The model a scanner with a buffer of at least 32 bytes reads. -/
theorem phomemoUriModel_formatUri (addressText : AddressText address) (text : ModelText model)
    {bufsize room : Nat} (fits : address.length + model.length + 17 < room)
    (buffer : 32 ≤ bufsize) :
    phomemoUriModel (formatUri address model room) bufsize = some model := by
  have nonempty := text.nonempty
  have short := text.short
  have before : charByte '?' ∉ scheme ++ address.map (substitute ':' '-') := by
    rw [List.mem_append]
    rintro (inside | inside)
    · exact absurd inside (by decide)
    · exact addressText.host_plain '?' (by decide) inside
  have single : charByte '&' ∉ utf8 "model=" ++ model := by
    rw [List.mem_append]
    rintro (inside | inside)
    · exact absurd inside (by decide)
    · exact text.plain '&' (by decide) inside
  have value : modelValue (charByte '?' :: (utf8 "model=" ++ model)) none = some model := by
    rw [modelValue, strchr_missing single,
      if_pos (List.isPrefixOf_iff_prefix.mpr (List.prefix_append _ _)), modelValue]
    rfl
  unfold phomemoUriModel
  rw [formatUri_eq fits, ← List.append_assoc, strchr_append before, value]
  dsimp only
  rw [span_whole text.plain, if_neg (List.ne_nil_of_length_pos nonempty), if_neg (by omega)]

end ReadBack

/-- Every callback reads back the printer that discovery listed. -/
theorem listed_readBack {address model : Bytes} (addressText : AddressText address)
    (modelText : ModelText model) :
    parseAddress (listed address model) 64 = some address ∧
      phomemoUriModel (listed address model) 32 = some model ∧
      deviceOpen (listed address model) = some { address, model := some model } ∧
      statusAddress (listed address model) = some address ∧
      (∀ driverName, identifyOpen (listed address model) driverName =
        some (openRequest address driverName)) ∧
      ∀ driverName, testPageOpen (listed address model) driverName =
        some (openRequest address driverName) := by
  have fits : address.length + model.length + 17 < 160 := by
    have := addressText.short
    have := modelText.short
    omega
  have opened : parseAddress (listed address model) 64 = some address :=
    parseAddress_formatUri addressText fits (by decide)
  have read : phomemoUriModel (listed address model) 32 = some model :=
    phomemoUriModel_formatUri addressText modelText fits le_rfl
  refine ⟨opened, read, ?_, parseAddress_formatUri addressText fits le_rfl, fun driverName => ?_,
    fun driverName => ?_⟩
  · unfold deviceOpen
    rw [opened, read]
    simp only [Option.map_some, Option.getD_some, openRequest,
      if_neg (List.ne_nil_of_length_pos modelText.nonempty)]
  · unfold identifyOpen
    rw [opened]
    rfl
  · unfold testPageOpen
    rw [opened]
    rfl

theorem addressText_plain : AddressText (utf8 "AA:BB:CC:DD:EE:FF") where
  nonempty := by decide
  short := by decide
  plain := by
    simp only [List.forall_mem_cons, List.not_mem_nil, false_imp_iff, implies_true]
    decide

theorem modelText_query : ModelText (utf8 "m-08?model=f") where
  nonempty := by decide
  short := by decide
  plain := by
    simp only [List.forall_mem_cons, List.not_mem_nil, false_imp_iff, implies_true]
    decide

/-- A model whose identifier looks like a query of its own. -/
theorem listed_readBack_query :
    parseAddress (listed (utf8 "AA:BB:CC:DD:EE:FF") (utf8 "m-08?model=f")) 64 =
        some (utf8 "AA:BB:CC:DD:EE:FF") ∧
      phomemoUriModel (listed (utf8 "AA:BB:CC:DD:EE:FF") (utf8 "m-08?model=f")) 32 =
        some (utf8 "m-08?model=f") ∧
      deviceOpen (listed (utf8 "AA:BB:CC:DD:EE:FF") (utf8 "m-08?model=f")) =
        some { address := utf8 "AA:BB:CC:DD:EE:FF", model := some (utf8 "m-08?model=f") } ∧
      statusAddress (listed (utf8 "AA:BB:CC:DD:EE:FF") (utf8 "m-08?model=f")) =
        some (utf8 "AA:BB:CC:DD:EE:FF") ∧
      (∀ driverName, identifyOpen (listed (utf8 "AA:BB:CC:DD:EE:FF") (utf8 "m-08?model=f"))
        driverName = some (openRequest (utf8 "AA:BB:CC:DD:EE:FF") driverName)) ∧
      ∀ driverName, testPageOpen (listed (utf8 "AA:BB:CC:DD:EE:FF") (utf8 "m-08?model=f"))
        driverName = some (openRequest (utf8 "AA:BB:CC:DD:EE:FF") driverName) :=
  listed_readBack addressText_plain modelText_query

end DeviceUri

end Phomemo
