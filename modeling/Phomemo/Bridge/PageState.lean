import Phomemo.Async.Machine
import Phomemo.Bridge.PageCommands
import Phomemo.Manifest
import Phomemo.Upkeep.Commands

/-!
# The page a session holds

The commands of the page pipeline on the JSON values a client may send: a page as the session keeps
it, with nothing that ties its fields together, and handlers that convert, check and change it in
the order of the source.  What an exception leaves behind is what had been changed before it.
-/

namespace Phomemo

open Async Binary64

/-! ## Conversions -/

/-- How Python reads numbers in texts, and `repr`. -/
structure PythonText where
  intOf : String → Option Int
  floatOf : String → Option Double
  repr : Json → String

/-- A JSON float; the decoder takes three words as well. -/
def jsonFloat (text : String) : Double :=
  if text = "NaN" then .nan
  else if text = "Infinity" then .infinite false
  else if text = "-Infinity" then .infinite true
  else (Number.float text).toDouble

/-- `type(value).__name__`. -/
def Json.typeName : Json → String
  | .null => "NoneType"
  | .bool _ => "bool"
  | .int _ => "int"
  | .float _ => "float"
  | .str _ => "str"
  | .arr _ => "list"
  | .obj _ => "dict"

namespace PythonText

variable (python : PythonText)

/-- `int(value)`. -/
def int : Json → Except PyExc Int
  | .bool value => .ok (if value then 1 else 0)
  | .int value => .ok value
  | .float text => intOfFloat (jsonFloat text)
  | .str text =>
      match python.intOf text with
      | some value => .ok value
      | none =>
          let shown := python.repr (.str text)
          .error (.valueError s!"invalid literal for int() with base 10: {shown}")
  | other =>
      let name := other.typeName
      .error (.typeError
        s!"int() argument must be a string, a bytes-like object or a real number, not '{name}'")

/-- `float(value)`. -/
def float : Json → Except PyExc Double
  | .bool value => .ok (.finite (if value then 1 else 0))
  | .int value => (Number.int value).toFloat
  | .float text => .ok (jsonFloat text)
  | .str text =>
      match python.floatOf text with
      | some value => .ok value
      | none =>
          let shown := python.repr (.str text)
          .error (.valueError s!"could not convert string to float: {shown}")
  | other =>
      let name := other.typeName
      .error (.typeError s!"float() argument must be a string or a real number, not '{name}'")

/-- `str(value)`. -/
def str : Json → String
  | .str text => text
  | other => python.repr other

end PythonText

/-- `bool(value)`. -/
def Json.truth : Json → Bool
  | .null => false
  | .bool value => value
  | .int value => decide (value ≠ 0)
  | .float text => decide (jsonFloat text ≠ .finite 0)
  | .str text => decide (text ≠ "")
  | .arr items => !items.isEmpty
  | .obj fields => !fields.isEmpty

/-- `obj[key]`. -/
def fieldOf (obj : Fields) (key : String) : Except PyExc Json :=
  match assocGet key obj with
  | some value => .ok value
  | none => .error (.keyError s!"'{key}'")

/-! ## Pages -/

/-- `PageBuffer`, as the session keeps it. -/
structure RawPage where
  width : Int
  lengthRows : Int
  bits : Int
  tone : ToneMode
  density : Density
  mediaLengthMm : Option Double
  rotate : Bool
  rows : Int := 0
  data : Bytes := []

namespace RawPage

/-- `row_bytes`. -/
def rowBytes (page : RawPage) : Int := page.width * page.bits / 8

/-- The rows received fill the page as far as it has come. -/
structure Whole (page : RawPage) : Prop where
  data_length : (page.data.length : Int) = page.rows * page.rowBytes
  rows_nonneg : 0 ≤ page.rows
  rows_le : page.rows ≤ page.lengthRows
  rowBytes_eq : page.rowBytes * 8 = page.width * page.bits
  width_pos : 0 < page.width
  depth : page.bits = 1 ∨ page.bits = 8

/-- A page with all its rows, whose data is one image of them. -/
structure Full (page : RawPage) : Prop where
  complete : page.rows = page.lengthRows
  fills : (page.data.length : Int) * 8 = page.width * page.rows * page.bits

theorem Whole.full {page : RawPage} (whole : page.Whole) (complete : page.rows = page.lengthRows) :
    page.Full := by
  refine ⟨complete, ?_⟩
  rw [whole.data_length, mul_assoc, whole.rowBytes_eq]
  ring

end RawPage

/-! ## Handlers -/

/-- The page of a session.  While `page_end` prints, other commands are refused. -/
structure PageSession where
  page : Option RawPage := none
  printing : Bool := false
  /-- The pages whose images were given to `prepare_page`. -/
  prepared : List RawPage := []

/-- A handler: an exception leaves the session as it has become. -/
abbrev PageHandler (α : Type) : Type := ExceptT PyExc (StateM PageSession) α

/-- The outcome of a conversion. -/
def PageHandler.convert {α : Type} (outcome : Except PyExc α) : PageHandler α :=
  match outcome with
  | .ok value => pure value
  | .error exc => throw exc

namespace PageSession

/-- The texts `page_begin` gives the errors of its first conversions. -/
def needsNumbers : PyExc → PyExc
  | .keyError text => .commandError s!"page_begin needs width and length_rows: {text}"
  | .typeError text => .commandError s!"page_begin needs width and length_rows: {text}"
  | .valueError text => .commandError s!"page_begin needs width and length_rows: {text}"
  | exc => exc

/-- The three numbers of a `page_begin`. -/
def pageNumbers (python : PythonText) (obj : Fields) : Except PyExc (Int × Int × Int) := do
  let width ← fieldOf obj "width" >>= python.int
  let lengthRows ← fieldOf obj "length_rows" >>= python.int
  let bits ← python.int ((assocGet "bits" obj).getD (.int 8))
  return (width, lengthRows, bits)

/-- The tone of a `page_begin`. -/
def pageTone (python : PythonText) (obj : Fields) : Except PyExc ToneMode :=
  let toneName := python.str ((assocGet "tone" obj).getD (.str "auto"))
  if toneName = "auto" then
    let content := python.str ((assocGet "content" obj).getD (.str "auto"))
    .ok (if content = "text" ∨ content = "graphic" then .threshold else .diffusion)
  else
    match ToneMode.ofName toneName with
    | some tone => .ok tone
    | none =>
        let shown := python.repr (.str toneName)
        .error (.commandError s!"unknown tone {shown}")

/-- The length of the medium, if one is named. -/
def mediaLength (python : PythonText) (obj : Fields) : Except PyExc (Option Double) :=
  match (assocGet "media_length_mm" obj).getD .null with
  | .null => .ok none
  | length => (python.float length).map some

/-- The page of these numbers, which are checked before the other fields are read. -/
def checkedPage (python : PythonText) (obj : Fields) (width lengthRows bits : Int) :
    Except PyExc RawPage :=
  if ¬(bits = 1 ∨ bits = 8) then .error (.commandError "bits must be 1 or 8")
  else if bits = 1 ∧ width % 8 ≠ 0 then
    .error (.commandError "1-bit pages need a width that is a multiple of 8")
  else if width ≤ 0 ∨ lengthRows ≤ 0 then
    .error (.commandError "width and length_rows must be positive")
  else do
    let tone ← pageTone python obj
    let densityName := python.str ((assocGet "density" obj).getD (.str "medium"))
    match Density.ofName densityName with
    | none =>
        let shown := python.repr (.str densityName)
        .error (.commandError s!"unknown density {shown}")
    | some density =>
        let mediaLengthMm ← mediaLength python obj
        let rotate := ((assocGet "rotate" obj).getD (.bool false)).truth
        return { width, lengthRows, bits, tone, density, mediaLengthMm, rotate }

/-- The page a `page_begin` asks for. -/
def newPage (python : PythonText) (obj : Fields) : Except PyExc RawPage := do
  let (width, lengthRows, bits) ← (pageNumbers python obj).mapError needsNumbers
  checkedPage python obj width lengthRows bits

/-- `_cmd_page_begin`. -/
def cmdPageBegin (python : PythonText) (obj : Fields) : PageHandler Result := do
  let page ← PageHandler.convert (newPage python obj)
  modify fun session => { session with page := some page }
  return []

/-- `self._page`, which must be there. -/
def pageInProgress : PageHandler RawPage := do
  let session ← get
  match session.page with
  | none => throw (.commandError "no page in progress")
  | some page => return page

/-- Append the rows of a payload. -/
def addRows (page : RawPage) (count : Int) (payload : Bytes) : PageHandler Result :=
  if count ≤ 0 ∨ (payload.length : Int) ≠ count * page.rowBytes then
    let expected := count * page.rowBytes
    let got := payload.length
    throw (.commandError s!"expected {expected} bytes for {count} rows, got {got}")
  else if page.lengthRows < page.rows + count then
    let total := page.rows + count
    let declared := page.lengthRows
    throw (.commandError s!"{total} rows exceed the declared length_rows {declared}")
  else do
    let page := { page with data := page.data ++ payload }
    modify fun session => { session with page := some page }
    let page := { page with rows := page.rows + count }
    modify fun session => { session with page := some page }
    return [("rows", .int page.rows)]

/-- `_cmd_lines`. -/
def cmdLines (python : PythonText) (obj : Fields) (payload : Bytes) : PageHandler Result := do
  let page ← pageInProgress
  let count ← PageHandler.convert (python.int ((assocGet "count" obj).getD (.int 0)))
  addRows page count payload

/-- `_cmd_page_end` up to where the page is prepared; `linked` is what `_require_printer` comes
to. -/
def beginPageEnd (linked : Except PyExc Unit) : PageHandler Unit := do
  let page ← pageInProgress
  if page.rows ≠ page.lengthRows then
    let rows := page.rows
    let declared := page.lengthRows
    throw (.commandError s!"received {rows} of {declared} rows")
  else
    PageHandler.convert linked
    modify fun session =>
      { session with printing := true, prepared := session.prepared ++ [page] }

/-- The end of `_cmd_page_end`, however the printing has ended. -/
def finishPageEnd (outcome : Except PyExc Result) : PageHandler Result := do
  modify fun session => { session with page := none, printing := false }
  PageHandler.convert outcome

end PageSession

/-- What a session does about its page. -/
inductive PageAction where
  | pageBegin (obj : Fields)
  | lines (obj : Fields) (payload : Bytes)
  | pageEnd (linked : Except PyExc Unit)
  /-- The printing of a `page_end` has ended. -/
  | printed (outcome : Except PyExc Result)

namespace PageSession

/-- Run a handler: its reply and the session after it. -/
def reply (handler : PageHandler Result) (session : PageSession) :
    Option (Except PyExc Result) × PageSession :=
  ((handler.run.run session).1, (handler.run.run session).2)

/-- The reply to an action, if it has one, and the session after it. -/
def perform (python : PythonText) (session : PageSession) (action : PageAction) :
    Option (Option (Except PyExc Result) × PageSession) :=
  match action, session.printing with
  | .printed outcome, true => some (reply (finishPageEnd outcome) session)
  | .printed _, false => none
  | _, true => some (some (.error (.commandError "busy")), session)
  | .pageBegin obj, false => some (reply (cmdPageBegin python obj) session)
  | .lines obj payload, false => some (reply (cmdLines python obj payload) session)
  | .pageEnd linked, false =>
      match (beginPageEnd linked).run.run session with
      | (.ok (), next) => some (none, next)
      | (.error exc, next) => some (some (.error exc), next)

/-- A step of a session. -/
def step (python : PythonText) (session : PageSession) (action : PageAction) : Option PageSession :=
  (session.perform python action).map Prod.snd

/-! ## What a handler does -/

theorem run_cmdPageBegin (python : PythonText) (obj : Fields) (session : PageSession) :
    (cmdPageBegin python obj).run.run session =
      match newPage python obj with
      | .ok page => (.ok [], { session with page := some page })
      | .error exc => (.error exc, session) := by
  unfold cmdPageBegin
  cases newPage python obj <;> rfl

theorem run_pageInProgress_bind {α : Type} {session : PageSession} {page : RawPage}
    (held : session.page = some page) (rest : RawPage → PageHandler α) :
    (pageInProgress >>= rest).run.run session = (rest page).run.run session := by
  obtain ⟨_, printing, prepared⟩ := session
  obtain rfl := held
  rfl

/-- `lines` is refused or appends rows that fit. -/
theorem cmdLines_cases (python : PythonText) (obj : Fields) (payload : Bytes)
    (session : PageSession) :
    (∃ exc, (cmdLines python obj payload).run.run session = (.error exc, session)) ∨
      ∃ page count, session.page = some page ∧ 0 < count ∧
        (payload.length : Int) = count * page.rowBytes ∧ page.rows + count ≤ page.lengthRows ∧
        (cmdLines python obj payload).run.run session =
          (.ok [("rows", .int (page.rows + count))],
            { session with
              page := some { page with
                rows := page.rows + count
                data := page.data ++ payload } }) := by
  cases held : session.page with
  | none =>
      obtain ⟨_, printing, prepared⟩ := session
      obtain rfl := held
      exact .inl ⟨_, rfl⟩
  | some page =>
      unfold cmdLines
      rw [run_pageInProgress_bind held]
      cases python.int ((assocGet "count" obj).getD (.int 0)) with
      | error exc => exact .inl ⟨exc, rfl⟩
      | ok count =>
          change (∃ exc, (addRows page count payload).run.run session = _) ∨
            ∃ page' count', _ ∧ _ ∧ _ ∧ _ ∧ (addRows page count payload).run.run session = _
          unfold addRows
          split
          · exact .inl ⟨_, rfl⟩
          · rename_i sized
            rw [not_or, not_le, not_not] at sized
            split
            · exact .inl ⟨_, rfl⟩
            · rename_i fits
              exact .inr ⟨page, count, rfl, sized.1, sized.2, not_lt.mp fits, rfl⟩

/-- `page_end` is refused or goes on to print a page that is complete. -/
theorem beginPageEnd_cases (linked : Except PyExc Unit) (session : PageSession) :
    (∃ exc, (beginPageEnd linked).run.run session = (.error exc, session)) ∨
      ∃ page, session.page = some page ∧ page.rows = page.lengthRows ∧
        (beginPageEnd linked).run.run session =
          (.ok (), { session with printing := true, prepared := session.prepared ++ [page] }) := by
  cases held : session.page with
  | none =>
      obtain ⟨_, printing, prepared⟩ := session
      obtain rfl := held
      exact .inl ⟨_, rfl⟩
  | some page =>
      unfold beginPageEnd
      rw [run_pageInProgress_bind held]
      split
      · exact .inl ⟨_, rfl⟩
      · rename_i complete
        cases linked with
        | error exc => exact .inl ⟨exc, rfl⟩
        | ok _ => exact .inr ⟨page, rfl, not_not.mp complete, by rw [← held]; rfl⟩

/-- A `page_end` whose checks pass goes on to print. -/
theorem perform_pageEnd (python : PythonText) {session : PageSession} {page : RawPage}
    (idle : session.printing = false) (held : session.page = some page)
    (complete : page.rows = page.lengthRows) :
    session.perform python (.pageEnd (.ok ())) =
      some (none, { session with printing := true, prepared := session.prepared ++ [page] }) := by
  obtain ⟨_, printing, prepared⟩ := session
  obtain rfl := idle
  obtain rfl := held
  have began : (beginPageEnd (.ok ())).run.run ⟨some page, false, prepared⟩ =
      (.ok (), ⟨some page, true, prepared ++ [page]⟩) := by
    unfold beginPageEnd
    rw [run_pageInProgress_bind rfl, if_neg (not_not.mpr complete)]
    rfl
  simp only [perform, began]

theorem run_finishPageEnd (outcome : Except PyExc Result) (session : PageSession) :
    (finishPageEnd outcome).run.run session =
      (outcome, { session with page := none, printing := false }) := by
  cases outcome <;> rfl

/-! ## Whole pages -/

/-- A new page has no rows yet, and its rows have whole bytes. -/
theorem checkedPage_whole {python : PythonText} {obj : Fields} {width lengthRows bits : Int}
    {page : RawPage} (begun : checkedPage python obj width lengthRows bits = .ok page) :
    page.Whole := by
  unfold checkedPage at begun
  split_ifs at begun with depth misaligned small
  obtain ⟨tone, -, checked⟩ := except_bind_eq_ok.mp begun
  dsimp only at checked
  split at checked
  · cases checked
  · obtain ⟨mediaLengthMm, -, built⟩ := except_bind_eq_ok.mp checked
    cases built
    refine ⟨by simp, le_refl _, ?_, ?_, ?_, depth⟩
    · dsimp only
      omega
    · dsimp only [RawPage.rowBytes]
      rcases depth with rfl | rfl <;> omega
    · dsimp only
      omega

theorem newPage_whole {python : PythonText} {obj : Fields} {page : RawPage}
    (begun : newPage python obj = .ok page) : page.Whole := by
  obtain ⟨⟨width, lengthRows, bits⟩, -, checked⟩ := except_bind_eq_ok.mp begun
  exact checkedPage_whole checked

/-- Rows of the right size keep a page whole. -/
theorem whole_add {page : RawPage} (whole : page.Whole) {count : Int} {payload : Bytes}
    (some_rows : 0 < count) (sized : (payload.length : Int) = count * page.rowBytes)
    (fits : page.rows + count ≤ page.lengthRows) :
    RawPage.Whole { page with rows := page.rows + count, data := page.data ++ payload } := by
  have nonneg := whole.rows_nonneg
  refine ⟨?_, by dsimp only; omega, fits, whole.rowBytes_eq, whole.width_pos, whole.depth⟩
  change ((page.data ++ payload).length : Int) = (page.rows + count) * page.rowBytes
  rw [List.length_append, Nat.cast_add, whole.data_length, sized, add_mul]

/-- The page is whole, and those given to `prepare_page` were full. -/
structure Sound (session : PageSession) : Prop where
  page : ∀ page ∈ session.page, page.Whole
  prepared : ∀ page ∈ session.prepared, page.Whole ∧ page.Full

/-- What an action does to the page: an error leaves it, unless a `page_end` has come to its end. -/
inductive ActionOutcome (python : PythonText) (session : PageSession) :
    PageAction → Option (Except PyExc Result) → PageSession → Prop
  | refused {action : PageAction} {exc : PyExc} (command : ∀ outcome, action ≠ .printed outcome) :
      ActionOutcome python session action (some (.error exc)) session
  | begun {obj : Fields} {page : RawPage} (made : newPage python obj = .ok page) :
      ActionOutcome python session (.pageBegin obj) (some (.ok []))
        { session with page := some page }
  | added {obj : Fields} {payload : Bytes} {page : RawPage} {count : Int} {result : Result}
      (held : session.page = some page) (some_rows : 0 < count)
      (sized : (payload.length : Int) = count * page.rowBytes)
      (fits : page.rows + count ≤ page.lengthRows) :
      ActionOutcome python session (.lines obj payload) (some (.ok result))
        { session with
          page := some { page with rows := page.rows + count, data := page.data ++ payload } }
  | prepares {linked : Except PyExc Unit} {page : RawPage} (held : session.page = some page)
      (complete : page.rows = page.lengthRows) :
      ActionOutcome python session (.pageEnd linked) none
        { session with printing := true, prepared := session.prepared ++ [page] }
  | ended {outcome : Except PyExc Result} :
      ActionOutcome python session (.printed outcome) (some outcome)
        { session with page := none, printing := false }

theorem perform_outcome {python : PythonText} {session next : PageSession} {action : PageAction}
    {answer : Option (Except PyExc Result)}
    (performed : session.perform python action = some (answer, next)) :
    ActionOutcome python session action answer next := by
  unfold perform at performed
  split at performed
  · rw [reply, run_finishPageEnd] at performed
    cases performed
    exact .ended
  · cases performed
  · rename_i running _
    cases performed
    exact .refused fun outcome printed => running outcome printed
  · rw [reply, run_cmdPageBegin] at performed
    split at performed <;> cases performed
    · rename_i made
      exact .begun made
    · exact .refused nofun
  · rename_i obj payload _
    rcases cmdLines_cases python obj payload session with
      ⟨exc, refused⟩ | ⟨page, count, held, some_rows, sized, fits, added⟩
    · rw [reply, refused] at performed
      cases performed
      exact .refused nofun
    · rw [reply, added] at performed
      cases performed
      exact .added held some_rows sized fits
  · rename_i linked _
    rcases beginPageEnd_cases linked session with ⟨exc, refused⟩ | ⟨page, held, complete, began⟩
    · rw [refused] at performed
      cases performed
      exact .refused nofun
    · rw [began] at performed
      cases performed
      exact .prepares held complete

theorem ActionOutcome.sound {python : PythonText} {session next : PageSession}
    {action : PageAction} {answer : Option (Except PyExc Result)} (sound : session.Sound)
    (outcome : ActionOutcome python session action answer next) : next.Sound := by
  cases outcome with
  | refused => exact sound
  | begun made =>
      refine ⟨?_, sound.prepared⟩
      rintro _ ⟨⟩
      exact newPage_whole made
  | added held some_rows sized fits =>
      refine ⟨?_, sound.prepared⟩
      rintro _ ⟨⟩
      exact whole_add (sound.page _ held) some_rows sized fits
  | @prepares _ page held complete =>
      refine ⟨sound.page, ?_⟩
      intro given member
      rcases List.mem_append.mp member with before | last
      · exact sound.prepared given before
      · obtain rfl := List.mem_singleton.mp last
        have whole := sound.page given held
        exact ⟨whole, whole.full complete⟩
  | ended => exact ⟨fun _ member => absurd member (Option.not_mem_none _), sound.prepared⟩

/-- Whatever the commands and their fields: the page in progress is whole, an error leaves it as it
was unless a `page_end` has gone on to print, which clears it, and only full pages are prepared.  A
`page_end` goes on to print when its checks pass. -/
theorem pages_stay_whole (python : PythonText) {actions : List PageAction} {session : PageSession}
    (ran : runs (step python) {} actions = some session) :
    (∀ page ∈ session.page, page.Whole) ∧
      (∀ page ∈ session.prepared, page.Whole ∧ page.Full) ∧
      ∀ action answer next, session.perform python action = some (answer, next) →
        (∀ outcome, action = .printed outcome → answer = some outcome ∧ next.page = none) ∧
        ((∀ outcome, action ≠ .printed outcome) →
          ∀ exc, answer = some (.error exc) → next.page = session.page) ∧
        ∀ page, action = .pageEnd (.ok ()) → session.printing = false →
          session.page = some page → page.rows = page.lengthRows →
            answer = none ∧ next.printing = true ∧
              next.prepared = session.prepared ++ [page] := by
  have sound : session.Sound := by
    apply @runs_induction _ _ (step python) {} fun _ session => session.Sound
    · exact ⟨fun _ member => absurd member (Option.not_mem_none _),
        fun _ member => absurd member List.not_mem_nil⟩
    · intro _ state action next kept stepped
      obtain ⟨⟨answer, _⟩, performed, rfl⟩ := Option.map_eq_some_iff.mp stepped
      exact (perform_outcome performed).sound kept
    · exact ran
  refine ⟨sound.page, sound.prepared, ?_⟩
  intro action answer next performed
  rw [← and_assoc]
  constructor
  · cases perform_outcome performed with
    | refused command =>
        exact ⟨fun outcome printed => (command outcome printed).elim, fun _ _ _ => rfl⟩
    | begun =>
        refine ⟨?_, ?_⟩
        · rintro _ ⟨⟩
        · rintro _ _ ⟨⟩
    | added =>
        refine ⟨?_, ?_⟩
        · rintro _ ⟨⟩
        · rintro _ _ ⟨⟩
    | prepares =>
        refine ⟨?_, ?_⟩
        · rintro _ ⟨⟩
        · rintro _ _ ⟨⟩
    | ended =>
        refine ⟨?_, fun command => (command _ rfl).elim⟩
        rintro _ ⟨⟩
        exact ⟨rfl, rfl⟩
  · rintro page rfl idle held complete
    rw [perform_pageEnd python idle held complete] at performed
    obtain ⟨rfl, rfl⟩ := Prod.mk.inj (Option.some.inj performed)
    exact ⟨rfl, rfl, rfl⟩

/-- A page of one row: two rows are refused before it is sent. -/
def rowActions : List PageAction :=
  [.pageBegin [("width", .int 8), ("length_rows", .int 1), ("bits", .int 1)],
    .lines [("count", .int 2)] [0, 0], .lines [("count", .int 1)] [255], .pageEnd (.ok ())]

def plainText : PythonText where
  intOf _ := none
  floatOf _ := none
  repr _ := ""

theorem pages_stay_whole_row :
    ∃ session, runs (step plainText) {} rowActions = some session ∧ session.prepared.length = 1 ∧
      ∀ page ∈ session.prepared, page.Whole ∧ page.Full := by
  have ran : (runs (step plainText) {} rowActions).map (·.prepared.length) = some 1 := by decide
  obtain ⟨session, ran, one⟩ := Option.map_eq_some_iff.mp ran
  exact ⟨session, ran, one, (pages_stay_whole plainText ran).2.1⟩

end PageSession

/-! ## The session of the bridge -/

/-- A page of the session as the pages of the bridge have it. -/
structure RawPage.Represents (raw : RawPage) (page : PageBuffer) : Prop where
  width : raw.width = page.width
  lengthRows : raw.lengthRows = page.lengthRows
  bits : raw.bits = page.bits.toNat
  tone : raw.tone = page.tone
  density : raw.density = page.density
  mediaLengthMm : raw.mediaLengthMm = page.mediaLengthMm.map .finite
  rotate : raw.rotate = page.rotate
  rows : raw.rows = page.rows
  data : raw.data = page.data

namespace PageSession

theorem pageTone_toneMode {python : PythonText} {obj : Fields} {tone : ToneMode}
    (named : pageTone python obj = .ok tone) (env : Env) {request : PageRequest}
    (toneName : request.tone = python.str ((assocGet "tone" obj).getD (.str "auto")))
    (content : request.content = python.str ((assocGet "content" obj).getD (.str "auto"))) :
    request.toneMode env = .ok tone := by
  unfold pageTone at named
  unfold PageRequest.toneMode
  rw [toneName, content]
  dsimp only at named
  split at named
  · rename_i auto
    rw [if_pos auto]
    exact named
  · rename_i given
    rw [if_neg given]
    generalize ToneMode.ofName (python.str ((assocGet "tone" obj).getD (.str "auto"))) = known
      at named ⊢
    cases known with
    | none => cases named
    | some tone => exact named

/-- `page_begin` starts the page that the fields of its request ask for. -/
theorem newPage_represents {python : PythonText} {obj : Fields} {raw : RawPage}
    (begun : newPage python obj = .ok raw)
    (finite : ∀ length ∈ raw.mediaLengthMm, ∃ value, length = .finite value) (env : Env) :
    ∃ request page, PageRequest.begin env request = .ok page ∧ raw.Represents page := by
  obtain ⟨⟨width, lengthRows, bits⟩, -, checked⟩ := except_bind_eq_ok.mp begun
  change checkedPage python obj width lengthRows bits = .ok raw at checked
  unfold checkedPage at checked
  split_ifs at checked with depth misaligned small
  obtain ⟨tone, named, checked⟩ := except_bind_eq_ok.mp checked
  dsimp only at checked
  split at checked
  · cases checked
  · rename_i density known
    obtain ⟨mediaLengthMm, -, built⟩ := except_bind_eq_ok.mp checked
    cases built
    obtain ⟨length, sameLength⟩ : ∃ length : Option ℚ, mediaLengthMm = length.map .finite := by
      cases mediaLengthMm with
      | none => exact ⟨none, rfl⟩
      | some length =>
          obtain ⟨value, rfl⟩ := finite length rfl
          exact ⟨some value, rfl⟩
    let request : PageRequest :=
      { width, lengthRows, bits
        tone := python.str ((assocGet "tone" obj).getD (.str "auto"))
        content := python.str ((assocGet "content" obj).getD (.str "auto"))
        density := python.str ((assocGet "density" obj).getD (.str "medium"))
        mediaLengthMm := length
        rotate := ((assocGet "rotate" obj).getD (.bool false)).truth }
    have sameTone : request.toneMode env = .ok tone := pageTone_toneMode named env rfl rfl
    have sameDensity : request.densityLevel env = .ok density := by
      unfold PageRequest.densityLevel
      rw [known]
    obtain ⟨pageBits, accepted⟩ : ∃ pageBits, PageBits.ofInt bits = some pageBits := by
      rcases depth with rfl | rfl
      · exact ⟨.one, rfl⟩
      · exact ⟨.eight, rfl⟩
    have sameBits := PageBits.ofInt_eq_some accepted
    have aligned : pageBits = .one → width % 8 = 0 := by
      rintro rfl
      by_contra odd
      exact misaligned ⟨sameBits, odd⟩
    have positive : 0 < width.toNat ∧ 0 < lengthRows.toNat := by omega
    refine ⟨request, ?_⟩
    unfold PageRequest.begin
    simp only [request, accepted]
    rw [dif_pos aligned, dif_pos positive]
    simp only [request] at sameTone sameDensity
    rw [sameTone, sameDensity]
    have wide : 0 ≤ width := by omega
    have tall : 0 ≤ lengthRows := by omega
    exact ⟨_, rfl, (Int.toNat_of_nonneg wide).symm, (Int.toNat_of_nonneg tall).symm, sameBits, rfl,
      rfl, sameLength, rfl, rfl, rfl⟩

/-- `lines` does to a page what the bridge's model of it does. -/
theorem cmdLines_represents (python : PythonText) (obj : Fields) (payload : Bytes)
    {session : PageSession} {raw : RawPage} (held : session.page = some raw) {page : PageBuffer}
    (represents : raw.Represents page) :
    match Session.takeLines (some page) (python.int ((assocGet "count" obj).getD (.int 0)))
      payload with
    | .error exc => (cmdLines python obj payload).run.run session = (.error exc, session)
    | .ok next => ∃ rawNext : RawPage, rawNext.Represents next ∧
        (cmdLines python obj payload).run.run session =
          (.ok [("rows", .int next.rows)], { session with page := some rawNext }) := by
  have sameRow : raw.rowBytes = page.rowBytes := by
    rw [RawPage.rowBytes, represents.width, represents.bits, PageBuffer.rowBytes]
    push_cast
    rfl
  unfold cmdLines
  rw [run_pageInProgress_bind held]
  unfold Session.takeLines
  cases python.int ((assocGet "count" obj).getD (.int 0)) with
  | error exc => rfl
  | ok count =>
      change match (if sized : 0 < count ∧ payload.length = count.toNat * page.rowBytes then _
          else _ : Except PyExc PageBuffer) with
        | .error exc => (addRows raw count payload).run.run session = (.error exc, session)
        | .ok next => ∃ rawNext : RawPage, rawNext.Represents next ∧
            (addRows raw count payload).run.run session =
              (.ok [("rows", .int next.rows)], { session with page := some rawNext })
      unfold addRows
      rw [sameRow]
      by_cases sized : 0 < count ∧ payload.length = count.toNat * page.rowBytes
      · have counted : (count.toNat : Int) = count := Int.toNat_of_nonneg sized.1.le
        have rawSized : ¬(count ≤ 0 ∨ (payload.length : Int) ≠ count * page.rowBytes) := by
          rw [not_or, not_le, not_not]
          exact ⟨sized.1, by rw [sized.2, Nat.cast_mul, counted]⟩
        have total : raw.rows + count = ((page.rows + count.toNat : Nat) : Int) := by
          rw [represents.rows, Nat.cast_add, counted]
        have declared := represents.lengthRows
        rw [dif_pos sized, if_neg rawSized]
        by_cases fits : page.rows + count.toNat ≤ page.lengthRows
        · rw [dif_pos fits, if_neg (by omega)]
          refine ⟨{ raw with rows := raw.rows + count, data := raw.data ++ payload }, ?_, ?_⟩
          · exact ⟨represents.width, declared, represents.bits, represents.tone,
              represents.density, represents.mediaLengthMm, represents.rotate, total,
              congrArg (· ++ payload) represents.data⟩
          · change _ = (Except.ok [("rows", Json.int ((page.rows + count.toNat : Nat) : Int))], _)
            rw [← total]
            rfl
        · rw [dif_neg fits, if_pos (by omega), total, declared]
          rfl
      · have rawMissized : count ≤ 0 ∨ (payload.length : Int) ≠ count * page.rowBytes := by
          by_contra rawSized
          rw [not_or, not_le, not_not] at rawSized
          have counted : (count.toNat : Int) = count := Int.toNat_of_nonneg rawSized.1.le
          refine sized ⟨rawSized.1, ?_⟩
          have exactly := rawSized.2
          rw [← counted] at exactly
          exact_mod_cast exactly
        rw [dif_neg sized, if_pos rawMissized]
        rfl

end PageSession

/-- A `page_end` that passes its checks clears the page, however it ends; one that does not leaves
it. -/
theorem Session.cmdPageEnd_clears (env : Env) (w : World) :
    Ensures (fun _ => True) (Session.cmdPageEnd env)
      ⟨fun _ next _ => next.session.page = none,
        fun _ next _ => ((∃ page p, w.Printable page p) → next.session.page = none) ∧
          ((¬∃ page p, w.Printable page p) → next.session.page = w.session.page),
        fun _ _ => True⟩ w [] := by
  apply ensures_cmdPageEnd
  · intro unprintable text
    refine ⟨fun ⟨page, p, printable⟩ => (unprintable page p printable).elim, fun _ => rfl⟩
  · intro page p printable
    apply Ensures.of_forall
    · exact fun _ _ _ => rfl
    · exact fun _ _ _ => ⟨fun _ => rfl, fun unprintable => (unprintable ⟨page, p, printable⟩).elim⟩
    · exact fun _ _ => trivial

end Phomemo
