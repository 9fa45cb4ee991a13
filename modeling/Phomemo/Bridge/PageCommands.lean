import Phomemo.Session

/-!
# The commands that build a page

What `page_begin` makes of its fields, and what `lines` makes of its rows, as functions of the page
in progress.  Neither awaits anything, so the session runs them in one step.
-/

namespace Phomemo

open Async Coroutine

/-- The fields of a `page_begin`, converted to numbers. -/
structure PageRequest where
  width : Int
  lengthRows : Int
  bits : Int := 8
  tone : String := "auto"
  content : String := "auto"
  density : String := "medium"
  mediaLengthMm : Option ℚ := none
  rotate : Bool := false

/-- The accepted depths. -/
def PageBits.ofInt : Int → Option PageBits
  | 1 => some .one
  | 8 => some .eight
  | _ => none

theorem PageBits.ofInt_eq_some {value : Int} {bits : PageBits}
    (accepted : ofInt value = some bits) : value = bits.toNat := by
  unfold ofInt at accepted
  split at accepted
  · obtain rfl := Option.some.inj accepted
    rfl
  · obtain rfl := Option.some.inj accepted
    rfl
  · cases accepted

/-- `ToneMode(tone_name)`. -/
def ToneMode.ofName : String → Option ToneMode
  | "threshold" => some .threshold
  | "ordered" => some .ordered
  | "diffusion" => some .diffusion
  | _ => none

/-- `_DENSITY.get(density_name)`. -/
def Density.ofName : String → Option Density
  | "low" => some .low
  | "medium" => some .medium
  | "high" => some .high
  | _ => none

namespace PageRequest

/-- The tone: text and graphics stay sharp unless the client names one. -/
def toneMode (env : Env) (request : PageRequest) : Except PyExc ToneMode :=
  if request.tone = "auto" then
    .ok (if request.content = "text" ∨ request.content = "graphic" then .threshold else .diffusion)
  else
    match ToneMode.ofName request.tone with
    | some tone => .ok tone
    | none =>
        let shown := env.repr (.str request.tone)
        .error (.commandError s!"unknown tone {shown}")

/-- The density. -/
def densityLevel (env : Env) (request : PageRequest) : Except PyExc Density :=
  match Density.ofName request.density with
  | some density => .ok density
  | none =>
      let shown := env.repr (.str request.density)
      .error (.commandError s!"unknown density {shown}")

/-- The empty page a `page_begin` starts. -/
def begin (env : Env) (request : PageRequest) : Except PyExc PageBuffer :=
  match PageBits.ofInt request.bits with
  | none => .error (.commandError "bits must be 1 or 8")
  | some bits =>
      if aligned : bits = .one → request.width % 8 = 0 then
        if positive : 0 < request.width.toNat ∧ 0 < request.lengthRows.toNat then
          match request.toneMode env with
          | .error exc => .error exc
          | .ok tone =>
              match request.densityLevel env with
              | .error exc => .error exc
              | .ok density =>
                  .ok
                    { width := request.width.toNat
                      lengthRows := request.lengthRows.toNat
                      bits
                      tone
                      density
                      mediaLengthMm := request.mediaLengthMm
                      rotate := request.rotate
                      width_pos := positive.1
                      lengthRows_pos := positive.2
                      width_aligned := fun one => by
                        have := aligned one
                        omega
                      rows_le := Nat.zero_le _
                      data_length := by simp }
        else .error (.commandError "width and length_rows must be positive")
      else .error (.commandError "1-bit pages need a width that is a multiple of 8")

/-- A page starts empty, as large as it was declared. -/
theorem begin_ok {env : Env} {request : PageRequest} {page : PageBuffer}
    (begun : request.begin env = .ok page) :
    PageBits.ofInt request.bits = some page.bits ∧ (page.width : Int) = request.width ∧
      (page.lengthRows : Int) = request.lengthRows ∧ page.rows = 0 ∧ page.data = [] := by
  unfold begin at begun
  split at begun
  · cases begun
  · rename_i bits depth
    split_ifs at begun with aligned positive
    split at begun
    · cases begun
    · split at begun
      · cases begun
      · obtain rfl := Except.ok.inj begun
        exact ⟨depth, Int.toNat_of_nonneg (by omega), Int.toNat_of_nonneg (by omega), rfl, rfl⟩

end PageRequest

theorem PageBuffer.payload_length {page : PageBuffer} {count : Int} {rows : Nat} {payload : Bytes}
    (sized : 0 < count ∧ payload.length = rows * page.rowBytes) :
    payload.length = rows * page.rowBytes :=
  sized.2

namespace Session

/-- The page after `lines`. -/
def takeLines (page : Option PageBuffer) (count : Except PyExc Int) (payload : Bytes) :
    Except PyExc PageBuffer :=
  match page with
  | none => .error (.commandError "no page in progress")
  | some page =>
      match count with
      | .error exc => .error exc
      | .ok count =>
          let rows := count.toNat
          if sized : 0 < count ∧ payload.length = rows * page.rowBytes then
            if fits : page.rows + rows ≤ page.lengthRows then
              .ok (page.addLines rows payload (PageBuffer.payload_length sized) fits)
            else
              let total := page.rows + rows
              let declared := page.lengthRows
              .error (.commandError s!"{total} rows exceed the declared length_rows {declared}")
          else
            let expected := count * page.rowBytes
            let got := payload.length
            .error (.commandError s!"expected {expected} bytes for {count} rows, got {got}")

/-- Rows of the right size that fit are appended. -/
theorem takeLines_fits {page : PageBuffer} {count : Nat} {payload : Bytes} (some_rows : 0 < count)
    (sized : payload.length = count * page.rowBytes) (fits : page.rows + count ≤ page.lengthRows) :
    ∃ next, takeLines (some page) (.ok count) payload = .ok next ∧
      next.rows = page.rows + count ∧ next.lengthRows = page.lengthRows ∧
        next.rowBytes = page.rowBytes ∧ next.data = page.data ++ payload := by
  refine ⟨page.addLines count payload sized fits, ?_, rfl, rfl, rfl, rfl⟩
  simp [takeLines, some_rows, sized, fits]

/-- `lines` runs in one step. -/
theorem cmdLines_eq (count : Except PyExc Int) (payload : Bytes) (w : World)
    (script : List Tick) :
    cmdLines count payload w script =
      match takeLines w.session.page count payload with
      | .error exc => ⟨[], .raised exc w script⟩
      | .ok page =>
          ⟨[], .returned [("rows", .int page.rows)]
            (w.setSession fun session => { session with page := some page }) script⟩ := by
  cases held : w.session.page with
  | none => simp only [cmdLines, takeLines, held, bind, Coroutine.bind, Coroutine.read]; rfl
  | some page =>
      cases count with
      | error exc =>
          simp only [cmdLines, takeLines, held, bind, Coroutine.bind, Coroutine.read]
          rfl
      | ok count =>
          simp only [cmdLines, takeLines, held, bind, Coroutine.bind, Coroutine.read, ofExcept,
            pure, Coroutine.pure]
          by_cases sized : 0 < count ∧ payload.length = count.toNat * page.rowBytes
          · by_cases fits : page.rows + count.toNat ≤ page.lengthRows
            · simp only [dif_pos sized, dif_pos fits]
              rfl
            · simp only [dif_pos sized, dif_neg fits]
              rfl
          · simp only [dif_neg sized]
            rfl

/-- So does `page_begin`. -/
theorem cmdPageBegin_eq (page : Except PyExc PageBuffer) (w : World) (script : List Tick) :
    cmdPageBegin page w script =
      match page with
      | .error exc => ⟨[], .raised exc w script⟩
      | .ok page =>
          ⟨[], .returned [] (w.setSession fun session => { session with page := some page })
            script⟩ := by
  cases page <;> rfl

end Session

end Phomemo
