import Phomemo.Manifest
import Phomemo.Raster

/-!
# The limits of the raster stream

`load_manifest` checks the types of the numbers in a manifest, not the sizes of the command fields
they are sent in.  With a loaded profile the raster stream ends without an exception exactly when
these numbers fit.
-/

namespace Phomemo

namespace ManifestProfile

/-- A loaded profile as the raster stream reads it; the sheet has no part in it. -/
def raster (profile : ManifestProfile) (aligned : profile.printWidthPx % 8 = 0) :
    PrinterProfile where
  name := profile.name
  bleNamePattern := profile.bleNamePattern
  printWidthPx := profile.printWidthPx
  dpi := profile.dpi
  bandHeight := profile.bandHeight
  densityLevels := profile.densityLevels
  width_aligned := aligned
  sheet_printable := PrinterProfile.sheetless_printable

end ManifestProfile

/-- With a loaded profile the raster stream of a page ends without an exception exactly when the
concentration value is a byte and the bands fit the fields of their headers. -/
theorem loaded_raster_ends_iff {env : ManifestEnv} {path directory text : String}
    {profile : ManifestProfile} (loaded : loadManifest env path directory text = .ok profile)
    (bitmap : Bytes) (height : Nat) (density : Option Density) (mode : ScaleMode)
    (feedLines : Int) :
    (∃ stream bands, buildRasterStream (profile.raster (loadManifest_aligned loaded)) bitmap height
        density mode feedLines = some (.ok (stream, bands))) ↔
      (profile.raster (loadManifest_aligned loaded)).DensityFits density ∧
        (profile.raster (loadManifest_aligned loaded)).BandsFit height :=
  buildRasterStream_eq_ok_iff

/-- One row with the manifest of the M08F. -/
theorem loaded_raster_ends_m08f :
    ∃ profile, ∃ loaded : libraryReads "m08f" (m08fManifest "m08f" 203 (.float "10.0") m08fMedia) =
        .ok profile, ∃ stream bands,
      buildRasterStream (profile.raster (loadManifest_aligned loaded)) (List.replicate 210 0xff) 1
        (some .medium) .normal 20 = some (.ok (stream, bands)) := by
  have numbers : (libraryReads "m08f" (m08fManifest "m08f" 203 (.float "10.0") m08fMedia)).map
      (fun profile => (profile.printWidthPx, profile.bandHeight, profile.densityLevels)) =
        .ok (1680, 256, some (1, 5, 6)) := by decide +kernel
  obtain ⟨profile, loaded, same⟩ := except_map_eq_ok.mp numbers
  obtain ⟨width, rest⟩ := Prod.mk.inj same
  obtain ⟨band, density⟩ := Prod.mk.inj rest
  refine ⟨profile, loaded, (loaded_raster_ends_iff loaded _ _ _ _ _).mpr ⟨?_, ?_⟩⟩
  · simp [PrinterProfile.DensityFits, PrinterProfile.densityValue, ManifestProfile.raster, density]
  · simp [PrinterProfile.BandsFit, PrinterProfile.widthBytes, ManifestProfile.raster, width, band]

/-- The manifest of the M08F with another value for one of its keys. -/
def m08fWith (key : String) (value : Json) : Fields :=
  assocSet key value (m08fManifest "m08f" 203 (.float "10.0") m08fMedia)

/-- The stream of a page of one black row, with the profile the library reads. -/
def rasterOf (data : Fields) : Option (Except PyExc (Bytes × List Band)) :=
  match loaded : libraryReads "m08f" data with
  | .error exc => some (.error exc)
  | .ok profile =>
      let raster := profile.raster (loadManifest_aligned loaded)
      buildRasterStream raster (List.replicate raster.widthBytes.toNat 0xff) 1 (some .medium)
        .normal 20

/-- The library reads manifests with a band height of zero, a concentration value of 256 and a head
of 65536 bytes.  With the first the loop of a page never ends, with the others it raises. -/
theorem loaded_raster_fails :
    let idle := m08fWith "band_height" (.int 0)
    let dark := m08fWith "density" (.obj [("low", .int 1), ("medium", .int 256), ("high", .int 6)])
    let wide := m08fWith "print_width_px" (.int 524288)
    (libraryReads "m08f" idle).map (·.bandHeight) = .ok 0 ∧ rasterOf idle = none ∧
    (libraryReads "m08f" dark).map (·.densityLevels) = .ok (some (1, 256, 6)) ∧
    rasterOf dark = some (.error (.valueError "bytes must be in range(0, 256)")) ∧
    (libraryReads "m08f" wide).map (·.printWidthPx) = .ok 524288 ∧
    rasterOf wide = some (.error (.overflowError "int too big to convert")) := by
  intro idle dark wide
  have idles : (libraryReads "m08f" idle).map (·.bandHeight) = .ok 0 ∧ rasterOf idle = none := by
    decide +kernel
  have darkens : (libraryReads "m08f" dark).map (·.densityLevels) = .ok (some (1, 256, 6)) ∧
      rasterOf dark = some (.error (.valueError "bytes must be in range(0, 256)")) := by
    decide +kernel
  have widens : (libraryReads "m08f" wide).map (·.printWidthPx) = .ok 524288 ∧
      rasterOf wide = some (.error (.overflowError "int too big to convert")) := by
    decide +kernel
  exact ⟨idles.1, idles.2, darkens.1, darkens.2, widens.1, widens.2⟩

end Phomemo
