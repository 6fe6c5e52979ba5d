import EpaperLayout.Proofs.Snippet.CodeShape
import EpaperLayout.Proofs.Snippet.RoutineRoundTrip
import EpaperLayout.Proofs.Snippet.Tolerance

/-!
# Snippets are read back

A device without violations has a snippet, and reading the snippet leads to the
device again, with the identifier that the caller gives.  The proof takes any
comments in the places of the widget markers, so that it also tells what is left of
the device if some of the markers are damaged.

**Results.**
* `exists_importSnippet_eq`: what is read of a snippet with any comments for widgets.
* `importSnippet_generate`: a generated snippet is read back as its device.
-/

namespace EpaperLayout
namespace Snippet

section Marked

variable (marking : Marking)

/-- The snippet of a device with the lines for its widgets. -/
def Marking.snippet (device : Device) : String :=
  snippetWith device (routineLinesWith marking.mark device)

/-- The snippet of a device with pages has a usable dispatch. -/
def usableSnippet
    {device : Device}
    (hpages : device.pages ≠ []) :
    UsableDocument (marking.snippet device) where
  document := snippetDocument (marking.routineText device)
  before := []
  source := marking.routineText device
  after := []
  loaded := ofText_snippetWith device (marking.isLiteral_routineLinesWith device)
  isMapping := rfl
  routines := displayLambdas_snippetDocument _
  first := by
    intro other hother
    cases hother
  usable := usableRoutine marking hpages
    (firstLine (marking.snippet device) (marking.routineText device))

/-- What is read of the document of a snippet is what is read of the routine. -/
theorem importSnippet_usableSnippet
    {device : Device} {deviceId : String}
    (hpages : device.pages ≠ [])
    (hid : Text.isBlankText deviceId = false) :
    importSnippet (marking.snippet device) deviceId =
      .ok {
        device := (usableRoutine marking hpages
          (firstLine (marking.snippet device) (marking.routineText device))).device deviceId
        warnings := (usableRoutine marking hpages
          (firstLine (marking.snippet device) (marking.routineText device))).warnings
            [] deviceId } := by
  have hread := (usableSnippet marking hpages).importSnippet_eq_ok hid
  simp only [UsableDocument.device, UsableDocument.warnings, usableSnippet,
    sectionWarnings_snippetDocument] at hread
  exact hread

/-- The warning that a device had another identifier. -/
def renamingWarnings (device : Device) (deviceId : String) : List Warning :=
  if device.id = deviceId then [] else [{ line := none, oddity := .otherDevice device.id deviceId }]

/-- **A snippet is read back without the widgets whose comments are damaged.** -/
theorem exists_importSnippet_eq
    {device : Device} {deviceId : String}
    (hvalid : device.violations = [])
    (hid : Text.isBlankText deviceId = false) :
    ∃ noted, importSnippet (marking.snippet device) deviceId =
        .ok { device := { device with id := deviceId, pages := device.pages.map marking.keep }
              warnings := noted ++ renamingWarnings device deviceId } ∧
      noted.map Warning.line =
        (marking.damagedPageLines
          (firstLine (marking.snippet device) (marking.routineText device) + 2)
          device.pages).map some := by
  obtain ⟨-, hpages, hviolations⟩ := (Device.violations_eq_nil_iff device).mp hvalid
  let number := firstLine (marking.snippet device) (marking.routineText device)
  obtain ⟨noted, hreading, hlines⟩ :=
    exists_reading_usableRoutine marking hpages number hviolations
  have hdevice : (usableRoutine marking hpages number).device deviceId =
      { device with id := deviceId, pages := device.pages.map marking.keep } := by
    rw [UsableDispatch.device, outside_usableRoutine, hreading]
    rfl
  have hwarnings : (usableRoutine marking hpages number).warnings [] deviceId =
      noted ++ renamingWarnings device deviceId := by
    rw [UsableDispatch.warnings, outside_usableRoutine, hreading, List.nil_append,
      List.append_nil, renamingWarnings, otherDevice?]
    change noted ++ (if device.id = deviceId then none else some _ : Option Warning).toList = _
    split <;> rfl
  refine ⟨noted, ?_, hlines⟩
  rw [importSnippet_usableSnippet marking hpages hid, hdevice, hwarnings]

end Marked

section Generated

theorem snippet_written (device : Device) :
    Marking.written.snippet device = joinLines (lines device) := by
  rw [Marking.snippet, Marking.routineLinesWith_written]
  rfl

theorem keep_written (page : Page) : Marking.written.keep page = page := by
  have hall : page.widgets.filter (fun widget => !Marking.written.isDamaged widget) =
      page.widgets :=
    List.filter_eq_self.mpr fun _ _ => rfl
  rw [Marking.keep, hall]

/-- **A generated snippet is read back as its device.** -/
theorem importSnippet_generate
    {device : Device} {deviceId : String}
    (hvalid : device.validate.isValid = true)
    (hid : Text.isBlankText deviceId = false) :
    ∃ snippet, generate device = .ok snippet ∧
      importSnippet snippet deviceId =
        .ok { device := { device with id := deviceId }
              warnings := renamingWarnings device deviceId } := by
  have hgenerate := generate_eq_ok hvalid
  obtain ⟨noted, himport, hlines⟩ := exists_importSnippet_eq Marking.written
    ((Device.isValid_validate_iff device).mp hvalid) hid
  have hnone : noted = [] := by
    have hlength := congrArg List.length hlines
    have hintact : (device.pages.flatMap Page.widgets).countP Marking.written.isDamaged = 0 :=
      List.countP_eq_zero.mpr fun _ _ => Bool.false_ne_true
    rw [List.length_map, List.length_map, length_damagedPageLines, hintact] at hlength
    exact List.length_eq_zero_iff.mp hlength
  have hpages : device.pages.map Marking.written.keep = device.pages := by
    rw [funext keep_written, List.map_id']
  rw [snippet_written, hnone, hpages, List.nil_append] at himport
  exact ⟨joinLines (lines device), hgenerate, himport⟩

/-- A sign with hostile texts is read back under another identifier. -/
theorem importSnippet_generate_hostileSign :
    (signWith "*/ //@page" "\" \n \x7d" "\\\"); case 7: \x7b").validate.isValid = true ∧
      Text.isBlankText "hall" = false ∧
      ∃ snippet, generate (signWith "*/ //@page" "\" \n \x7d" "\\\"); case 7: \x7b") =
          .ok snippet ∧
        importSnippet snippet "hall" =
          .ok {
            device :=
              { signWith "*/ //@page" "\" \n \x7d" "\\\"); case 7: \x7b" with id := "hall" }
            warnings := [{ line := none, oddity := .otherDevice "*/ //@page" "hall" }] } := by
  have hvalid :
      (signWith "*/ //@page" "\" \n \x7d" "\\\"); case 7: \x7b").validate.isValid = true := by
    decide
  have hid : Text.isBlankText "hall" = false := by
    decide
  exact ⟨hvalid, hid, importSnippet_generate hvalid hid⟩

end Generated

end Snippet
end EpaperLayout
