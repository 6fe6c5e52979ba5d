import EpaperLayout.Proofs.Disk.WholeReplacement
import EpaperLayout.Proofs.Layout.ExchangeForm

/-!
# A saved layout is loaded again

Saving a layout replaces a file by the exchange form of the layout and a line feed.  That
text is read as the layout it was written for, whether the layout is valid or not.  So
what was saved is loaded again if only the file is read.

**Limit.**  The file that is left after saving may not be readable: the temporary file
may have been there before, as one that must not be read or as a link.  A link to the
file itself becomes a link to itself.  Then nothing is loaded, but no other layout is.

**Results.**
* `loadDevice_saveDevice`: exactly when what was saved without an error is loaded again.
* `loadDevice_saveDevice_linkToItself`: when it is not.
-/

namespace EpaperLayout
namespace Disk.Tree

/-- A layout that was saved has replaced its file. -/
theorem replaceFile_of_saveDevice
    {tree : Tree} {device : Device} {path : Path}
    (h : (tree.saveDevice device path).error = none) :
    (tree.replaceFile (temporaryPath path) path (device.toText ++ "\n")).error = none ∧
      (tree.saveDevice device path).tree =
        (tree.replaceFile (temporaryPath path) path (device.toText ++ "\n")).tree := by
  rw [saveDevice] at h ⊢
  simpa only [Option.map_eq_none_iff, and_true] using h

/-- **A layout that was saved is loaded again** exactly if its temporary file is read while the path
has nothing; else nothing is read.  Without links this is the case exactly if the temporary file may
be read. -/
theorem loadDevice_saveDevice
    (tree : Tree)
    (device : Device)
    (path : Path)
    (h : (tree.saveDevice device path).error = none) :
    ((tree.saveDevice device path).tree.loadDevice path = .ok device ↔
      tree.ReadsApart (temporaryPath path) path (device.toText ++ "\n")) ∧
    (¬tree.ReadsApart (temporaryPath path) path (device.toText ++ "\n") →
      ∃ error, (tree.saveDevice device path).tree.loadDevice path = .error (.read path error)) ∧
    (tree.LinkFree →
      (tree.ReadsApart (temporaryPath path) path (device.toText ++ "\n") ↔
        tree.readableAt (tree.place (temporaryPath path)) = true)) := by
  obtain ⟨hreplaced, htree⟩ := replaceFile_of_saveDevice h
  have hnext := isNextTo_temporaryPath path
  have hlinkFree (hlinks : tree.LinkFree) := readsApart_iff hlinks hnext
    (fun _ => place_temporaryPath_ne tree path) hreplaced
  rw [htree]
  rcases readText_replaceFile_cases hnext hreplaced with
    ⟨hreads, hread⟩ | ⟨hreads, error, hread⟩
  · have hload : (tree.replaceFile (temporaryPath path) path (device.toText ++ "\n")).tree.loadDevice
        path = .ok device := by
      simp only [loadDevice, hread, Device.ofText_toText]
    exact ⟨⟨fun _ => hreads, fun _ => hload⟩, fun hnot => absurd hreads hnot, hlinkFree⟩
  · have hload : (tree.replaceFile (temporaryPath path) path (device.toText ++ "\n")).tree.loadDevice
        path = .error (.read path error) := by
      simp only [loadDevice, hread]
    refine ⟨⟨fun hok => ?_, fun hreads' => absurd hreads' hreads⟩, fun _ => ⟨error, hload⟩,
      hlinkFree⟩
    rw [hload] at hok
    cases hok

/-- A layout is saved in a directory that is made for it. -/
theorem loadDevice_saveDevice_newDirectory :
    let device : Device :=
      { id := "Flur \"1\"", name := "Küche\n☕"
        pages := [
          { id := "", title := "Überblick", ordinal := 7
            widgets := [
              { id := "w", kind := .gauge, dataPoint := some "", x := 0, y := 4294967295
                width := 0, height := 1
                style := { text := some "\\u0041", color := some ⟨255, 0, 16⟩, min := some (-5)
                           max := some 5 } }] }] }
    (({} : Tree).saveDevice device "panels/hall.json").error = none ∧
      (({} : Tree).saveDevice device "panels/hall.json").tree.loadDevice "panels/hall.json" =
        .ok device := by
  intro device
  have hsaved : (({} : Tree).saveDevice device "panels/hall.json").error = none := by
    decide +kernel
  obtain ⟨hload, -, hreads⟩ := loadDevice_saveDevice {} device "panels/hall.json" hsaved
  refine ⟨hsaved, hload.mpr ((hreads (linkFree_of_forall_mem (by simp))).mpr ?_)⟩
  decide +kernel

/-- A disk with a file and, where its temporary file is written, a link to it. -/
def looseDisk : Tree where
  entries := [(["a.json"], .file [123, 125]), (["a.json.tmp"], .link "a.json")]

/-- A link to the file itself takes the place of the file, and nothing is loaded. -/
theorem loadDevice_saveDevice_linkToItself :
    let device : Device := { id := "hall", name := "Hall" }
    (looseDisk.saveDevice device "a.json").error = none ∧
      (looseDisk.saveDevice device "a.json").tree.get? ["a.json"] = some (.link "a.json") ∧
      (looseDisk.saveDevice device "a.json").tree.loadDevice "a.json" =
        .error (.read "a.json" .tooManyLinks) := by
  decide +kernel

end Disk.Tree
end EpaperLayout
