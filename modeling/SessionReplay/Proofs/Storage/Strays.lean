import SessionReplay.Proofs.Storage.Lookup
import SessionReplay.Proofs.Text.Lossy
import SessionReplay.Storage.Stray

/-!
# Names of either kind

Names are told apart by their bytes. A path to a text is shown as it is; of other paths several may
be shown alike.

* `EntryName.bytes_injective`, `EntryName.shown_text`, `EntryName.path_stray_ne`.
* `EntryName.pairwise_sort`: names that are sorted ascend if each of them is there once.
* `Disk.ListsBeside`: a folder lists a name of either kind.
-/

namespace SessionReplay

open Storage

namespace Storage.EntryName

theorem utf8_ne_stray {n : Stray} {s : String} : Text.utf8 s ≠ n.bytes := by
  intro hSame
  have hNoText := n.noText
  simp only [isStray, Bool.and_eq_true, Option.isNone_iff_eq_none] at hNoText
  have hNone := hNoText.1.1.1
  rw [← hSame, Text.toByteArray_utf8, Text.fromUTF8?_toUTF8] at hNone
  cases hNone

theorem bytes_injective : Function.Injective bytes := by
  intro a b hSame
  cases a with
  | text s =>
    cases b with
    | text t => rw [Text.utf8_injective hSame]
    | stray n => exact absurd hSame utf8_ne_stray
  | stray m =>
    cases b with
    | text t => exact absurd hSame.symm utf8_ne_stray
    | stray n =>
      obtain ⟨bytes, hBytes⟩ := m
      obtain rfl : bytes = n.bytes := hSame
      rfl

@[simp] theorem shown_text (folder name : String) :
    (text name).shown folder = Path.join folder name :=
  Text.lossy_utf8 _

/-- No text is the path to a name that is none. -/
theorem path_stray_ne (folder s : String) (n : Stray) : (stray n).path folder ≠ Text.utf8 s := by
  intro hSame
  have hText : Path.join folder "" ++ Text.lossy n.bytes = s := by
    rw [← Text.lossy_utf8_append, ← Text.lossy_utf8 s, ← hSame, path]
  rw [path, ← hText, Text.utf8_append, List.append_cancel_left_eq] at hSame
  exact utf8_ne_stray hSame.symm

/-! ## Sorting -/

@[simp] theorem mem_sort {names : List EntryName} {name : EntryName} :
    name ∈ sort names ↔ name ∈ names :=
  List.mem_mergeSort

theorem sort_of_pairwise {names : List EntryName}
    (hOrder : names.Pairwise fun a b => a.bytes ≤ b.bytes) : sort names = names :=
  List.mergeSort_of_pairwise (by simpa using hOrder)

theorem pairwise_sort {names : List EntryName} (hNodup : names.Nodup) :
    (sort names).Pairwise fun a b => a.bytes < b.bytes := by
  have hSorted : (sort names).Pairwise fun a b => decide (a.bytes ≤ b.bytes) :=
    List.pairwise_mergeSort (fun a b c => by simpa using List.le_trans)
      (fun a b => by simpa using List.le_total a.bytes b.bytes) names
  have hDistinct : (sort names).Nodup := (List.mergeSort_perm names _).nodup_iff.2 hNodup
  refine (hSorted.and hDistinct).imp fun {a b} h => ?_
  have hLe : a.bytes ≤ b.bytes := by simpa using h.1
  by_contra hLt
  exact h.2 (bytes_injective (List.le_antisymm hLe (List.not_lt.1 hLt)))

end Storage.EntryName

namespace Disk

variable {d : Disk} {strays : Strays} {folder : String}

/-- A folder that holds further names lists a name. -/
def ListsBeside (d : Disk) (strays : Strays) (folder : String) (name : EntryName) : Prop :=
  ∃ names, d.listBeside strays folder = .ok names ∧ name ∈ names

theorem nodup_of_listBeside {names : List EntryName}
    (h : d.listBeside strays folder = .ok names) : names.Nodup := by
  unfold listBeside at h
  cases hList : d.list folder with
  | error fault => simp [hList, Except.map] at h
  | ok texts =>
    rw [hList] at h
    obtain rfl := Except.ok.inj h
    refine List.Nodup.append ?_ ?_ ?_
    · exact (nodup_of_list hList).map fun _ _ => EntryName.text.inj
    · exact strays.nodup.map fun _ _ => EntryName.stray.inj
    · intro name hText hStray
      obtain ⟨_, -, rfl⟩ := List.mem_map.1 hText
      obtain ⟨_, -, hSame⟩ := List.mem_map.1 hStray
      cases hSame

/-- Without further names a folder lists the texts that the disk holds. -/
theorem listsBeside_none {name : EntryName} :
    d.ListsBeside .none folder name ↔ ∃ s, name = .text s ∧ d.Lists folder s := by
  unfold ListsBeside listBeside Lists
  cases d.list folder <;> simp [Except.map, Strays.none, and_comm, eq_comm]

end Disk
end SessionReplay
