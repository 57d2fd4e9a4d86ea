import Throughput.Credential
import Mathlib.Data.List.Sort

/-! What a credential is loaded from: two files, and the files of a directory with the
extension of certificates. Nothing else that is kept in files matters to it, and neither
does the order in which a directory is listed. -/
namespace Throughput

namespace FileSystem

/-- The names of the regular files of a directory with an extension, as they are listed. -/
def namesWithExtension (fs : FileSystem) (extension directory : String) : List String :=
  (((fs.entries directory).getD []).filter fun e =>
    e.isFile && extension? e.name == some extension.toList).map DirectoryEntry.name

theorem filesWithExtension_eq (fs : FileSystem) (extension directory : String) :
    fs.filesWithExtension extension directory =
      ((fs.namesWithExtension extension directory).mergeSort fun a b => decide (a ≤ b)).map
        (join directory) := rfl

theorem pairwise_mergeSort (names : List String) :
    (names.mergeSort fun a b => decide (a ≤ b)).Pairwise fun a b => decide (a ≤ b) = true := by
  apply List.pairwise_mergeSort
  · intro a b c first second
    simp only [decide_eq_true_eq] at *
    exact String.le_trans first second
  · intro a b
    simpa using String.le_total a b

theorem mergeSort_of_perm {names others : List String} (same : names.Perm others) :
    (names.mergeSort fun a b => decide (a ≤ b)) = others.mergeSort fun a b => decide (a ≤ b) := by
  apply List.Perm.eq_of_pairwise ?_ (pairwise_mergeSort names) (pairwise_mergeSort others)
  · exact ((List.mergeSort_perm names _).trans same).trans (List.mergeSort_perm others _).symm
  · intro a b _ _ first second
    exact String.le_antisymm (of_decide_eq_true first) (of_decide_eq_true second)

theorem mergeSort_filter (names : List String) (p : String → Bool) :
    ((names.filter p).mergeSort fun a b => decide (a ≤ b)) =
      (names.mergeSort fun a b => decide (a ≤ b)).filter p := by
  rw [mergeSort_of_perm ((List.mergeSort_perm names _).symm.filter p)]
  exact List.mergeSort_of_pairwise ((pairwise_mergeSort names).filter p)

/-- The order of the names decides the files. -/
theorem filesWithExtension_of_sorted {fs : FileSystem} {extension directory : String}
    {names : List String} (same : names.Perm (fs.namesWithExtension extension directory))
    (sorted : names.Pairwise fun a b => a ≤ b) :
    fs.filesWithExtension extension directory = names.map (join directory) := by
  rw [filesWithExtension_eq, mergeSort_of_perm same.symm]
  exact congrArg _ (List.mergeSort_of_pairwise (sorted.imp decide_eq_true))

theorem filesWithExtension_of_perm {fs gs : FileSystem} {extension directory : String}
    (same : (fs.namesWithExtension extension directory).Perm
      (gs.namesWithExtension extension directory)) :
    fs.filesWithExtension extension directory = gs.filesWithExtension extension directory := by
  rw [filesWithExtension_eq, filesWithExtension_eq, mergeSort_of_perm same]

end FileSystem

namespace Credential

/-- Both file systems hold the same for a credential at these paths. -/
structure SameAt (paths : Paths) (fs gs : FileSystem) : Prop where
  certificate : ∀ path, paths.certificate = some path → fs.readText path = gs.readText path
  key : ∀ path, paths.key = some path → fs.readText path = gs.readText path
  listed : ∀ directory, paths.directory = some directory →
    (fs.namesWithExtension "crt" directory).Perm (gs.namesWithExtension "crt" directory)
  trusted : ∀ directory, paths.directory = some directory →
    ∀ path ∈ fs.filesWithExtension "crt" directory, fs.readText path = gs.readText path

theorem bundle_congr {fs gs : FileSystem} {files : List String}
    (same : ∀ path ∈ files, fs.readText path = gs.readText path) :
    bundle fs files = bundle gs files := by
  have read : files.filterMap fs.readText = files.filterMap gs.readText :=
    List.filterMap_congr same
  rw [bundle, bundle, read]

theorem load_congr {paths : Paths} {fs gs : FileSystem} (same : SameAt paths fs gs) :
    load fs paths = load gs paths := by
  obtain ⟨certificate, key, directory⟩ := paths
  unfold load
  cases directory with
  | none => rfl
  | some directory =>
    cases certificate with
    | none => rfl
    | some certificate =>
      cases key with
      | none => rfl
      | some key =>
        have listed := FileSystem.filesWithExtension_of_perm (same.listed directory rfl)
        have trusted := bundle_congr (same.trusted directory rfl)
        rw [listed] at trusted
        simp only [ofFiles, same.certificate certificate rfl, same.key key rfl, listed, trusted]

end Credential
end Throughput
