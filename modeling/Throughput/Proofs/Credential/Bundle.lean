import Throughput.Proofs.Credential.Load
import Throughput.Proofs.Pem
import Throughput.Proofs.Text.Order
import Throughput.Proofs.Tls

/-! From a directory to the trust store. What the files of a bundle hold is read from their
texts together as from each of them alone, in the order of the bytes of their names. -/
namespace Throughput

/-- Files are listed in the order of the bytes of their names. -/
theorem FileSystem.exists_names (fs : FileSystem) (extension directory : String) :
    ∃ names : List String, names.Perm (fs.namesWithExtension extension directory) ∧
      names.Pairwise (fun a b => a = b ∨ Text.BytesBefore a b) ∧
      fs.filesWithExtension extension directory = names.map (join directory) := by
  refine ⟨_, List.mergeSort_perm _ _, ?_, fs.filesWithExtension_eq extension directory⟩
  apply (pairwise_mergeSort _).imp
  intro a b ordered
  exact Text.le_iff_bytesBefore.mp (of_decide_eq_true ordered)

namespace Credential

theorem withNewline_ends (text : String) : (withNewline text).toList.getLast? = some '\n' := by
  unfold withNewline
  split
  · assumption
  · rw [String.toList_append]
    exact List.getLast?_concat

theorem certificates_withNewline {text : String} {ders : List Bytes}
    (read : Pem.certificates text = .ok ders) : Pem.certificates (withNewline text) = .ok ders := by
  unfold withNewline
  split
  · exact read
  · exact Pem.certificates_feed read

/-- Texts that can be read alone are read together as one after the other. -/
theorem certificates_joined {texts : List String} {pieces : List (List Bytes)}
    (alone : List.Forall₂ (fun text ders => Pem.certificates text = .ok ders) texts pieces) :
    Pem.certificates (joined texts) = .ok pieces.flatten := by
  induction alone with
  | nil => rfl
  | @cons text ders texts pieces read _ ih =>
    rw [joined, List.map_cons, String.join_cons,
      Pem.certificates_append (withNewline_ends text) (by decide) (certificates_withNewline read),
      ← joined, ih]
    rfl

/-- The certificates of the file of that name, read on its own. -/
def HoldsAlone (fs : FileSystem) (directory name : String) (ders : List Bytes) : Prop :=
  ∃ text, fs.readText (FileSystem.join directory name) = some text ∧
    Pem.certificates text = .ok ders

theorem certificates_of_names {fs : FileSystem} {directory : String} {names : List String}
    {pieces : List (List Bytes)} (alone : List.Forall₂ (HoldsAlone fs directory) names pieces) :
    Pem.certificates (joined ((names.map (FileSystem.join directory)).filterMap fs.readText)) =
      .ok pieces.flatten := by
  apply certificates_joined
  induction alone with
  | nil => exact .nil
  | cons holds _ ih =>
    obtain ⟨text, read, found⟩ := holds
    rw [List.map_cons, List.filterMap_cons_some read]
    exact .cons found ih

theorem exists_pieces {fs : FileSystem} {directory : String} {names : List String}
    (readable : ∀ name ∈ names, ∃ ders, HoldsAlone fs directory name ders) :
    ∃ pieces, List.Forall₂ (HoldsAlone fs directory) names pieces := by
  induction names with
  | nil => exact ⟨[], .nil⟩
  | cons name rest ih =>
    obtain ⟨⟨ders, first⟩, later⟩ := List.forall_mem_cons.mp readable
    obtain ⟨pieces, rest⟩ := ih later
    exact ⟨ders :: pieces, .cons first rest⟩

/-- What becomes of the certificates in the files of these names. -/
structure Bundled (fs : FileSystem) (paths : Paths) (directory : String) (m : Material)
    (names : List String) (pieces : List (List Bytes)) : Prop where
  /-- The regular files with the extension, each once and no other. -/
  files : names.Perm (fs.namesWithExtension "crt" directory)
  ordered : names.Pairwise fun a b => a = b ∨ Text.BytesBefore a b
  alone : List.Forall₂ (HoldsAlone fs directory) names pieces
  together : Pem.certificates m.trusted = .ok pieces.flatten
  stored : ∀ c, Tls.build m = .ok c → c.anchors = pieces.flatten
  /-- What else is kept in files contributes nothing. -/
  elsewhere : ∀ gs, SameAt paths fs gs → load gs paths = some m

theorem bundle_read {fs : FileSystem} {paths : Paths} {directory : String} {m : Material}
    (given : paths.directory = some directory) (loaded : load fs paths = some m)
    (readable : ∀ name ∈ fs.namesWithExtension "crt" directory,
      ∃ ders, HoldsAlone fs directory name ders) :
    ∃ names pieces, Bundled fs paths directory m names pieces := by
  obtain ⟨names, files, ordered, listed⟩ := fs.exists_names "crt" directory
  obtain ⟨pieces, alone⟩ : ∃ pieces, List.Forall₂ (HoldsAlone fs directory) names pieces := by
    apply exists_pieces
    intro name member
    exact readable name (files.mem_iff.mp member)
  have together : Pem.certificates m.trusted = .ok pieces.flatten := by
    obtain ⟨_, _, d, same, _, trusted, _⟩ := load_eq_some_iff.mp loaded
    obtain rfl : d = directory := Option.some.inj (same.symm.trans given)
    rw [trusted, listed]
    exact certificates_of_names alone
  refine ⟨names, pieces, ?_⟩
  constructor
  case files => exact files
  case ordered => exact ordered
  case alone => exact alone
  case together => exact together
  case stored =>
    intro c built
    have held := (Tls.build_ok_iff.mp built).anchors
    exact Except.ok.inj (held.1.symm.trans together)
  case elsewhere => exact fun gs same => (load_congr same).symm.trans loaded

def returnText : String := "-----BEGIN CERTIFICATE-----\rAAAA\r-----END CERTIFICATE-----"

def feedText : String := "-----BEGIN CERTIFICATE-----\nAAAB\n-----END CERTIFICATE-----\n"

/-- Two trusted certificates, the first of which ends within a line, beside a directory with
such a name and a note. -/
def mixedFiles : FileSystem where
  content path := (List.lookup path
    [("/id.crt", "C"), ("/id.key", "K"), ("/ca/a.crt", returnText), ("/ca/b.crt", feedText),
      ("/ca/note", "-----BEGIN NOTE-----")]).map Text.utf8
  entries path := if path = "/ca" then
    some [⟨"b.crt", true⟩, ⟨"c.crt", false⟩, ⟨"note", true⟩, ⟨"a.crt", true⟩] else none

theorem mixedFiles_names :
    ["a.crt", "b.crt"].Perm (mixedFiles.namesWithExtension "crt" "/ca") := by
  decide +kernel

theorem mixedFiles_gathered :
    Gathered mixedFiles ⟨"/id.crt", "/id.key", "/ca"⟩
      ⟨"C", "K", joined [returnText, feedText]⟩ := by
  have listed : mixedFiles.filesWithExtension "crt" "/ca" = ["/ca/a.crt", "/ca/b.crt"] := by
    rw [FileSystem.filesWithExtension_of_sorted mixedFiles_names (by decide +kernel)]
    decide +kernel
  refine ⟨⟨_, rfl, ?_, ?_⟩, ⟨_, rfl, ?_, ?_⟩, "/ca", rfl, ?_, ?_, ?_⟩
  case refine_5 => simp [listed]
  case refine_6 =>
    rw [listed, show ["/ca/a.crt", "/ca/b.crt"].filterMap mixedFiles.readText =
      [returnText, feedText] by decide +kernel]
  all_goals decide +kernel

theorem bundle_read_of_mixed_line_ends :
    let paths : Paths := ⟨"/id.crt", "/id.key", "/ca"⟩
    let m : Material := ⟨"C", "K", joined [returnText, feedText]⟩
    load mixedFiles paths = some m ∧ ∃ names pieces,
      Bundled mixedFiles paths "/ca" m names pieces ∧ pieces.flatten = [[0, 0, 0], [0, 0, 1]] := by
  intro paths m
  have loaded : load mixedFiles paths = some m := load_eq_some_iff.mpr mixedFiles_gathered
  have first : Pem.certificates returnText = .ok [[0, 0, 0]] := by decide +kernel
  have second : Pem.certificates feedText = .ok [[0, 0, 1]] := by decide +kernel
  have readable : ∀ name ∈ mixedFiles.namesWithExtension "crt" "/ca",
      ∃ ders, HoldsAlone mixedFiles "/ca" name ders := by
    intro name member
    rw [← mixedFiles_names.mem_iff, List.mem_pair] at member
    rcases member with rfl | rfl
    · exact ⟨_, returnText, by decide +kernel, first⟩
    · exact ⟨_, feedText, by decide +kernel, second⟩
  obtain ⟨names, pieces, bundled⟩ := bundle_read rfl loaded readable
  have together : Pem.certificates m.trusted = .ok [[0, 0, 0], [0, 0, 1]] :=
    certificates_joined (.cons first (.cons second .nil))
  exact ⟨loaded, names, pieces, bundled, Except.ok.inj (bundled.together.symm.trans together)⟩

end Credential
end Throughput
