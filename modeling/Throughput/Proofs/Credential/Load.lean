import Throughput.Proofs.Credential

/-! When a credential is valid. It is loaded from a certificate, a key and those files of a
directory that can be read: one that cannot be read is left out, and does not fail the rest. -/
namespace Throughput

/-- The same files without the entries that cannot be read as text. -/
def FileSystem.legible (fs : FileSystem) : FileSystem where
  content := fs.content
  entries directory := (fs.entries directory).map fun listing =>
    listing.filter fun e => (fs.readText (join directory e.name)).isSome

namespace Credential

/-- Text that is not blank is read from the path. -/
def HeldAt (fs : FileSystem) (path : Option String) (text : String) : Prop :=
  ∃ place, path = some place ∧ fs.readText place = some text ∧ Text.allBlank text = false

/-- Texts one after the other, each ending in a line feed. -/
def joined (texts : List String) : String := String.join (texts.map withNewline)

/-- The parts of a credential as they are found, from the certificates that can be read. -/
structure Gathered (fs : FileSystem) (paths : Paths) (m : Material) : Prop where
  certificate : HeldAt fs paths.certificate m.certificate
  key : HeldAt fs paths.key m.key
  trusted : ∃ directory, paths.directory = some directory ∧
    fs.filesWithExtension "crt" directory ≠ [] ∧
    m.trusted = joined ((fs.filesWithExtension "crt" directory).filterMap fs.readText) ∧
    Text.allBlank m.trusted = false

/-- Every trusted certificate can be read. -/
def Legible (fs : FileSystem) (paths : Paths) : Prop :=
  ∀ directory, paths.directory = some directory →
    ∀ path ∈ fs.filesWithExtension "crt" directory, (fs.readText path).isSome

/-- All that a credential needs is there, and nothing of it is unreadable. -/
structure Complete (fs : FileSystem) (paths : Paths) (m : Material) : Prop where
  certificate : HeldAt fs paths.certificate m.certificate
  key : HeldAt fs paths.key m.key
  trusted : ∃ directory texts, paths.directory = some directory ∧ (fs.entries directory).isSome ∧
    fs.filesWithExtension "crt" directory ≠ [] ∧
    (fs.filesWithExtension "crt" directory).map fs.readText = texts.map some ∧
    m.trusted = joined texts ∧ Text.allBlank m.trusted = false

theorem allBlank_append (a b : String) :
    Text.allBlank (a ++ b) = (Text.allBlank a && Text.allBlank b) := by
  rw [Text.allBlank, String.toList_append, List.all_append]
  rfl

theorem allBlank_withNewline (text : String) :
    Text.allBlank (withNewline text) = Text.allBlank text := by
  unfold withNewline
  split
  · rfl
  · rw [allBlank_append, show Text.allBlank "\n" = true by decide, Bool.and_true]

/-- Line feeds between texts leave them as blank as they are. -/
theorem allBlank_joined (texts : List String) :
    Text.allBlank (joined texts) = texts.all Text.allBlank := by
  induction texts with
  | nil => rfl
  | cons text rest ih =>
    rw [joined, List.map_cons, String.join_cons, allBlank_append, allBlank_withNewline, ← joined,
      ih, List.all_cons]

theorem ofParts_eq_some_iff {certificate key trusted : Option String} {m : Material} :
    ofParts certificate key trusted = some m ↔
      (certificate = some m.certificate ∧ Text.allBlank m.certificate = false) ∧
      (key = some m.key ∧ Text.allBlank m.key = false) ∧
      (trusted = some m.trusted ∧ Text.allBlank m.trusted = false) := by
  obtain ⟨c, k, t⟩ := m
  unfold ofParts
  split
  · rename_i c' k' t'
    constructor
    · intro valid
      split at valid
      · cases valid
      · rename_i inked
        cases valid
        simpa [and_assoc] using inked
    · rintro ⟨⟨⟨⟩, c⟩, ⟨⟨⟩, k⟩, ⟨⟨⟩, t⟩⟩
      simp [c, k, t]
  · rename_i missing
    constructor
    · rintro ⟨⟩
    · rintro ⟨⟨c, _⟩, ⟨k, _⟩, ⟨t, _⟩⟩
      exact absurd t (missing _ _ _ c k)

theorem bundle_eq_some_iff {fs : FileSystem} {files : List String} {text : String}
    (inked : Text.allBlank text = false) :
    bundle fs files = some text ↔ text = joined (files.filterMap fs.readText) := by
  change (if (joined (files.filterMap fs.readText)).isEmpty then none
    else some (joined (files.filterMap fs.readText))) = some text ↔ _
  split
  · rename_i empty
    constructor
    · rintro ⟨⟩
    · rintro rfl
      rw [String.isEmpty_iff.mp empty] at inked
      cases inked
  · rw [Option.some.injEq]
    exact eq_comm

theorem load_of_listed {fs : FileSystem} {certificate key directory : String}
    (listed : fs.filesWithExtension "crt" directory ≠ []) :
    load fs ⟨some certificate, some key, some directory⟩ =
      ofFiles fs key certificate (fs.filesWithExtension "crt" directory) :=
  if_neg fun none => listed (List.isEmpty_iff.mp none)

theorem load_of_unlisted {fs : FileSystem} {certificate key : Option String} {directory : String}
    (unlisted : fs.filesWithExtension "crt" directory = []) :
    load fs ⟨certificate, key, some directory⟩ = none := by
  cases certificate <;> cases key <;> simp [load, unlisted]

theorem load_of_missing {fs : FileSystem} {paths : Paths}
    (missing : paths.certificate = none ∨ paths.key = none ∨ paths.directory = none) :
    load fs paths = none := by
  obtain ⟨certificate, key, directory⟩ := paths
  unfold load
  split
  · simp_all
  · rfl

theorem load_eq_some_iff {fs : FileSystem} {paths : Paths} {m : Material} :
    load fs paths = some m ↔ Gathered fs paths m := by
  constructor
  · intro valid
    by_cases missing : paths.certificate = none ∨ paths.key = none ∨ paths.directory = none
    · simp [load_of_missing missing] at valid
    · simp only [not_or, ← ne_eq, Option.ne_none_iff_exists'] at missing
      obtain ⟨⟨c, certificate⟩, ⟨k, key⟩, d, directory⟩ := missing
      obtain rfl : paths = ⟨some c, some k, some d⟩ := by simp [← certificate, ← key, ← directory]
      have listed : fs.filesWithExtension "crt" d ≠ [] := by
        intro unlisted
        simp [load_of_unlisted unlisted] at valid
      rw [load_of_listed listed] at valid
      obtain ⟨⟨certificate, c'⟩, ⟨key, k'⟩, trusted, inked⟩ := ofParts_eq_some_iff.mp valid
      exact ⟨⟨c, rfl, certificate, c'⟩, ⟨k, rfl, key, k'⟩, d, rfl, listed,
        (bundle_eq_some_iff inked).mp trusted, inked⟩
  · rintro ⟨⟨c, certificate, readC, inkedC⟩, ⟨k, key, readK, inkedK⟩, d, directory, listed,
      gathered, inked⟩
    obtain rfl : paths = ⟨some c, some k, some d⟩ := by simp [← certificate, ← key, ← directory]
    rw [load_of_listed listed]
    exact ofParts_eq_some_iff.mpr
      ⟨⟨readC, inkedC⟩, ⟨readK, inkedK⟩, (bundle_eq_some_iff inked).mpr gathered, inked⟩

theorem filesWithExtension_legible (fs : FileSystem) (extension directory : String) :
    fs.legible.filesWithExtension extension directory =
      (fs.filesWithExtension extension directory).filter fun path => (fs.readText path).isSome := by
  have names : fs.legible.namesWithExtension extension directory =
      (fs.namesWithExtension extension directory).filter
        fun name => (fs.readText (FileSystem.join directory name)).isSome := by
    cases entries : fs.entries directory with
    | none => simp [FileSystem.namesWithExtension, FileSystem.legible, entries]
    | some listing =>
      simp [FileSystem.namesWithExtension, FileSystem.legible, entries, List.filter_map,
        List.filter_filter, Function.comp_def, Bool.and_comm]
  rw [FileSystem.filesWithExtension_eq, names, FileSystem.mergeSort_filter,
    FileSystem.filesWithExtension_eq, List.filter_map]
  rfl

theorem filterMap_legible (read : String → Option String) (files : List String) :
    (files.filter fun path => (read path).isSome).filterMap read = files.filterMap read := by
  rw [List.filterMap_filter]
  apply List.filterMap_congr
  intro path _
  cases read path <;> rfl

theorem texts_legible (fs : FileSystem) (extension directory : String) :
    (fs.legible.filesWithExtension extension directory).filterMap fs.legible.readText =
      (fs.filesWithExtension extension directory).filterMap fs.readText := by
  rw [filesWithExtension_legible]
  exact filterMap_legible fs.readText _

/-- Nothing is gathered where nothing is listed. -/
theorem listed_of_inked {read : String → Option String} {files : List String} {text : String}
    (gathered : text = joined (files.filterMap read)) (inked : Text.allBlank text = false) :
    files ≠ [] := by
  rintro rfl
  rw [gathered] at inked
  cases inked

/-- Files that cannot be read are not missed: without them the credential is the same. -/
theorem load_legible (fs : FileSystem) (paths : Paths) : load fs.legible paths = load fs paths := by
  have gathered (m : Material) : Gathered fs.legible paths m ↔ Gathered fs paths m := by
    constructor
    · rintro ⟨certificate, key, d, directory, _, trusted, inked⟩
      rw [texts_legible] at trusted
      exact ⟨certificate, key, d, directory, listed_of_inked trusted inked, trusted, inked⟩
    · rintro ⟨certificate, key, d, directory, _, trusted, inked⟩
      rw [← texts_legible] at trusted
      exact ⟨certificate, key, d, directory, listed_of_inked trusted inked, trusted, inked⟩
  ext m
  rw [load_eq_some_iff, load_eq_some_iff, gathered]

theorem map_eq_map_some_iff {read : String → Option String} {files texts : List String} :
    files.map read = texts.map some ↔
      (∀ path ∈ files, (read path).isSome) ∧ texts = files.filterMap read := by
  induction files generalizing texts with
  | nil => simp
  | cons path rest ih =>
    cases text : read path with
    | none => cases texts <;> simp [text]
    | some first =>
      rw [List.map_cons, List.filterMap_cons_some text, List.forall_mem_cons, text]
      cases texts with
      | nil => simp
      | cons other texts =>
        rw [List.map_cons, List.cons.injEq, Option.some.injEq, List.cons.injEq, ih]
        constructor
        · rintro ⟨rfl, legible, rest⟩
          exact ⟨⟨rfl, legible⟩, rfl, rest⟩
        · rintro ⟨⟨_, legible⟩, rfl, rest⟩
          exact ⟨rfl, legible, rest⟩

theorem entries_of_listed {fs : FileSystem} {extension directory : String}
    (listed : fs.filesWithExtension extension directory ≠ []) : (fs.entries directory).isSome := by
  cases entries : fs.entries directory with
  | none => simp [FileSystem.filesWithExtension, entries] at listed
  | some listing => rfl

theorem complete_iff {fs : FileSystem} {paths : Paths} {m : Material} :
    Complete fs paths m ↔ Gathered fs paths m ∧ Legible fs paths := by
  constructor
  · rintro ⟨certificate, key, d, texts, directory, _, listed, read, trusted, inked⟩
    obtain ⟨legible, rfl⟩ := map_eq_map_some_iff.mp read
    refine ⟨⟨certificate, key, d, directory, listed, trusted, inked⟩, ?_⟩
    intro other same
    obtain rfl : d = other := Option.some.inj (directory.symm.trans same)
    exact legible
  · rintro ⟨⟨certificate, key, d, directory, listed, trusted, inked⟩, legible⟩
    exact ⟨certificate, key, d, _, directory, entries_of_listed listed, listed,
      map_eq_map_some_iff.mpr ⟨legible d directory, rfl⟩, trusted, inked⟩

/-- When a credential is valid, and what it is then. -/
structure Loaded (fs : FileSystem) (paths : Paths) : Prop where
  gathered : ∀ m, load fs paths = some m ↔ Gathered fs paths m
  complete : ∀ m, Complete fs paths m → load fs paths = some m
  /-- With every trusted certificate readable, nothing may be missing. -/
  closed : Legible fs paths → ∀ m, load fs paths = some m → Complete fs paths m
  ignored : load fs.legible paths = load fs paths
  missing : paths.certificate = none ∨ paths.key = none ∨ paths.directory = none →
    load fs paths = none
  unread : ∀ path, paths.certificate = some path ∨ paths.key = some path →
    fs.readText path = none → load fs paths = none
  bare : ∀ directory, paths.directory = some directory →
    (∀ path ∈ fs.filesWithExtension "crt" directory, ∀ text,
      fs.readText path = some text → Text.allBlank text = true) → load fs paths = none

theorem load_decided (fs : FileSystem) (paths : Paths) : Loaded fs paths := by
  constructor
  case gathered => exact fun m => load_eq_some_iff
  case complete => exact fun m complete => load_eq_some_iff.mpr (complete_iff.mp complete).1
  case closed =>
    intro legible m valid
    exact complete_iff.mpr ⟨load_eq_some_iff.mp valid, legible⟩
  case ignored => exact load_legible fs paths
  case missing => exact load_of_missing
  case unread =>
    intro path given unread
    rw [Option.eq_none_iff_forall_ne_some]
    intro m valid
    obtain ⟨⟨c, certificate, readC, _⟩, ⟨k, key, readK, _⟩, _⟩ := load_eq_some_iff.mp valid
    rcases given with given | given
    · obtain rfl : c = path := Option.some.inj (certificate.symm.trans given)
      simp [unread] at readC
    · obtain rfl : k = path := Option.some.inj (key.symm.trans given)
      simp [unread] at readK
  case bare =>
    intro directory given blank
    rw [Option.eq_none_iff_forall_ne_some]
    intro m valid
    obtain ⟨_, _, d, same, _, trusted, inked⟩ := load_eq_some_iff.mp valid
    obtain rfl : d = directory := Option.some.inj (same.symm.trans given)
    have all : Text.allBlank m.trusted = true := by
      rw [trusted, allBlank_joined, List.all_eq_true]
      intro text member
      obtain ⟨path, listed, read⟩ := List.mem_filterMap.mp member
      exact blank path listed text read
    simp [all] at inked

/-- A certificate, a key and two trusted certificates, the second of which is not text. -/
def damagedFiles : FileSystem where
  content path := List.lookup path
    [("/id.crt", [67]), ("/id.key", [75]), ("/ca/a.crt", [65]), ("/ca/b.crt", [0xff])]
  entries path := if path = "/ca" then some [⟨"b.crt", true⟩, ⟨"a.crt", true⟩] else none

theorem damagedFiles_listed :
    damagedFiles.filesWithExtension "crt" "/ca" = ["/ca/a.crt", "/ca/b.crt"] := by
  have names : ["a.crt", "b.crt"].Perm (damagedFiles.namesWithExtension "crt" "/ca") := by
    decide +kernel
  rw [FileSystem.filesWithExtension_of_sorted names (by decide +kernel)]
  decide +kernel

/-- One certificate that can be read hides another that cannot. -/
theorem load_despite_unreadable :
    ¬ ∀ fs paths, (load fs paths).isSome = true ↔ ∃ m, Complete fs paths m := by
  intro closed
  have gathered : Gathered damagedFiles ⟨"/id.crt", "/id.key", "/ca"⟩ ⟨"C", "K", "A\n"⟩ := by
    refine ⟨⟨_, rfl, ?_, ?_⟩, ⟨_, rfl, ?_, ?_⟩, "/ca", rfl, ?_, ?_, ?_⟩
    case refine_5 => simp [damagedFiles_listed]
    case refine_6 =>
      rw [damagedFiles_listed]
      decide +kernel
    all_goals decide +kernel
  have valid := load_eq_some_iff.mpr gathered
  obtain ⟨m, complete⟩ := (closed _ _).mp (Option.isSome_iff_exists.mpr ⟨_, valid⟩)
  have legible := (complete_iff.mp complete).2 "/ca" rfl "/ca/b.crt" (by simp [damagedFiles_listed])
  exact absurd legible (by decide +kernel)

end Credential
end Throughput
