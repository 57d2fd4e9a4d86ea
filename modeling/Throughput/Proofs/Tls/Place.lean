import Throughput.Proofs.Pem.Stop
import Throughput.Proofs.Tls

/-! Where a bundle breaks, and the place that its error names. Places are counted in certificates,
and those before the first bad one are sound. -/
namespace Throughput.Tls

open Pem (Completes certified)

/-- The place of the first bad certificate of a bundle: one that is malformed, or the one that is
missing because the text cannot be read up to its end. -/
inductive BreaksAt (text : String) : Nat → Prop
  | malformed {found : List Pem.Section} {stop? : Option Pem.Error} {before after : List Bytes}
      {der : Bytes} (completes : Completes none [] (Pem.lines text.toList) found stop?)
      (split : certified found = before ++ der :: after)
      (trusted : ∀ other ∈ before, Certificate.isAnchor other = true)
      (bad : Certificate.isAnchor der = false) : BreaksAt text before.length
  | unread {found : List Pem.Section} {e : Pem.Error}
      (completes : Completes none [] (Pem.lines text.toList) found (some e))
      (trusted : ∀ der ∈ certified found, Certificate.isAnchor der = true) :
      BreaksAt text (certified found).length

theorem findIdx_malformed {before after : List Bytes} {der : Bytes}
    (trusted : ∀ other ∈ before, Certificate.isAnchor other = true)
    (bad : Certificate.isAnchor der = false) :
    (before ++ der :: after).findIdx (!Certificate.isAnchor ·) = before.length := by
  have none : before.findIdx (!Certificate.isAnchor ·) = before.length := by
    rw [List.findIdx_eq_length]
    intro other member
    simp [trusted other member]
  rw [List.findIdx_append, none, if_neg (Nat.lt_irrefl _), List.findIdx_cons]
  simp [bad]

/-- The first bad certificate is looked for among those that are complete. -/
theorem BreaksAt.eq_findIdx {text : String} {place : Nat} {found : List Pem.Section}
    {stop? : Option Pem.Error} (breaks : BreaksAt text place)
    (completes : Completes none [] (Pem.lines text.toList) found stop?) :
    place = (certified found).findIdx (!Certificate.isAnchor ·) := by
  cases breaks with
  | malformed other split trusted bad =>
    obtain ⟨rfl, rfl⟩ := completes.unique other
    rw [split, findIdx_malformed trusted bad]
  | unread other trusted =>
    obtain ⟨rfl, rfl⟩ := completes.unique other
    symm
    rw [List.findIdx_eq_length]
    intro der member
    simp [trusted der member]

theorem BreaksAt.unique {text : String} {place other : Nat} (breaks : BreaksAt text place)
    (again : BreaksAt text other) : place = other := by
  obtain ⟨found, stop?, completes⟩ := Pem.exists_completes none [] (Pem.lines text.toList)
  rw [breaks.eq_findIdx completes, again.eq_findIdx completes]

/-- Sound certificates before a text move the place at which it breaks by their number. -/
theorem BreaksAt.after {first second : String} {c : Char} {sound : List Bytes} {place : Nat}
    (breaks : BreaksAt second place) (last : first.toList.getLast? = some c)
    (ends : Pem.isLineEnd c = true) (read : Pem.certificates first = .ok sound)
    (trusted : ∀ der ∈ sound, Certificate.isAnchor der = true) :
    BreaksAt (first ++ second) (sound.length + place) := by
  obtain ⟨found, sections, rfl⟩ := Pem.certificates_ok_iff.mp read
  cases breaks with
  | @malformed later _ _ _ _ completes split sure bad =>
    have whole := Pem.certified_append found later
    rw [split, ← List.append_assoc] at whole
    rw [← List.length_append]
    exact .malformed (Pem.completes_append last ends sections completes) whole
      (List.forall_mem_append.mpr ⟨trusted, sure⟩) bad
  | unread completes sure =>
    rw [← List.length_append, ← Pem.certified_append]
    refine .unread (Pem.completes_append last ends sections completes) ?_
    rw [Pem.certified_append]
    exact List.forall_mem_append.mpr ⟨trusted, sure⟩

theorem breaksAt_of_malformed {text : String} {before after : List Bytes} {der : Bytes}
    (read : Pem.certificates text = .ok (before ++ der :: after))
    (trusted : ∀ other ∈ before, Certificate.isAnchor other = true)
    (bad : Certificate.isAnchor der = false) : BreaksAt text before.length := by
  obtain ⟨found, sections, split⟩ := Pem.certificates_ok_iff.mp read
  exact .malformed (Pem.sections_ok_iff.mp sections) split trusted bad

theorem exists_breaksAt_of_unread {text : String} {e : Pem.Error}
    (unread : Pem.certificates text = .error e) : ∃ place, BreaksAt text place := by
  obtain ⟨found, completes⟩ := Pem.sections_error_iff.mp (Pem.certificates_error_iff.mp unread)
  rcases trusted_or_malformed (certified found) with trusted | ⟨before, der, after, split, trusted, bad⟩
  · exact ⟨_, .unread completes trusted⟩
  · exact ⟨_, .malformed completes split trusted bad⟩

/-- What the error of a bundle says about the place at which it breaks. -/
structure Blamed (text : String) (index : Nat) (fault : CertificateFault) : Prop where
  breaks : ∃ place, BreaksAt text place
  one : ∀ place other, BreaksAt text place → BreaksAt text other → place = other
  /-- A certificate that is malformed is named by its place. -/
  decoded : fault = .badEncoding → BreaksAt text index
  /-- Where the text cannot be read, the first certificate is named. -/
  unread : fault ≠ .badEncoding → index = 0 ∧ ∃ e, fault = .pem e ∧ Pem.certificates text = .error e
  named : BreaksAt text index ↔ fault = .badEncoding ∨ BreaksAt text 0

theorem blamed_of_build {m : Credential.Material} {index : Nat} {fault : CertificateFault}
    (failed : build m = .error (.caCertificate index fault)) : Blamed m.trusted index fault := by
  cases build_error_iff.mp failed with
  | bundleUnread held decoded unread =>
    constructor
    case breaks => exact exists_breaksAt_of_unread unread
    case one => exact fun _ _ => BreaksAt.unique
    case decoded => exact fun bad => nomatch bad
    case unread => exact fun _ => ⟨rfl, _, rfl, unread⟩
    case named => simp
  | anchor held decoded bundle trusted bad =>
    have place := breaksAt_of_malformed bundle trusted bad
    constructor
    case breaks => exact ⟨_, place⟩
    case one => exact fun _ _ => BreaksAt.unique
    case decoded => exact fun _ => place
    case unread => exact fun other => absurd rfl other
    case named => exact iff_of_true place (.inl rfl)

theorem skeletonText_read : Pem.certificates skeletonText = .ok [skeleton] := by decide +kernel

theorem skeleton_isAnchor : ∀ der ∈ [skeleton], Certificate.isAnchor der = true := by decide +kernel

theorem skeletonText_ends : skeletonText.toList.getLast? = some '\n' := by decide +kernel

theorem skeletonText_append (second : String) :
    Pem.certificates (skeletonText ++ second) = (Pem.certificates second).map ([skeleton] ++ ·) :=
  Pem.certificates_append skeletonText_ends (by decide) skeletonText_read second

theorem ed25519Text_decoded : Key.decode Key.ed25519Text = .ok Key.ed25519Key := by decide +kernel

/-- The second of two certificates is named. -/
theorem blamed_of_malformed_second :
    build ⟨skeletonText, Key.ed25519Text, skeletonText ++ numberText⟩ =
      .error (.caCertificate 1 .badEncoding) ∧
    Blamed (skeletonText ++ numberText) 1 .badEncoding := by
  have second : Pem.certificates numberText = .ok [number] := by decide +kernel
  have bundle : Pem.certificates (skeletonText ++ numberText) = .ok ([skeleton] ++ number :: []) := by
    rw [skeletonText_append, second]
    rfl
  have malformed : Certificate.isAnchor number = false := by decide +kernel
  have refused : Refused ⟨skeletonText, Key.ed25519Text, skeletonText ++ numberText⟩
      (.caCertificate [skeleton].length .badEncoding) :=
    .anchor ⟨skeletonText_read, by simp⟩ ed25519Text_decoded bundle skeleton_isAnchor malformed
  exact ⟨refused.build, blamed_of_build refused.build⟩

/-- A section that opens and does not end. -/
def cutText : String := "-----BEGIN CERTIFICATE-----\n"

theorem cutText_breaksAt : BreaksAt cutText 0 := by
  have one : Pem.lines cutText.toList = [cutText.toList] := by decide +kernel
  have completes : Completes none [] (Pem.lines cutText.toList) []
      (some (.missingEnd "CERTIFICATE".toList)) := by
    rw [one]
    exact .step (.opens (by decide +kernel) (by decide +kernel)) (.stopped (.unended rfl))
  exact .unread completes (by simp [certified])

/-- The first certificate of a bundle is named though it is sound and the second one does not end. -/
theorem sound_certificate_blamed :
    ¬ ∀ m index fault, build m = .error (.caCertificate index fault) → BreaksAt m.trusted index := by
  intro named
  have unread : Pem.certificates (skeletonText ++ cutText) =
      .error (.missingEnd "CERTIFICATE".toList) := by
    rw [skeletonText_append]
    rfl
  have refused : Refused ⟨skeletonText, Key.ed25519Text, skeletonText ++ cutText⟩
      (.caCertificate 0 (.pem (.missingEnd "CERTIFICATE".toList))) :=
    .bundleUnread ⟨skeletonText_read, by simp⟩ ed25519Text_decoded unread
  have first := named _ _ _ refused.build
  have second := cutText_breaksAt.after skeletonText_ends (by decide) skeletonText_read
    skeleton_isAnchor
  exact absurd (first.unique second) (by decide)

end Throughput.Tls
