import Throughput.Proofs.Key.Decode
import Throughput.Tls

/-! Which credentials make a context, and why the others do not. Chain, key and anchors are
judged in this order, each on its own; the chain is judged as text only. -/
namespace Throughput.Tls

/-- The certificates of a text that can be read and has some. -/
def Holds (text : String) (found : List Bytes) : Prop :=
  Pem.certificates text = .ok found ∧ found ≠ []

/-- A credential and the context that is made of it. -/
structure Sound (m : Credential.Material) (c : Context) : Prop where
  chain : Holds m.certificate c.chain
  key : Key.decode m.key = .ok c.key
  anchors : Holds m.trusted c.anchors
  trusted : ∀ der ∈ c.anchors, Certificate.isAnchor der = true

/-- Why a credential makes no context. The parts before the one that is blamed are sound,
those after it can be anything. -/
inductive Refused (m : Credential.Material) : Error → Prop
  | chainUnread {e : Pem.Error} (unread : Pem.certificates m.certificate = .error e) :
      Refused m (.clientCertificate (.pem e))
  | chainEmpty (empty : Pem.certificates m.certificate = .ok []) :
      Refused m (.clientCertificate .none)
  | key {chain : List Bytes} {e : Key.Error} (held : Holds m.certificate chain)
      (undecoded : Key.decode m.key = .error e) : Refused m (.privateKey e)
  | bundleUnread {chain : List Bytes} {key : Bytes} {e : Pem.Error}
      (held : Holds m.certificate chain) (decoded : Key.decode m.key = .ok key)
      (unread : Pem.certificates m.trusted = .error e) : Refused m (.caCertificate 0 (.pem e))
  | bundleEmpty {chain : List Bytes} {key : Bytes} (held : Holds m.certificate chain)
      (decoded : Key.decode m.key = .ok key) (empty : Pem.certificates m.trusted = .ok []) :
      Refused m .emptyBundle
  | anchor {chain : List Bytes} {key : Bytes} {before after : List Bytes} {der : Bytes}
      (held : Holds m.certificate chain) (decoded : Key.decode m.key = .ok key)
      (bundle : Pem.certificates m.trusted = .ok (before ++ der :: after))
      (trusted : ∀ other ∈ before, Certificate.isAnchor other = true)
      (malformed : Certificate.isAnchor der = false) :
      Refused m (.caCertificate before.length .badEncoding)

theorem chain_of_holds {text : String} {found : List Bytes} (held : Holds text found) :
    chain text = .ok found := by
  obtain ⟨read, some⟩ := held
  obtain ⟨der, rest, rfl⟩ := List.exists_cons_of_ne_nil some
  rw [chain, read]

theorem anchors_of_holds {text : String} {found : List Bytes} (held : Holds text found) :
    anchors text = anchorsFrom 0 found := by
  obtain ⟨read, some⟩ := held
  obtain ⟨der, rest, rfl⟩ := List.exists_cons_of_ne_nil some
  rw [anchors, read]

theorem anchorsFrom_of_trusted {index : Nat} {found : List Bytes}
    (trusted : ∀ der ∈ found, Certificate.isAnchor der = true) :
    anchorsFrom index found = .ok found := by
  induction found generalizing index with
  | nil => rfl
  | cons der rest ih =>
    obtain ⟨first, later⟩ := List.forall_mem_cons.mp trusted
    rw [anchorsFrom, if_pos first, ih later]

theorem anchorsFrom_of_malformed {index : Nat} {before after : List Bytes} {der : Bytes}
    (trusted : ∀ other ∈ before, Certificate.isAnchor other = true)
    (malformed : Certificate.isAnchor der = false) :
    anchorsFrom index (before ++ der :: after) =
      .error (.caCertificate (index + before.length) .badEncoding) := by
  induction before generalizing index with
  | nil => simp [anchorsFrom, malformed]
  | cons other rest ih =>
    obtain ⟨first, later⟩ := List.forall_mem_cons.mp trusted
    rw [List.cons_append, anchorsFrom, if_pos first, ih later, List.length_cons,
      Nat.add_assoc, Nat.add_comm 1]

theorem trusted_or_malformed (found : List Bytes) :
    (∀ der ∈ found, Certificate.isAnchor der = true) ∨ ∃ before der after,
      found = before ++ der :: after ∧ (∀ other ∈ before, Certificate.isAnchor other = true) ∧
      Certificate.isAnchor der = false := by
  induction found with
  | nil => exact .inl (by simp)
  | cons der rest ih =>
    cases first : Certificate.isAnchor der with
    | false => exact .inr ⟨[], der, rest, rfl, by simp, first⟩
    | true =>
      rcases ih with trusted | ⟨before, other, after, rfl, trusted, malformed⟩
      · exact .inl (List.forall_mem_cons.mpr ⟨first, trusted⟩)
      · exact .inr ⟨der :: before, other, after, rfl,
          List.forall_mem_cons.mpr ⟨first, trusted⟩, malformed⟩

theorem Sound.build {m : Credential.Material} {c : Context} (sound : Sound m c) :
    Tls.build m = .ok c := by
  obtain ⟨chain, key, bundle, trusted⟩ := sound
  simp only [Tls.build, chain_of_holds chain, key, anchors_of_holds bundle,
    anchorsFrom_of_trusted trusted, assemble, Key.accepts_of_decode key, if_true]

theorem Refused.build {m : Credential.Material} {e : Error} (refused : Refused m e) :
    Tls.build m = .error e := by
  cases refused with
  | chainUnread unread => simp only [Tls.build, chain, unread]
  | chainEmpty empty => simp only [Tls.build, chain, empty]
  | key held undecoded => simp only [Tls.build, chain_of_holds held, undecoded]
  | bundleUnread held decoded unread =>
    simp only [Tls.build, chain_of_holds held, decoded, anchors, unread]
  | bundleEmpty held decoded empty =>
    simp only [Tls.build, chain_of_holds held, decoded, anchors, empty]
  | anchor held decoded bundle trusted malformed =>
    have found := anchors_of_holds ⟨bundle, by simp⟩
    rw [anchorsFrom_of_malformed trusted malformed, Nat.zero_add] at found
    simp only [Tls.build, chain_of_holds held, decoded, found]

theorem sound_or_refused (m : Credential.Material) : (∃ c, Sound m c) ∨ ∃ e, Refused m e := by
  -- a later part is looked at only where those before it are sound
  cases read : Pem.certificates m.certificate with
  | error e => exact .inr ⟨_, .chainUnread read⟩
  | ok chain =>
    by_cases some : chain = []
    · exact .inr ⟨_, .chainEmpty (some ▸ read)⟩
    · have held : Holds m.certificate chain := ⟨read, some⟩
      cases decoded : Key.decode m.key with
      | error e => exact .inr ⟨_, .key held decoded⟩
      | ok key =>
        cases bundle : Pem.certificates m.trusted with
        | error e => exact .inr ⟨_, .bundleUnread held decoded bundle⟩
        | ok found =>
          by_cases some : found = []
          · exact .inr ⟨_, .bundleEmpty held decoded (some ▸ bundle)⟩
          · rcases trusted_or_malformed found with trusted | ⟨before, der, after, rfl, trusted, bad⟩
            · exact .inl ⟨⟨chain, key, found⟩, held, decoded, ⟨bundle, some⟩, trusted⟩
            · exact .inr ⟨_, .anchor held decoded bundle trusted bad⟩

theorem build_ok_iff {m : Credential.Material} {c : Context} : build m = .ok c ↔ Sound m c := by
  refine ⟨fun built => ?_, Sound.build⟩
  rcases sound_or_refused m with ⟨d, sound⟩ | ⟨e, refused⟩
  · obtain rfl : d = c := Except.ok.inj (sound.build.symm.trans built)
    exact sound
  · rw [refused.build] at built
    cases built

theorem build_error_iff {m : Credential.Material} {e : Error} :
    build m = .error e ↔ Refused m e := by
  refine ⟨fun failed => ?_, Refused.build⟩
  rcases sound_or_refused m with ⟨c, sound⟩ | ⟨d, refused⟩
  · rw [sound.build] at failed
    cases failed
  · obtain rfl : d = e := Except.error.inj (refused.build.symm.trans failed)
    exact refused

/-- What becomes of a credential. -/
structure Decided (m : Credential.Material) : Prop where
  built : ∀ c, build m = .ok c ↔ Sound m c
  buildable : (∃ c, build m = .ok c) ↔
    (∃ chain, Pem.certificates m.certificate = .ok chain ∧ chain ≠ []) ∧
    (∃ key, Key.decode m.key = .ok key) ∧
    ∃ found, Pem.certificates m.trusted = .ok found ∧ found ≠ [] ∧
      ∀ der ∈ found, Certificate.isAnchor der = true
  refused : ∀ e, build m = .error e ↔ Refused m e
  /-- A decoded key makes an identity with any chain. -/
  assembled : ∀ key, Key.decode m.key = .ok key → ∀ chain anchors,
    assemble chain key anchors = .ok ⟨chain, key, anchors⟩
  identified : build m ≠ .error .identity

theorem build_decided (m : Credential.Material) : Decided m := by
  constructor
  case built => exact fun c => build_ok_iff
  case buildable =>
    constructor
    · rintro ⟨c, built⟩
      obtain ⟨chain, key, bundle, trusted⟩ := build_ok_iff.mp built
      exact ⟨⟨_, chain⟩, ⟨_, key⟩, _, bundle.1, bundle.2, trusted⟩
    · rintro ⟨⟨chain, held⟩, ⟨key, decoded⟩, found, bundle, some, trusted⟩
      exact ⟨⟨chain, key, found⟩, Sound.build ⟨held, decoded, ⟨bundle, some⟩, trusted⟩⟩
  case refused => exact fun e => build_error_iff
  case assembled => exact fun key decoded chain anchors => if_pos (Key.accepts_of_decode decoded)
  case identified =>
    intro failed
    cases build_error_iff.mp failed

/-- What is looked at of the client's own chain. -/
structure ChainKept (m : Credential.Material) : Prop where
  carried : ∀ c, build m = .ok c → Holds m.certificate c.chain
  /-- The certificates that are trusted are decoded. -/
  trusted : ∀ c, build m = .ok c → ∀ der ∈ c.anchors, Certificate.isAnchor der = true
  refused : (∃ fault, build m = .error (.clientCertificate fault)) ↔
    ∀ chain, Pem.certificates m.certificate = .ok chain → chain = []
  wellFormed : ∀ chain, Pem.certificates m.certificate = .ok chain →
    (∀ der ∈ chain, Certificate.isAnchor der = true) →
    ∀ c, build m = .ok c → ∀ der ∈ c.chain, Certificate.isAnchor der = true
  /-- Any chain takes the place of any other. -/
  exchanged : ∀ text chain other, Holds m.certificate chain → Holds text other →
    build { m with certificate := text } = (build m).map fun c => { c with chain := other }

theorem chain_undecoded (m : Credential.Material) : ChainKept m := by
  constructor
  case carried => exact fun c built => (build_ok_iff.mp built).chain
  case trusted => exact fun c built => (build_ok_iff.mp built).trusted
  case refused =>
    constructor
    · rintro ⟨fault, failed⟩ chain read
      cases build_error_iff.mp failed with
      | chainUnread unread =>
        rw [unread] at read
        cases read
      | chainEmpty empty => exact Except.ok.inj (read.symm.trans empty)
    · intro bare
      cases read : Pem.certificates m.certificate with
      | error e => exact ⟨_, (Refused.chainUnread read).build⟩
      | ok chain =>
        obtain rfl := bare chain read
        exact ⟨_, (Refused.chainEmpty read).build⟩
  case wellFormed =>
    intro chain read wellFormed c built
    have carried := (build_ok_iff.mp built).chain
    obtain rfl : c.chain = chain := Except.ok.inj (carried.1.symm.trans read)
    exact wellFormed
  case exchanged =>
    intro text chain other held instead
    simp only [build, chain_of_holds held, chain_of_holds instead]
    cases Key.decode m.key with
    | error e => rfl
    | ok key =>
      cases anchors m.trusted with
      | error e => rfl
      | ok found =>
        simp only [assemble]
        split <;> rfl

/-- A SEQUENCE with a number in it, which is no certificate. -/
def number : Bytes := [0x30, 0x03, 0x02, 0x01, 0x00]

def numberText : String :=
  "-----BEGIN CERTIFICATE-----\nMAMCAQA=\n-----END CERTIFICATE-----\n"

/-- A certificate of version 1 with nothing in its fields. -/
def skeleton : Bytes :=
  [0x30, 0x14, 0x30, 0x0d, 0x02, 0x01, 0x01, 0x30, 0x00, 0x30, 0x00, 0x30, 0x00, 0x30, 0x00, 0x30,
    0x00, 0x30, 0x00, 0x03, 0x01, 0x00]

def skeletonText : String :=
  "-----BEGIN CERTIFICATE-----\nMBQwDQIBATAAMAAwADAAMAAwAAMBAA==\n-----END CERTIFICATE-----\n"

/-- A chain that is no certificate goes into a context. -/
theorem build_of_malformed_chain :
    ¬ ∀ m c, build m = .ok c → ∀ der ∈ c.chain, Certificate.isAnchor der = true := by
  intro wellFormed
  have sound : Sound ⟨numberText, Key.ed25519Text, skeletonText⟩
      ⟨[number], Key.ed25519Key, [skeleton]⟩ := by
    refine ⟨⟨?_, by simp⟩, ?_, ⟨?_, by simp⟩, ?_⟩ <;> decide +kernel
  exact absurd (wellFormed _ _ sound.build number (by simp)) (by decide +kernel)

end Throughput.Tls
