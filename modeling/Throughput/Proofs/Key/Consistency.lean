import Throughput.Proofs.Der.Magnitude
import Throughput.Proofs.Der.Strict
import Throughput.Proofs.Key.Decode

/-! The check of an RSA key by the sizes of its numbers. It passes every key that signing
takes, so it decides which error is reported for a key and never whether the key is taken. -/
namespace Throughput.Key

namespace Rsa

open Der (Integer)
open Signer (bits)

/-- Every number but the version is above zero. -/
def Positive (k : Rsa) : Prop := ∀ x ∈ k.integers.tail, 0 < x.toInt

theorem bits_eq (n : Nat) : bits n = (Nat.digits 2 n).length := by
  by_cases zero : n = 0
  · simp [bits, zero]
  · rw [bits, if_neg zero, Der.digits_eq_log2 zero]

theorem bits_le_iff (n width : Nat) : bits n ≤ width ↔ n < 2 ^ width := by
  rw [bits_eq, Nat.digits_length_le_iff (by decide)]

theorem lt_two_pow_bits (n : Nat) : n < 2 ^ bits n := (bits_le_iff n _).mp le_rfl

theorem bits_mono {m n : Nat} (le : m ≤ n) : bits m ≤ bits n :=
  (bits_le_iff m _).mpr (le.trans_lt (lt_two_pow_bits n))

/-- A product has no more digits than its factors together. -/
theorem bits_mul_le (a b : Nat) : bits (a * b) ≤ bits a + bits b := by
  rw [bits_le_iff, pow_add]
  exact Nat.mul_lt_mul'' (lt_two_pow_bits a) (lt_two_pow_bits b)

/-- Half of the power of two that a number stays below. -/
theorem two_pow_bits_le {n : Nat} (positive : 0 < n) : 2 ^ bits n ≤ 2 * n := by
  by_contra above
  have some : bits n ≠ 0 := by
    intro zero
    rw [zero] at above
    omega
  obtain ⟨less, digits⟩ := Nat.exists_eq_succ_of_ne_zero some
  have half : n < 2 ^ less := by
    rw [digits, pow_succ] at above
    omega
  have fewer := (bits_le_iff n less).mpr half
  omega

theorem bitLength_eq {x : Integer} (nonneg : 0 ≤ x.toInt) : x.bitLength = bits x.toInt.toNat := by
  rw [Integer.bitLength_of_nonneg nonneg, bits_eq]

theorem bitLength_eq_zero_iff {x : Integer} (nonneg : 0 ≤ x.toInt) : x.bitLength = 0 ↔ x.toInt = 0 := by
  rw [bitLength_eq nonneg, ← Nat.le_zero, bits_le_iff]
  omega

theorem refused_iff (x : Integer) :
    (x.isNegative || x.bitLength == 0) = true ↔ ¬ 0 < x.toInt := by
  rw [Bool.or_eq_true, beq_iff_eq, x.isNegative_iff]
  by_cases nonneg : 0 ≤ x.toInt
  · rw [bitLength_eq_zero_iff nonneg]
    omega
  · omega

theorem fault?_eq_none_iff (k : Rsa) : k.fault? = none ↔
    k.Positive ∧ k.modulus.bitLength ≤ k.prime1.bitLength + k.prime2.bitLength := by
  have positive : (k.integers.tail.any fun x => x.isNegative || x.bitLength == 0) = false ↔
      k.Positive := by
    rw [← Bool.not_eq_true, List.any_eq_true]
    simp only [refused_iff, Positive]
    push Not
    rfl
  rw [← positive, fault?, modulusBits]
  split
  case isTrue refused => simp [refused]
  case isFalse sound =>
    rw [Bool.not_eq_true] at sound
    split <;> simp only [reduceCtorEq, sound, true_and, false_iff, true_iff] <;> omega

section

variable {k : Rsa} (positive : k.Positive)
include positive

theorem Positive.modulus : 0 < k.modulus.toInt := positive _ (by simp [integers])

theorem Positive.prime1 : 0 < k.prime1.toInt := positive _ (by simp [integers])

theorem Positive.prime2 : 0 < k.prime2.toInt := positive _ (by simp [integers])

/-- The three numbers that are compared, without signs. -/
theorem Positive.sizes : ∃ n p q : Nat, k.modulus.toInt = n ∧ k.prime1.toInt = p ∧
    k.prime2.toInt = q ∧ 0 < p ∧ 0 < q ∧ k.modulus.bitLength = bits n ∧
    k.prime1.bitLength = bits p ∧ k.prime2.bitLength = bits q := by
  have n := positive.modulus
  have p := positive.prime1
  have q := positive.prime2
  refine ⟨k.modulus.toInt.toNat, k.prime1.toInt.toNat, k.prime2.toInt.toNat, ?_, ?_, ?_, ?_, ?_,
    bitLength_eq n.le, bitLength_eq p.le, bitLength_eq q.le⟩ <;> omega

theorem fault?_of_product (product : k.modulus.toInt ≤ k.prime1.toInt * k.prime2.toInt) :
    k.fault? = none := by
  obtain ⟨n, p, q, modulus, prime1, prime2, _, _, digitsN, digitsP, digitsQ⟩ := positive.sizes
  refine (fault?_eq_none_iff k).mpr ⟨positive, ?_⟩
  rw [modulus, prime1, prime2] at product
  rw [digitsN, digitsP, digitsQ]
  exact (bits_mono (by exact_mod_cast product)).trans (bits_mul_le p q)

end

theorem bounded_of_fault? {k : Rsa} (passed : k.fault? = none) :
    k.modulus.toInt < 4 * (k.prime1.toInt * k.prime2.toInt) := by
  obtain ⟨positive, sizes⟩ := (fault?_eq_none_iff k).mp passed
  obtain ⟨n, p, q, modulus, prime1, prime2, someP, someQ, digitsN, digitsP, digitsQ⟩ := positive.sizes
  rw [digitsN, digitsP, digitsQ] at sizes
  rw [modulus, prime1, prime2]
  have bound : n < 4 * (p * q) := by
    calc n < 2 ^ bits n := lt_two_pow_bits n
      _ ≤ 2 ^ (bits p + bits q) := Nat.pow_le_pow_right (by decide) sizes
      _ = 2 ^ bits p * 2 ^ bits q := pow_add ..
      _ ≤ 2 * p * (2 * q) := Nat.mul_le_mul (two_pow_bits_le someP) (two_pow_bits_le someQ)
      _ = 4 * (p * q) := by ring
  exact_mod_cast bound

/-- The numbers that have to be odd. -/
def odds (k : Rsa) : List Integer :=
  [k.modulus, k.publicExponent, k.privateExponent, k.prime1, k.prime2, k.exponent1, k.exponent2]

theorem integers_tail (k : Rsa) : k.integers.tail = k.odds ++ [k.coefficient] := rfl

/-- What signing asks of the numbers of a key, as far as the check could refuse them: primes of
half the digits of the modulus, which divides their product, and a coefficient that undoes one
prime modulo the other. -/
structure Signable (k : Rsa) : Prop where
  nonneg : ∀ x ∈ k.integers.tail, 0 ≤ x.toInt
  odd : ∀ x ∈ k.odds, x.toInt % 2 = 1
  half1 : bits k.prime1.toInt.toNat = (bits k.modulus.toInt.toNat + 1) / 2
  half2 : bits k.prime2.toInt.toNat = (bits k.modulus.toInt.toNat + 1) / 2
  product : k.modulus.toInt ∣ k.prime1.toInt * k.prime2.toInt
  inverse : k.coefficient.toInt * k.prime2.toInt % k.prime1.toInt = 1

theorem Signable.positive {k : Rsa} (signable : k.Signable) : k.Positive := by
  intro x member
  have nonneg := signable.nonneg x member
  rw [integers_tail, List.mem_append, List.mem_singleton] at member
  rcases member with odd | rfl
  · have one := signable.odd x odd
    omega
  · by_contra zero
    have none : k.coefficient.toInt = 0 := by omega
    have inverse := signable.inverse
    rw [none, Int.zero_mul, Int.zero_emod] at inverse
    cases inverse

theorem Signable.passes {k : Rsa} (signable : k.Signable) : k.fault? = none := by
  have positive := signable.positive
  have product := Int.mul_pos positive.prime1 positive.prime2
  exact fault?_of_product positive (Int.le_of_dvd product signable.product)

section

variable {k : Rsa} (fits : k.body.length < 2 ^ 32)
include fits

theorem length_bytes_lt {x : Integer} (member : x ∈ k.integers) : x.bytes.length < 2 ^ 32 := by
  obtain ⟨before, after, split⟩ := List.append_of_mem member
  rw [body_eq, split] at fits
  simp only [List.flatMap_append, List.flatMap_cons, List.length_append, Integer.encode,
    Der.length_encodeElement] at fits
  omega

theorem body_of_only? {content : Bytes} (read : Der.Strict.only? 0x30 k.encode = some content) :
    content = k.body := by
  rw [encode_eq] at read
  exact Der.Strict.only?_encodeElement fits read

/-- The version of a written key is followed by the modulus, which is an INTEGER. -/
theorem element?_after_version {tag version : UInt8} {content rest : Bytes} (other : Der.integerTag ≠ tag)
    (opened : Der.Strict.only? 0x30 k.encode = some content)
    (first : Der.Strict.small? content = some (version, rest)) : Der.Strict.element? tag rest = none := by
  obtain rfl := body_of_only? fits opened
  have front : k.body = k.version.encode ++ (k.integers.tail.flatMap Integer.encode) := k.body_eq
  have next : k.integers.tail.flatMap Integer.encode =
    k.modulus.encode ++ (k.integers.tail.tail.flatMap Integer.encode) := rfl
  rw [front] at first
  obtain rfl := Der.Strict.small?_encode (length_bytes_lt fits (by simp [integers])) first
  rw [next]
  cases taken : Der.Strict.element? tag (k.modulus.encode ++ k.integers.tail.tail.flatMap Integer.encode) with
  | none => rfl
  | some found =>
    have fit := length_bytes_lt fits (x := k.modulus) (by simp [integers])
    exact absurd (Der.Strict.element?_encodeElement fit taken).1 other

theorem container?_encode (algorithm : Bytes) : Signer.container? algorithm k.encode = none := by
  cases read : Signer.container? algorithm k.encode with
  | none => rfl
  | some found =>
    simp only [Signer.container?, Option.bind_eq_bind, Option.bind_eq_some_iff] at read
    obtain ⟨content, opened, ⟨version, rest⟩, first, _, _, ⟨inside, after⟩, algorithms, _⟩ := read
    rw [element?_after_version fits (by decide) opened first] at algorithms
    cases algorithms

theorem curveKey?_encode (name : Bytes) : Signer.curveKey? name k.encode = none := by
  cases read : Signer.curveKey? name k.encode with
  | none => rfl
  | some found =>
    simp only [Signer.curveKey?, Option.bind_eq_bind, Option.bind_eq_some_iff] at read
    obtain ⟨content, opened, ⟨version, rest⟩, first, _, _, ⟨scalar, after⟩, scalars, _⟩ := read
    rw [element?_after_version fits (by decide) opened first] at scalars
    cases scalars

theorem numbers?_encode {m : Signer.Numbers} (read : Signer.numbers? k.encode = some m) :
    k.integers.tail.map Integer.toInt =
      [m.n, m.e, m.d, m.p, m.q, m.dP, m.dQ, m.qInv].map Int.ofNat := by
  have next {x : Integer} {rest after : Bytes} {n : Nat} (member : x ∈ k.integers)
      (taken : Der.Strict.natural? (x.encode ++ rest) = some (n, after)) :
      x.toInt = n ∧ after = rest := Der.Strict.natural?_encode (length_bytes_lt fits member) taken
  simp only [Signer.numbers?, Option.bind_eq_bind, Option.bind_eq_some_iff] at read
  obtain ⟨content, opened, ⟨_, _⟩, version, _, _, read⟩ := read
  obtain rfl := body_of_only? fits opened
  rw [body_eq] at version
  obtain rfl := Der.Strict.small?_encode (length_bytes_lt fits (by simp [integers])) version
  obtain ⟨⟨_, _⟩, modulus, ⟨_, _⟩, publicExponent, ⟨_, _⟩, privateExponent, ⟨_, _⟩, prime1,
    ⟨_, _⟩, prime2, ⟨_, _⟩, exponent1, ⟨_, _⟩, exponent2, ⟨_, _⟩, coefficient, _, _, made⟩ := read
  obtain rfl := Option.some.inj made
  obtain ⟨n, rfl⟩ := next (x := k.modulus) (by simp [integers]) modulus
  obtain ⟨e, rfl⟩ := next (x := k.publicExponent) (by simp [integers]) publicExponent
  obtain ⟨d, rfl⟩ := next (x := k.privateExponent) (by simp [integers]) privateExponent
  obtain ⟨p, rfl⟩ := next (x := k.prime1) (by simp [integers]) prime1
  obtain ⟨q, rfl⟩ := next (x := k.prime2) (by simp [integers]) prime2
  obtain ⟨dP, rfl⟩ := next (x := k.exponent1) (by simp [integers]) exponent1
  obtain ⟨dQ, rfl⟩ := next (x := k.exponent2) (by simp [integers]) exponent2
  obtain ⟨qInv, rfl⟩ := next (x := k.coefficient) (by simp [integers]) coefficient
  simp [integers, n, e, d, p, q, dP, dQ, qInv]

/-- No other kind of key is written like an RSA key. -/
theorem usable_of_accepts (accepted : Signer.accepts k.encode = true) :
    ∃ m, Signer.numbers? k.encode = some m ∧ m.usable = true := by
  have edwards : Signer.acceptsEdwards k.encode = false := by
    rw [Signer.acceptsEdwards, container?_encode fits]
  have curves (curve : Curve.Weierstrass) (name : Bytes) :
      Signer.acceptsCurve curve name k.encode = false := by
    rw [Signer.acceptsCurve, container?_encode fits, Signer.curveKey, curveKey?_encode fits]
    rfl
  rw [Signer.accepts, edwards, curves, curves, Bool.or_false, Bool.or_false, Bool.or_false,
    Signer.acceptsRsa, container?_encode fits, Bool.or_false, Option.any_eq_true] at accepted
  exact accepted

theorem signable_of_accepts (accepted : Signer.accepts k.encode = true) : k.Signable := by
  obtain ⟨m, read, usable⟩ := usable_of_accepts fits accepted
  have numbers := numbers?_encode fits read
  simp only [integers, List.tail_cons, List.map_cons, List.map_nil, List.cons.injEq, Int.ofNat_eq_natCast,
    and_true] at numbers
  obtain ⟨n, e, d, p, q, dP, dQ, qInv⟩ := numbers
  simp only [Signer.Numbers.usable, Bool.and_eq_true, beq_iff_eq, decide_eq_true_eq] at usable
  constructor
  case nonneg =>
    intro x member
    simp only [integers, List.tail_cons, List.mem_cons, List.not_mem_nil, or_false] at member
    rcases member with rfl | rfl | rfl | rfl | rfl | rfl | rfl | rfl <;> omega
  case odd =>
    intro x member
    simp only [odds, List.mem_cons, List.not_mem_nil, or_false] at member
    rcases member with rfl | rfl | rfl | rfl | rfl | rfl | rfl <;> omega
  case half1 =>
    rw [n, p, Int.toNat_natCast, Int.toNat_natCast]
    tauto
  case half2 =>
    rw [n, q, Int.toNat_natCast, Int.toNat_natCast]
    tauto
  case product =>
    rw [n, p, q]
    exact_mod_cast Nat.dvd_of_mod_eq_zero (by tauto)
  case inverse =>
    rw [qInv, q, p]
    have undone : m.qInv * m.q % m.p = 1 := by tauto
    exact_mod_cast undone

end

end Rsa

open Text (utf8)

/-- Conversion with any check of RSA keys in the place of the one by sizes. -/
def Format.convertWith (check : Rsa → Option Rsa.Fault) : Format → Bytes → Except Error Bytes
  | pkcs8, der => .ok der
  | pkcs1, der =>
    match Rsa.parse der with
    | .error e => .error (.rsa e)
    | .ok k => match check k with
      | some fault => .error (.components fault)
      | none => .ok k.encode

def decodeWith (check : Rsa → Option Rsa.Fault) (pem : String) : Except Error Bytes :=
  match Format.detect pem with
  | .error e => .error e
  | .ok f =>
    match Base64.decodeStrict (utf8 (.ofList (body pem))) with
    | .error e => .error (.base64 e)
    | .ok der =>
      match f.convertWith check der with
      | .error e => .error e
      | .ok key => if Signer.accepts key then .ok key else .error .rejected

/-- Decoding that leaves all the checking to signing. -/
def decodeUnchecked : String → Except Error Bytes := decodeWith fun _ => none

theorem Format.convertWith_fault? (f : Format) (der : Bytes) :
    f.convertWith Rsa.fault? der = f.convert der := by
  cases f <;> rfl

theorem decodeWith_fault? (pem : String) : decodeWith Rsa.fault? pem = decode pem := by
  rw [decodeWith]
  cases detected : Format.detect pem with
  | error e => simp only [decode, detected]
  | ok f =>
    rw [decode_of_detected detected, Format.read]
    cases Base64.decodeStrict (utf8 (.ofList (body pem))) with
    | error e => rfl
    | ok der => cases converted : f.convert der <;> simp only [f.convertWith_fault?, Format.accept, converted]

/-- Where the check refuses a key, signing would have. -/
theorem decodeUnchecked_cases (pem : String) : decodeUnchecked pem = decode pem ∨
    ∃ fault, Format.detect pem = .ok .pkcs1 ∧ decode pem = .error (.components fault) ∧
      decodeUnchecked pem = .error .rejected := by
  rw [← decodeWith_fault?, decodeUnchecked, decodeWith, decodeWith]
  cases Format.detect pem with
  | error e => exact .inl rfl
  | ok f =>
    cases Base64.decodeStrict (utf8 (.ofList (body pem))) with
    | error e => exact .inl rfl
    | ok der =>
      cases f with
      | pkcs8 => exact .inl rfl
      | pkcs1 =>
        cases parsed : Rsa.parse der with
        | error e => simp [Format.convertWith, parsed]
        | ok k =>
          cases passed : k.fault? with
          | none => simp [Format.convertWith, parsed, passed]
          | some fault =>
            have refused : ¬ Signer.accepts k.encode = true := by
              intro accepted
              have signable := Rsa.signable_of_accepts (Rsa.body_fits_of_accepted parsed) accepted
              rw [signable.passes] at passed
              cases passed
            simp [Format.convertWith, parsed, passed, refused]

theorem decode_ok_iff_unchecked (pem : String) (key : Bytes) :
    decode pem = .ok key ↔ decodeUnchecked pem = .ok key := by
  rcases decodeUnchecked_cases pem with same | ⟨fault, _, checked, unchecked⟩
  · rw [same]
  · rw [checked, unchecked]
    exact iff_of_false nofun nofun

/-- The check never refuses numbers that can make a key, and it bounds the modulus of those it
passes by four times the product of the primes. It passes all keys that signing takes: without
it, the same texts decode to the same keys, and only a key that signing refuses has another error. -/
theorem check_changes_errors_only :
    (∀ k : Rsa, k.Positive → k.modulus.toInt ≤ k.prime1.toInt * k.prime2.toInt → k.fault? = none) ∧
    (∀ k : Rsa, k.fault? = none →
      k.Positive ∧ k.modulus.toInt < 4 * (k.prime1.toInt * k.prime2.toInt)) ∧
    (∀ k : Rsa, k.Signable → k.fault? = none) ∧
    (∀ k : Rsa, k.body.length < 2 ^ 32 → Signer.accepts k.encode = true → k.Signable) ∧
    (∀ pem key, decode pem = .ok key ↔ decodeUnchecked pem = .ok key) ∧
    ∀ pem, decodeUnchecked pem = decode pem ∨
      ∃ fault, Format.detect pem = .ok .pkcs1 ∧ decode pem = .error (.components fault) ∧
        decodeUnchecked pem = .error .rejected := by
  refine ⟨?usable, ?bounded, ?signable, ?signed, decode_ok_iff_unchecked, decodeUnchecked_cases⟩
  case usable => exact fun k positive product => Rsa.fault?_of_product positive product
  case bounded =>
    intro k passed
    exact ⟨((Rsa.fault?_eq_none_iff k).mp passed).1, Rsa.bounded_of_fault? passed⟩
  case signable => exact fun k signable => signable.passes
  case signed => exact fun k fits accepted => Rsa.signable_of_accepts fits accepted

theorem check_changes_errors_only_of_wide :
    (Rsa.textbook.Positive ∧ Rsa.textbook.fault? = none ∧
      Rsa.textbook.modulus.toInt < 4 * (Rsa.textbook.prime1.toInt * Rsa.textbook.prime2.toInt)) ∧
    Signer.accepts Rsa.wide.encode = true ∧ Rsa.wide.Signable ∧ Rsa.wide.fault? = none := by
  have fits : Rsa.wide.body.length < 2 ^ 32 := by decide +kernel
  have accepted : Signer.accepts Rsa.wide.encode = true := by decide +kernel
  obtain ⟨usable, bounded, signable, signed, _, _⟩ := check_changes_errors_only
  have passed : Rsa.textbook.fault? = none := by
    apply usable
    · unfold Rsa.Positive
      decide
    · decide
  obtain ⟨positive, bound⟩ := bounded Rsa.textbook passed
  have able := signed Rsa.wide fits accepted
  exact ⟨⟨positive, passed, bound⟩, accepted, able, signable Rsa.wide able⟩

end Throughput.Key
