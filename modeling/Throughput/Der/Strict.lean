import Throughput.Bytes

/-! Reading elements of distinguished encoding: one-byte tags, shortest lengths of at
most two bytes, and nothing left over. -/
namespace Throughput.Der.Strict

def longLength? (width least : Nat) (bytes : Bytes) : Option (Nat × Bytes) :=
  let n := Bytes.toNat (bytes.take width)
  if width ≤ bytes.length ∧ least ≤ n then some (n, bytes.drop width) else none

def length? : Bytes → Option (Nat × Bytes)
  | [] => none
  | first :: rest =>
    if first < 0x80 then some (first.toNat, rest)
    else if first = 0x81 then longLength? 1 128 rest
    else if first = 0x82 then longLength? 2 256 rest
    else none

def next? : Bytes → Option (UInt8 × Bytes × Bytes)
  | [] => none
  | tag :: rest =>
    if tag &&& 0x1f = 0x1f then none
    else match length? rest with
      | none => none
      | some (n, rest) => if n ≤ rest.length then some (tag, rest.take n, rest.drop n) else none

theorem length?_lt {bytes rest : Bytes} {n : Nat} (h : length? bytes = some (n, rest)) :
    rest.length < bytes.length := by
  cases bytes with
  | nil => simp [length?] at h
  | cons first tail =>
    have long {width least : Nat} (h : longLength? width least tail = some (n, rest)) :
        rest.length ≤ tail.length := by
      simp only [longLength?, Option.ite_none_right_eq_some, Option.some.injEq,
        Prod.mk.injEq] at h
      simp [← h.2.2]
    simp only [length?] at h
    split at h
    · simp_all
    · split at h
      · simp [Nat.lt_succ_of_le (long h)]
      · split at h
        · simp [Nat.lt_succ_of_le (long h)]
        · simp at h

theorem next?_lt {bytes content rest : Bytes} {tag : UInt8}
    (h : next? bytes = some (tag, content, rest)) : rest.length < bytes.length := by
  cases bytes with
  | nil => simp [next?] at h
  | cons first tail =>
    simp only [next?] at h
    split at h
    · simp at h
    · split at h
      · simp at h
      · rename_i n after hl
        have := length?_lt hl
        split at h
        · simp only [Option.some.injEq, Prod.mk.injEq] at h
          simp only [List.length_cons, ← h.2.2, List.length_drop]
          omega
        · simp at h

def element? (tag : UInt8) (bytes : Bytes) : Option (Bytes × Bytes) :=
  match next? bytes with
  | some (found, content, rest) => if found = tag then some (content, rest) else none
  | none => none

/-- The content of an element that is all there is. -/
def only? (tag : UInt8) (bytes : Bytes) : Option Bytes :=
  match element? tag bytes with
  | some (content, []) => some content
  | _ => none

def startsWith (tag : UInt8) (bytes : Bytes) : Bool := bytes.head? == some tag

/-- The bytes of a minimal non-negative INTEGER without its sign byte. -/
def magnitude? (bytes : Bytes) : Option (Bytes × Bytes) :=
  match element? 0x02 bytes with
  | some ([0], rest) => some ([0], rest)
  | some (0 :: b :: content, rest) => if 0x80 ≤ b then some (b :: content, rest) else none
  | some (b :: content, rest) => if b < 0x80 then some (b :: content, rest) else none
  | _ => none

def natural? (bytes : Bytes) : Option (Nat × Bytes) :=
  (magnitude? bytes).map fun (m, rest) => (m.toNat, rest)

def small? (bytes : Bytes) : Option (UInt8 × Bytes) :=
  match magnitude? bytes with
  | some ([b], rest) => some (b, rest)
  | _ => none

/-- Bit string content whose bits fill whole bytes. -/
def wholeBits? : Bytes → Option Bytes
  | 0 :: bits => some bits
  | _ => none

end Throughput.Der.Strict
