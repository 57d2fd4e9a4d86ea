import Throughput.Base64
import Throughput.Text.Blank
import Throughput.Text.Utf8
import Mathlib.Data.List.Basic

/-! Base64 read back: the strict reader returns the bytes that were written. Neither what is
written nor what is read has dashes in it. -/
namespace Throughput.Base64

/-- The sextets that bytes are written with. -/
def sextets : Bytes → List Nat
  | [] => []
  | [a] => [a.toNat / 4, a.toNat % 4 * 16]
  | [a, b] => [a.toNat / 4, a.toNat % 4 * 16 + b.toNat / 16, b.toNat % 16 * 4]
  | a :: b :: c :: rest =>
    a.toNat / 4 :: (a.toNat % 4 * 16 + b.toNat / 16) :: (b.toNat % 16 * 4 + c.toNat / 64) ::
      c.toNat % 64 :: sextets rest

/-- How many pad bytes follow them. -/
def padding : Bytes → Nat
  | [] => 0
  | [_] => 2
  | [_, _] => 1
  | _ :: _ :: _ :: rest => padding rest

theorem encodeBytes_eq (bytes : Bytes) : encodeBytes bytes =
    (sextets bytes).map symbol ++ List.replicate (padding bytes) padByte := by
  fun_induction sextets bytes with
  | case1 => rfl
  | case2 a => rfl
  | case3 a b => rfl
  | case4 a b c rest ih => simp [encodeBytes, padding, ih]

theorem sextets_lt (bytes : Bytes) : ∀ v ∈ sextets bytes, v < 64 := by
  fun_induction sextets bytes with
  | case1 => simp
  | case2 a =>
    have := a.toNat_lt
    simp
    omega
  | case3 a b =>
    have := a.toNat_lt
    have := b.toNat_lt
    simp
    omega
  | case4 a b c rest ih =>
    have := a.toNat_lt
    have := b.toNat_lt
    have := c.toNat_lt
    simp only [List.mem_cons]
    rintro v (rfl | rfl | rfl | rfl | later)
    · omega
    · omega
    · omega
    · omega
    · exact ih v later

/-- Bytes end with a whole group, or one or two pad bytes complete the last one. -/
theorem group_complete (bytes : Bytes) : padding bytes = 0 ∧ (sextets bytes).length % 4 = 0 ∨
    padding bytes = 1 ∧ (sextets bytes).length % 4 = 3 ∨
    padding bytes = 2 ∧ (sextets bytes).length % 4 = 2 := by
  fun_induction sextets bytes with
  | case1 => exact .inl ⟨rfl, rfl⟩
  | case2 a => exact .inr (.inr ⟨rfl, rfl⟩)
  | case3 a b => exact .inr (.inl ⟨rfl, rfl⟩)
  | case4 a b c rest ih =>
    simp only [padding, List.length_cons]
    omega

theorem ofNat_of_eq {n : Nat} {b : UInt8} (same : n = b.toNat) : UInt8.ofNat n = b := by
  rw [same, UInt8.ofNat_toNat]

theorem joinSextets_sextets (bytes : Bytes) : joinSextets (sextets bytes) = bytes := by
  fun_induction sextets bytes with
  | case1 => rfl
  | case2 a =>
    rw [joinSextets, ofNat_of_eq (b := a) (by omega)]
  | case3 a b =>
    have := b.toNat_lt
    rw [joinSextets, ofNat_of_eq (b := a) (by omega), ofNat_of_eq (b := b) (by omega)]
  | case4 a b c rest ih =>
    have := b.toNat_lt
    have := c.toNat_lt
    rw [joinSextets, ih, ofNat_of_eq (b := a) (by omega), ofNat_of_eq (b := b) (by omega),
      ofNat_of_eq (b := c) (by omega)]

theorem unusedBits_group (a b c d : Nat) (vs : List Nat) :
    unusedBits (a :: b :: c :: d :: vs) = unusedBits vs := by
  cases vs with
  | nil => simp [unusedBits]
  | cons v rest =>
    have length : (rest.length + 1 + 1 + 1 + 1 + 1) % 4 = (rest.length + 1) % 4 := by omega
    simp only [unusedBits, List.length_cons, length, List.getLast?_cons_cons]

theorem unusedBits_sextets (bytes : Bytes) : unusedBits (sextets bytes) = 0 := by
  fun_induction sextets bytes with
  | case1 => rfl
  | case2 a => simp [unusedBits]
  | case3 a b => simp [unusedBits]
  | case4 a b c rest ih => rw [unusedBits_group, ih]

theorem scan_symbols {vs : List Nat} (small : ∀ v ∈ vs, v < 64) {offset : Nat} {rest : Bytes}
    {ws : List Nat} {pads : Nat} (after : scan (offset + vs.length) rest = .ok (ws, pads)) :
    scan offset (vs.map symbol ++ rest) = .ok (vs ++ ws, pads) := by
  induction vs generalizing offset with
  | nil => simpa using after
  | cons v vs ih =>
    have later : scan (offset + 1) (vs.map symbol ++ rest) = .ok (vs ++ ws, pads) := by
      apply ih fun w member => small w (List.mem_cons_of_mem v member)
      rwa [List.length_cons, Nat.add_comm vs.length, ← Nat.add_assoc] at after
    simp [scan, sextet?_symbol (small v List.mem_cons_self), later]

theorem scan_pads {offset pads : Nat} (completes : pads = 0 ∧ offset % 4 = 0 ∨
    pads = 1 ∧ offset % 4 = 3 ∨ pads = 2 ∧ offset % 4 = 2) :
    scan offset (List.replicate pads padByte) = .ok ([], pads) := by
  have pad : sextet? padByte = none := by decide
  rcases completes with ⟨rfl, _⟩ | ⟨rfl, third⟩ | ⟨rfl, second⟩
  · rfl
  · simp [scan, pad, third]
  · simp [scan, pad, second, List.replicate]

theorem scan_encodeBytes (bytes : Bytes) :
    scan 0 (encodeBytes bytes) = .ok (sextets bytes, padding bytes) := by
  have pads : scan (0 + (sextets bytes).length) (List.replicate (padding bytes) padByte) =
      .ok ([], padding bytes) := scan_pads (by simpa using group_complete bytes)
  simpa [encodeBytes_eq] using scan_symbols (sextets_lt bytes) pads

theorem decodeStrict_encodeBytes (bytes : Bytes) : decodeStrict (encodeBytes bytes) = .ok bytes := by
  have group := group_complete bytes
  have whole : (encodeBytes bytes).length % 4 = 0 := by
    rw [encodeBytes_eq, List.length_append, List.length_map, List.length_replicate]
    omega
  have stray : strayLast? (encodeBytes bytes) = none := by
    rw [strayLast?, if_neg (by omega)]
  have bits : finish (sextets bytes) = .ok bytes := by
    rw [finish, if_pos (unusedBits_sextets bytes), joinSextets_sextets]
  simp only [decodeStrict, stray, scan_encodeBytes]
  rw [if_neg (by omega), if_neg (by omega), bits]

theorem symbols_of_scan {offset : Nat} {bytes : Bytes} {vs : List Nat} {pads : Nat}
    (scanned : scan offset bytes = .ok (vs, pads)) :
    ∀ b ∈ bytes, (sextet? b).isSome ∨ b = padByte := by
  induction bytes generalizing offset vs pads with
  | nil => simp
  | cons b rest ih =>
    unfold scan at scanned
    split at scanned
    · rename_i v known
      split at scanned
      · rename_i later
        exact List.forall_mem_cons.mpr ⟨.inl (by simp [known]), ih later⟩
      · cases scanned
    · split at scanned
      · rename_i padding
        obtain ⟨pad, _, _, pads⟩ := padding
        refine List.forall_mem_cons.mpr ⟨.inr pad, fun c member => .inr ?_⟩
        simpa using List.all_eq_true.mp pads c member
      · cases scanned

theorem symbols_of_decodeStrict {bytes found : Bytes} (decoded : decodeStrict bytes = .ok found) :
    ∀ b ∈ bytes, (sextet? b).isSome ∨ b = padByte := by
  unfold decodeStrict at decoded
  split at decoded
  · cases decoded
  · split at decoded
    · cases decoded
    · rename_i scanned
      exact symbols_of_scan scanned

/-- What base64 is written in: one byte a character, no dash, and no white space. -/
structure Written (b : UInt8) : Prop where
  utf8 : String.utf8EncodeChar (.ofNat b.toNat) = [b]
  noDash : Char.ofNat b.toNat ≠ '-'
  solid : Text.isBlank (.ofNat b.toNat) = false

theorem written_symbol {v : Nat} (small : v < 64) : Written (symbol v) := by
  have all : ∀ v : Fin 64, String.utf8EncodeChar (.ofNat (symbol v.val).toNat) = [symbol v.val] ∧
      Char.ofNat (symbol v.val).toNat ≠ '-' ∧ Text.isBlank (.ofNat (symbol v.val).toNat) = false := by
    decide
  obtain ⟨utf8, noDash, solid⟩ := all ⟨v, small⟩
  exact ⟨utf8, noDash, solid⟩

theorem written_encodeBytes (bytes : Bytes) : ∀ b ∈ encodeBytes bytes, Written b := by
  intro b member
  rw [encodeBytes_eq, List.mem_append, List.mem_map] at member
  rcases member with ⟨v, inside, rfl⟩ | pad
  · exact written_symbol (sextets_lt bytes v inside)
  · rw [List.eq_of_mem_replicate pad]
    exact ⟨by decide, by decide, by decide⟩

theorem toList_encode (bytes : Bytes) :
    (encode bytes).toList = (encodeBytes bytes).map fun b => Char.ofNat b.toNat :=
  String.toList_ofList

theorem utf8_encode (bytes : Bytes) : Text.utf8 (encode bytes) = encodeBytes bytes := by
  rw [Text.utf8, toList_encode, List.flatMap_map]
  calc (encodeBytes bytes).flatMap (fun b => String.utf8EncodeChar (.ofNat b.toNat))
      = (encodeBytes bytes).flatMap fun b => [b] :=
        List.flatMap_congr fun b member => (written_encodeBytes bytes b member).utf8
    _ = encodeBytes bytes := by simp

theorem decodeStrict_encode (bytes : Bytes) : decodeStrict (Text.utf8 (encode bytes)) = .ok bytes := by
  rw [utf8_encode, decodeStrict_encodeBytes]

theorem encode_no_dash (bytes : Bytes) : '-' ∉ (encode bytes).toList := by
  rw [toList_encode, List.mem_map]
  rintro ⟨b, inside, dash⟩
  exact (written_encodeBytes bytes b inside).noDash dash

theorem encode_solid (bytes : Bytes) : ∀ c ∈ (encode bytes).toList, Text.isBlank c = false := by
  rw [toList_encode, List.forall_mem_map]
  exact fun b inside => (written_encodeBytes bytes b inside).solid

end Throughput.Base64
