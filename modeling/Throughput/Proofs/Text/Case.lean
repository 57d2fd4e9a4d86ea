import Mathlib.Data.List.Basic
import Throughput.Text.Case

/-! The lower case of ASCII characters, whose only capitals are the 26 letters. -/
namespace Throughput.Text

def capitals : Run := ⟨0x41, 0x5a, 1, [0x61]⟩

/-- The capital letters come first in the table, and nothing else in it is ASCII. -/
theorem lowerRuns_ascii : ∃ others, lowerRuns = capitals :: others ∧ ∀ r ∈ others, 128 ≤ r.first := by
  have whole : lowerRuns.head? = some capitals ∧
      lowerRuns.tail.all (fun r => 128 ≤ r.first) = true := by
    simp only [lowerRuns, Runs.ofLines, lowerLines, List.flatMap_cons, List.flatMap_nil]
    -- literals are read by a lemma, since to evaluate them takes long
    repeat rw [String.toList_ofList]
    decide +kernel
  obtain ⟨others, split⟩ := List.head?_eq_some_iff.mp whole.1
  refine ⟨others, split, fun r member => ?_⟩
  have all := List.all_eq_true.mp whole.2 r (by rwa [split])
  exact of_decide_eq_true all

theorem lowerChar_of_ascii {c : Char} (ascii : c.toNat < 128) : lowerChar c = [c.toLower] := by
  obtain ⟨others, split, far⟩ := lowerRuns_ascii
  have none : others.find? (·.contains c.toNat) = none := by
    rw [List.find?_eq_none]
    intro r member
    have beyond := far r member
    simp only [Run.contains, Bool.and_eq_true, decide_eq_true_eq]
    omega
  have plain : c.toNat ≠ 0x130 := by omega
  have each : ∀ n < 128, (if capitals.contains n then (capitals.shifted n).map Char.ofNat else [Char.ofNat n]) =
      [(Char.ofNat n).toLower] := by decide +kernel
  have own := each c.toNat ascii
  rw [Char.ofNat_toNat] at own
  rw [lowerChar, if_neg plain, Runs.find?, split, List.find?_cons, none, ← own]
  cases capitals.contains c.toNat <;> rfl

theorem lowerChars_of_ascii {cs : List Char} (ascii : ∀ c ∈ cs, c.toNat < 128) (before : List Char) :
    lowerChars before cs = cs.map Char.toLower := by
  induction cs generalizing before with
  | nil => rfl
  | cons c rest ih =>
    obtain ⟨first, later⟩ := List.forall_mem_cons.mp ascii
    have plain : c ≠ 'Σ' := by
      rintro rfl
      exact absurd first (by decide)
    rw [lowerChars, if_neg plain, lowerChar_of_ascii first, ih later]
    rfl

theorem lower_of_ascii {s : String} (ascii : ∀ c ∈ s.toList, c.toNat < 128) :
    lower s = .ofList (s.toList.map Char.toLower) := by
  rw [lower, lowerChars_of_ascii ascii]

end Throughput.Text
