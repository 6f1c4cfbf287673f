-- Letters and digits in upper case. A word that is given a capital stays one word, in the same
-- place, and is not given another one, provided that the upper case of its first character
-- starts a word, goes on with characters of words, and has a capital or is the character itself.
-- By the tables, this is so for all letters and digits but two, whose capitals came into the
-- standard later than the version by which words are told apart.
import CiteStyle.Proofs.CaseChanges

set_option maxRecDepth 8000

namespace CiteStyle.Text

/-! ## Ranges in one number -/

/-- The number with the binary digits set at the code points of some ranges. To look for a code
point is then to look at one digit. -/
def rangeBits : List (Nat × Nat) → Nat
  | [] => 0
  | (low, high) :: rest => ((1 <<< (high + 1 - low) - 1) ||| (rangeBits rest >>> low)) <<< low

theorem testBit_rangeBits (ranges : List (Nat × Nat)) (n : Nat) :
    (rangeBits ranges).testBit n = inRanges ranges n := by
  induction ranges with
  | nil => simp [rangeBits, inRanges]
  | cons range rest ih =>
    obtain ⟨low, high⟩ := range
    rw [rangeBits, inRanges, Nat.testBit_shiftLeft, Nat.testBit_or, Nat.one_shiftLeft,
      Nat.testBit_two_pow_sub_one, Nat.testBit_shiftRight]
    by_cases below : n < low
    · simp [below, Nat.not_le.mpr below]
    · have reached : low + (n - low) = n := by omega
      have ends : n - low < high + 1 - low ↔ n ≤ high := by omega
      simp [below, Nat.not_lt.mp below, reached, ih, ends]

/-! ## Characters that start words -/

/-- The upper case of a character starts a word and goes on with characters of words, and it has
a capital or is the character itself. -/
structure Capitalizes (c : Char) : Prop where
  starts : ∃ first ∈ (upperChar c).head?, startsWord first
  continues : ∀ d ∈ (upperChar c).tail, TextCase.continuesWord d
  capital : (∃ d ∈ upperChar c, isUppercase d) ∨ upperChar c = [c]

-- With any and all, since to decide a quantifier over characters may mean to try every character.
theorem capitalizes_iff_digits (c : Char) :
    ((upperChar c).head?.any fun first => (rangeBits wordStartRanges).testBit first.toNat) ∧
      (upperChar c).tail.all TextCase.continuesWord ∧
      (((upperChar c).any fun d => (rangeBits uppercaseRanges).testBit d.toNat) ∨
        upperChar c = [c]) ↔ Capitalizes c := by
  simp only [testBit_rangeBits, Option.any_eq_true, List.all_eq_true, List.any_eq_true]
  exact ⟨fun ⟨starts, continues, capital⟩ => ⟨starts, continues, capital⟩,
    fun h => ⟨h.starts, h.continues, h.capital⟩⟩

instance (c : Char) : Decidable (Capitalizes c) :=
  decidable_of_iff _ (capitalizes_iff_digits c)

theorem Capitalizes.of_eq {c d : Char} (same : upperChar c = [d]) (starts : startsWord d)
    (capital : isUppercase d ∨ d = c) : Capitalizes c where
  starts := ⟨d, by simp [same], starts⟩
  continues := by simp [same]
  capital := by
    rcases capital with capital | rfl
    · exact .inl ⟨d, by simp [same], capital⟩
    · exact .inr same

/-- The two letters that start words and whose capitals do not. -/
def lateCapitals : List Char := [Char.ofNat 0xA7D3, Char.ofNat 0xA7D5]

theorem not_capitalizes_late {c : Char} (late : c ∈ lateCapitals) : ¬Capitalizes c := by
  have all : lateCapitals.all fun c => !decide (Capitalizes c) := by decide +kernel
  simpa using List.all_eq_true.mp all c late

theorem capitalizes_expansions : ∀ entry ∈ upperExpansions,
    (rangeBits wordStartRanges).testBit entry.1 → Capitalizes (Char.ofNat entry.1) := by
  decide +kernel

/-- A run sends code points that start words to capitals that do. -/
theorem capitals_upperRuns : ∀ run ∈ upperRuns, ∀ pair ∈ run.pairs,
    (rangeBits wordStartRanges).testBit pair.1 → pair.1 ∉ lateCapitals.map Char.toNat →
      pair.2.isValidChar ∧ (rangeBits wordStartRanges).testBit pair.2 ∧
        (rangeBits uppercaseRanges).testBit pair.2 := by
  decide +kernel

theorem capitalizes_iff {c : Char} (starts : startsWord c) :
    Capitalizes c ↔ c ∉ lateCapitals := by
  refine ⟨fun h late => not_capitalizes_late late h, fun early => ?_⟩
  have digit : (rangeBits wordStartRanges).testBit c.toNat := by rwa [testBit_rangeBits]
  rcases expanded : upperExpansions.lookup c.toNat with _ | ns
  · rcases found : runTarget? upperRuns c.toNat with _ | m
    · exact .of_eq (by simp [upperChar, expanded, found]) starts (.inr rfl)
    · obtain ⟨run, listed, pair⟩ := mem_pairs_of_runTarget? found
      have other : c.toNat ∉ lateCapitals.map Char.toNat := by
        rw [List.mem_map_of_injective fun _ _ => Char.toNat_inj.mp]
        exact early
      obtain ⟨valid, first, capital⟩ := capitals_upperRuns run listed _ pair digit other
      have same : (Char.ofNat m).toNat = m := by
        rw [Char.ofNat, dif_pos valid]
        rfl
      rw [testBit_rangeBits, ← same] at first capital
      exact .of_eq (by simp [upperChar, expanded, found]) first (.inl capital)
  · have capitalizes := capitalizes_expansions _ (mem_of_lookup expanded) digit
    rwa [Char.ofNat_toNat] at capitalizes

end CiteStyle.Text
