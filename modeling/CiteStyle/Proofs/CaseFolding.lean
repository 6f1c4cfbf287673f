-- Two ways to disregard the case of letters: lower case, and folding, which puts
-- one letter for all that differ in case only. They agree on most texts, but not
-- on all. A letter such as the long s is in lower case already, and folding puts
-- another letter for it; and a sigma at the end of a word has a lower case of its
-- own. Neither of the two touches a period or white space.
import CiteStyle.Proofs.CaseChanges

namespace CiteStyle.Text

/-! ## Folding -/

/-- Two texts have the same letters in the same order, but for their case. -/
def SameLetters (cs ds : List Char) : Prop := cs.map foldChar = ds.map foldChar

instance (cs ds : List Char) : Decidable (SameLetters cs ds) :=
  inferInstanceAs (Decidable (_ = _))

theorem foldChar_of_sameFolded {c d : Char} (same : sameFolded c d) : foldChar c = foldChar d := by
  simp only [sameFolded, Bool.or_eq_true, beq_iff_eq] at same
  rcases same with rfl | same
  · rfl
  · exact same

theorem foldChar_blank {c : Char} (blank : isBlank c) : foldChar c = c := by
  have unfolded : ∀ n ∈ blanks, runTarget? foldRuns n = none := by decide +kernel
  rw [foldChar, unfolded c.toNat (mem_blanks blank)]

/-! ## Lower case and periods -/

theorem ofNat_eq_period {n : Nat} (h : Char.ofNat n = '.') : n = 46 := by
  by_cases valid : n.isValidChar
  · rw [Char.ofNat, dif_pos valid] at h
    exact congrArg Char.toNat h
  · rw [Char.ofNat, dif_neg valid] at h
    exact absurd h (by decide)

/-- Nothing but a period has a period in its lower case. -/
theorem eq_period_of_mem_lowerChar {c : Char} (mem : '.' ∈ lowerChar c) : c = '.' := by
  have letters : ∀ run ∈ lowerRuns, 46 < run.target := by decide +kernel
  unfold lowerChar at mem
  split at mem
  · exact absurd mem (by decide)
  · split at mem
    · rename_i n found
      obtain ⟨run, listed, pair⟩ := mem_pairs_of_runTarget? found
      obtain ⟨k, -, same⟩ := List.mem_map.mp pair
      have large := letters run listed
      have sent : run.target + run.step * k = n := congrArg Prod.snd same
      have period := ofNat_eq_period (List.mem_singleton.mp mem).symm
      omega
    · exact (List.mem_singleton.mp mem).symm

/-- A text that does not end with a period does not do so in lower case. -/
theorem lowerFrom_ends {before cs : List Char} (ends : '.' ∈ (lowerFrom before cs).getLast?) :
    '.' ∈ cs.getLast? := by
  induction cs generalizing before with
  | nil => cases ends
  | cons c cs ih =>
    rw [lowerFrom] at ends
    cases cs with
    | nil =>
      have mem := List.mem_of_getLast? ends
      rw [lowerFrom, List.append_nil] at mem
      split at mem
      · rename_i sigma
        split at mem <;> exact absurd mem (by decide)
      · simp [eq_period_of_mem_lowerChar mem]
    | cons d cs =>
      have filled : lowerFrom (c :: before) (d :: cs) ≠ [] := TextCase.lowerFrom_ne_nil (by simp)
      have last := List.getLast?_eq_some_getLast filled
      rw [List.getLast?_append, last, Option.some_or, ← last] at ends
      rw [List.getLast?_cons_cons]
      exact ih ends

/-! ## White space -/

/-- Folding finds the white space at the ends of a text. -/
theorem trimChars_of_folded {cs ds : List Char} (folded : cs.map foldChar = ds)
    (trimmed : trimChars ds = ds) : trimChars cs = cs := by
  obtain ⟨first, last⟩ := ends_of_trimChars trimmed
  have kept {c : Char} (outside : isBlank (foldChar c) = false) : isBlank c = false := by
    refine Bool.eq_false_iff.mpr fun blank => ?_
    rw [foldChar_blank blank] at outside
    exact Bool.eq_false_iff.mp outside blank
  refine trimChars_of_ends (fun c hc => kept (first _ ?_)) fun c hc => kept (last _ ?_)
  · rw [← folded, List.head?_map, Option.mem_def.mp hc]
    rfl
  · rw [← folded, List.getLast?_map, Option.mem_def.mp hc]
    rfl

/-! ## A period that may be there -/

/-- Nothing, or a period. -/
def optionalPeriod : List (List Char) := [[], ['.']]

theorem mem_optionalPeriod {period : List Char} :
    period ∈ optionalPeriod ↔ period = [] ∨ period = ['.'] := by
  simp [optionalPeriod]

theorem map_foldChar_period {period : List Char} (listed : period ∈ optionalPeriod) :
    period.map foldChar = period := by
  have dot : foldChar '.' = '.' := by decide +kernel
  rcases mem_optionalPeriod.mp listed with rfl | rfl <;> simp [dot]

theorem trimChars_append_period {cs period : List Char} (trimmed : trimChars cs = cs)
    (listed : period ∈ optionalPeriod) : trimChars (cs ++ period) = cs ++ period := by
  rcases mem_optionalPeriod.mp listed with rfl | rfl
  · rwa [List.append_nil]
  · have dot : isBlank '.' = false := by decide
    refine trimChars_of_ends (fun c hc => ?_) fun c hc => ?_
    · cases cs with
      | nil =>
        cases hc
        exact dot
      | cons d cs => exact (ends_of_trimChars trimmed).1 c hc
    · rw [List.getLast?_append] at hc
      cases hc
      exact dot

/-- Behind a text that does not end with a period, a period is dropped again. -/
theorem dropEndWhile_append_period {cs period : List Char}
    (ends : ∀ c ∈ cs.getLast?, (c == '.') = false) (listed : period ∈ optionalPeriod) :
    dropEndWhile (· == '.') (cs ++ period) = cs := by
  refine dropEndWhile_run (fun c hc => ?_) ends
  rcases mem_optionalPeriod.mp listed with rfl | rfl
  · cases hc
  · simpa using hc

end CiteStyle.Text
