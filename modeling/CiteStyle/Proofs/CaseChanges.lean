-- No change of case makes a text disappear. Every character becomes one
-- character or more, and what is not a letter is kept.
import CiteStyle.Entries
import CiteStyle.Proofs.Runs
import CiteStyle.TextCase

namespace CiteStyle

namespace Text

/-! ## Runs one code point at a time -/

/-- The code points of a run, each with the one that it is sent to. -/
def CaseRun.pairs (run : CaseRun) : List (Nat × Nat) :=
  (List.range ((run.last - run.first) / run.step + 1)).map fun k =>
    (run.first + run.step * k, run.target + run.step * k)

theorem mem_pairs_of_runTarget? {runs : List CaseRun} {n m : Nat}
    (found : runTarget? runs n = some m) : ∃ run ∈ runs, (n, m) ∈ run.pairs := by
  induction runs with
  | nil => cases found
  | cons run rest ih =>
    unfold runTarget? at found
    split at found
    · cases found
    · split at found
      · rename_i reached within
        split at found
        · rename_i even
          cases found
          have steps : run.step * ((n - run.first) / run.step) = n - run.first :=
            Nat.mul_div_cancel' (Nat.dvd_of_mod_eq_zero even)
          have few : (n - run.first) / run.step ≤ (run.last - run.first) / run.step :=
            Nat.div_le_div_right (by omega)
          refine ⟨run, List.mem_cons_self, List.mem_map.mpr ⟨_, List.mem_range.mpr
            (Nat.lt_succ_of_le few), ?_⟩⟩
          rw [steps]
          congr 1
          omega
        · cases found
      · obtain ⟨other, mem, listed⟩ := ih found
        exact ⟨other, List.mem_cons_of_mem run mem, listed⟩

/-! ## Single characters -/

theorem lowerChar_ne_nil (c : Char) : lowerChar c ≠ [] := by
  unfold lowerChar
  split
  · simp
  · split <;> simp

theorem upperChar_ne_nil (c : Char) : upperChar c ≠ [] := by
  have all : upperExpansions.all (!·.2.isEmpty) := by decide +kernel
  unfold upperChar
  split
  · rename_i ns found
    simpa using List.all_eq_true.mp all _ (mem_of_lookup found)
  · split <;> simp

end Text

open Text

namespace TextCase

/-! ## Texts -/

theorem splitWhere_ne_nil (p : Char → Bool) (cs : List Char) : splitWhere p cs ≠ [] := by
  rw [splitWhere_eq_splitOnP]
  exact List.splitOnP_ne_nil p cs

theorem capitalize_ne_nil {cs : List Char} (h : cs ≠ []) : capitalize cs ≠ [] := by
  cases cs with
  | nil => exact absurd rfl h
  | cons c rest => simp [capitalize, upperChar_ne_nil c]

theorem lowerFrom_ne_nil {before cs : List Char} (h : cs ≠ []) : lowerFrom before cs ≠ [] := by
  cases cs with
  | nil => exact absurd rfl h
  | cons c rest =>
    unfold lowerFrom
    split
    · simp
    · simp [lowerChar_ne_nil c]

theorem titleFrom_ne_nil {opening : Bool} {cs : List Char} (h : cs ≠ []) :
    titleFrom opening cs ≠ [] := by
  cases cs with
  | nil => exact absurd rfl h
  | cons c rest =>
    rw [titleFrom]
    split
    · have word : titleWord opening (c :: rest.takeWhile continuesWord) ≠ [] := by
        unfold titleWord
        split
        · exact capitalize_ne_nil (by simp)
        · simp
      simp [word]
    · simp

theorem capitalizePieces_ne_nil {cs : List Char} (h : cs ≠ []) : capitalizePieces cs ≠ [] := by
  cases cs with
  | nil => exact absurd rfl h
  | cons c rest =>
    unfold capitalizePieces splitWhere
    split
    · -- The first piece is empty, but a space follows it.
      obtain ⟨piece, pieces, more⟩ := List.exists_cons_of_ne_nil (splitWhere_ne_nil (· == ' ') rest)
      simp [more, List.intercalate]
    · have piece : ∀ cs : List Char, capitalize (c :: cs) ≠ [] :=
        fun cs => capitalize_ne_nil (by simp)
      split
      · simpa [List.intercalate] using piece []
      · rename_i cs pieces _
        cases pieces <;> simp [List.intercalate, piece cs]

theorem flatMap_upperChar_ne_nil {cs : List Char} (h : cs ≠ []) : cs.flatMap upperChar ≠ [] := by
  cases cs with
  | nil => exact absurd rfl h
  | cons c rest => simp [upperChar_ne_nil c]

theorem ofList_ne_empty {cs : List Char} (h : cs ≠ []) : String.ofList cs ≠ "" := by
  intro empty
  exact h (String.ofList_injective empty)

/-- A text that is there is still there after a change of case. -/
theorem apply_ne_empty (textCase : TextCase) (english : Bool) {s : String} (h : s ≠ "") :
    textCase.apply english s ≠ "" := by
  have chars : s.toList ≠ [] := by simpa using h
  unfold apply
  split
  · exact ofList_ne_empty (lowerFrom_ne_nil chars)
  · exact ofList_ne_empty (flatMap_upperChar_ne_nil chars)
  · exact ofList_ne_empty (capitalize_ne_nil chars)
  · exact ofList_ne_empty (capitalizePieces_ne_nil chars)
  · split
    · exact ofList_ne_empty (titleFrom_ne_nil chars)
    · exact h

end TextCase

end CiteStyle
