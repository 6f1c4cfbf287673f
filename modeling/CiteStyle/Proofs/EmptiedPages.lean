-- When nothing is left of the last page of a range. Whether the pages are the same
-- is asked before the last page is completed, and not again; and the zeros of a
-- shortened page are left out even if there is nothing else. So the last page
-- disappears if it is the start of the first one, or such a start and zeros.
import CiteStyle.Proofs.UnnumberedPages
import Mathlib.Data.List.TakeWhile

namespace CiteStyle.Pages

open Text

/-! ## Nothing but shared places and zeros -/

/-- The last page is a start of the first one, without the last two places of it, and then zeros. -/
def EndsInZeros (first last : List Char) : Prop :=
  ∃ kept ≤ first.length - 2, ∃ zeros, last = first.take kept ++ List.replicate zeros '0'

/-- Both pages are numbers, and such that the last one is to be shortened. -/
def IsShortened (shortens : Nat → Nat → Bool) (first last : List Char) : Prop :=
  ∃ m n, readNat? maxSigned64 first = some m ∧ readNat? maxSigned64 last = some n ∧ shortens m n

/-- A convention leaves nothing of a last page of which no place is missing. -/
def RangeFormat.Empties (f : RangeFormat) (first last : List Char) : Prop :=
  last.length ≤ first.length ∧
    match f with
    | .chicago15 => IsShortened chicago15Shortens first last ∧ EndsInZeros first last
    | .chicago16 => IsShortened chicago16Shortens first last ∧ EndsInZeros first last
    | .expanded => False
    | .minimal => last <+: first
    | .minimalTwo => EndsInZeros first last

/-! ## Shared places -/

theorem dropShared_eq_nil_iff {first last : List Char} :
    dropShared first last = [] ↔ last <+: first := by
  have same := take_sharedLength first last
  unfold dropShared
  rw [List.drop_eq_nil_iff]
  constructor
  · intro all
    rw [List.take_of_length_le all] at same
    rw [← same]
    exact List.take_prefix _ _
  · intro starts
    have whole := List.prefix_iff_eq_take.mp starts
    refine le_sharedLength starts.length_le (Nat.le_refl _) ?_
    rw [List.take_length, ← whole]

theorem dropWhile_zeros_eq_nil_iff {cs : List Char} :
    cs.dropWhile (· == '0') = [] ↔ ∃ zeros, cs = List.replicate zeros '0' := by
  simp only [List.dropWhile_eq_nil_iff, beq_iff_eq]
  constructor
  · exact fun all => ⟨cs.length, List.eq_replicate_iff.mpr ⟨rfl, all⟩⟩
  · rintro ⟨zeros, rfl⟩ c mem
    exact List.eq_of_mem_replicate mem

theorem dropSharedButTwo_eq_nil_iff {first last : List Char} :
    dropSharedButTwo first last = [] ↔ EndsInZeros first last := by
  unfold dropSharedButTwo
  generalize hs : min (first.length - 2) (sharedLength first last) = shared
  rw [dropWhile_zeros_eq_nil_iff]
  constructor
  · rintro ⟨zeros, rest⟩
    have same := congrArg (List.take shared) (take_sharedLength first last)
    rw [List.take_take, List.take_take, Nat.min_eq_left (by omega)] at same
    refine ⟨shared, by omega, zeros, ?_⟩
    rw [same, ← rest, List.take_append_drop]
  · rintro ⟨kept, bound, zeros, rfl⟩
    have length : (first.take kept).length = kept := by
      rw [List.length_take]
      omega
    -- The places that are kept are shared, so that what is dropped reaches into the zeros.
    have reaches : kept ≤ sharedLength first (first.take kept ++ List.replicate zeros '0') := by
      refine le_sharedLength (by omega) ?_ ?_
      · rw [List.length_append]
        omega
      · rw [List.take_left' length]
    refine ⟨zeros - (shared - kept), ?_⟩
    rw [List.drop_append, List.drop_eq_nil_of_le (by omega), List.nil_append, length,
      List.drop_replicate]

/-! ## Each convention -/

theorem shortenNumber_eq_nil_iff (shortens : Nat → Nat → Bool) {first last : List Char}
    (hf : IsPage first) (hl : IsPage last) :
    shortenNumber shortens first last = [] ↔
      IsShortened shortens first last ∧ EndsInZeros first last := by
  unfold shortenNumber
  constructor
  · intro empty
    split at empty
    · exact absurd empty hl.1
    · -- Shared letters would be written, so that there are none.
      rename_i letters shared
      dsimp only at empty
      split at empty
      · rename_i m n readFirst readLast
        obtain ⟨rfl, empty⟩ := List.append_eq_nil_iff.mp empty
        rw [List.length_nil, List.drop_zero] at readFirst readLast empty
        rw [List.drop_zero] at empty
        split at empty
        · rename_i short
          exact ⟨⟨m, n, readFirst, readLast, short⟩, dropSharedButTwo_eq_nil_iff.mp empty⟩
        · exact absurd empty hl.1
      · obtain ⟨rfl, empty⟩ := List.append_eq_nil_iff.mp empty
        exact absurd empty hl.1
  · rintro ⟨⟨m, n, readFirst, readLast, short⟩, zeros⟩
    have digitsFirst := (isDigits_iff.mp (isDigits_of_readNat? readFirst hf.2)).2
    have digitsLast := (isDigits_iff.mp (isDigits_of_readNat? readLast hl.2)).2
    rw [sharedLetters_digits digitsFirst digitsLast]
    simp only [List.length_nil, List.drop_zero, List.nil_append, readFirst, readLast]
    rw [if_pos short]
    exact dropSharedButTwo_eq_nil_iff.mpr zeros

/-! ## Completed pages -/

theorem length_expand_le {first last : List Char} (lt : last.length < first.length) :
    (expand first last).length ≤ first.length := by
  unfold expand
  split
  · omega
  · simp only [List.length_append, List.length_take, List.length_drop]
    omega

theorem isPage_expand {first last : List Char} (hf : IsPage first) (hl : IsPage last)
    (lt : last.length < first.length) : IsPage (expand first last) := by
  refine ⟨?_, not_mem_expand hf.2 hl.2⟩
  unfold expand
  split
  · exact hl.1
  · intro empty
    have length := congrArg List.length empty
    simp only [List.length_append, List.length_take, List.length_drop, List.length_nil] at length
    omega

/-- A last page that is not longer than the first does not become so when it is completed. -/
theorem isPage_completed {first last : List Char} (hf : IsPage first) (hl : IsPage last)
    (le : last.length ≤ first.length) :
    IsPage (RangeFormat.expanded.lastPage first last) ∧
      (RangeFormat.expanded.lastPage first last).length ≤ first.length := by
  unfold RangeFormat.lastPage
  rw [if_neg (by omega)]
  split
  · rename_i shorter
    exact ⟨isPage_expand hf hl shorter, length_expand_le shorter⟩
  · exact ⟨hl, le⟩

namespace RangeFormat

theorem shorten_eq_nil_iff (f : RangeFormat) {first last : List Char} (hf : IsPage first)
    (hl : IsPage last) (le : last.length ≤ first.length) :
    f.shorten first last = [] ↔ f.Empties first last := by
  unfold Empties
  rw [and_iff_right le]
  cases f with
  | chicago15 => exact shortenNumber_eq_nil_iff chicago15Shortens hf hl
  | chicago16 => exact shortenNumber_eq_nil_iff chicago16Shortens hf hl
  | expanded => exact iff_of_false hl.1 not_false
  | minimal => exact dropShared_eq_nil_iff
  | minimalTwo => exact dropSharedButTwo_eq_nil_iff

/-- Nothing is left of the last page just when the convention empties the completed one. -/
theorem lastPage_eq_nil_iff (f : RangeFormat) {first last : List Char} (hf : IsPage first)
    (hl : IsPage last) :
    f.lastPage first last = [] ↔ f.Empties first (expanded.lastPage first last) := by
  by_cases longer : first.length < last.length
  · have kept (g : RangeFormat) : g.lastPage first last = last := if_pos longer
    rw [kept, kept]
    exact iff_of_false hl.1 fun empties => absurd empties.1 (by omega)
  · obtain ⟨page, le⟩ := isPage_completed hf hl (by omega)
    rw [lastPage_eq_shorten f (by omega)]
    exact f.shorten_eq_nil_iff hf page le

/-! ## Ranges -/

/-- A range of two different pages is written as the first page, the delimiter and a second page.
The second page is empty just when the convention leaves nothing of the completed last page, which
it never does if the pages are numbers in order. -/
theorem format_secondPage (f : RangeFormat) (delimiter : String) {text : String} {r : Range}
    (mem : r ∈ read text) {first last : String} (ends : r.ends = some (first, last))
    (ne : first ≠ last) :
    let full := expanded.lastPage first.toList last.toList
    ∃ second, f.format delimiter r = first ++ delimiter ++ second ∧
      (second = "" ↔ f.Empties first.toList full) ∧
      (isDigits first.toList → isDigits last.toList →
        digitsValue first.toList < digitsValue full → second ≠ "") := by
  obtain ⟨hf, hl⟩ := isPage_of_read mem ends
  intro full
  have blank (page : List Char) : String.ofList page = "" ↔ page = [] := by
    rw [← String.toList_inj, String.toList_ofList, String.toList_empty]
  refine ⟨_, format_of_ends f delimiter ends ne, ?_, fun digitsFirst digitsLast lt => ?_⟩
  · rw [blank]
    exact f.lastPage_eq_nil_iff hf hl
  · obtain ⟨digits, -, -⟩ :=
      lastPage_lossless f (isDigits_iff.mp digitsFirst).2 (isDigits_iff.mp digitsLast).2 rfl lt
    rw [ne_eq, blank]
    exact (isDigits_iff.mp digits).1

/-- Pages that are numbers in descending order. -/
def fallingPages : Range := .ofEnds "105".toList ['-'] "100".toList

theorem format_secondPage_falling :
    fallingPages ∈ read "105-100" ∧ chicago16.Empties "105".toList "100".toList ∧
      chicago16.format "–" fallingPages = "105–" := by
  have mem : fallingPages ∈ read "105-100" := mem_read (by decide +kernel)
  have ends : fallingPages.ends = some ("105", "100") := ends_ofEnds _ _ _
  have empties : chicago16.Empties "105".toList "100".toList :=
    ⟨by decide, ⟨105, 100, by decide, by decide, by decide⟩, 1, by decide, 2, by decide⟩
  obtain ⟨second, written, blank, -⟩ := format_secondPage chicago16 "–" mem ends (by decide)
  have gone : second = "" := blank.mpr empties
  exact ⟨mem, empties, by rw [written, gone]; rfl⟩

/-- A page may be lost: of 105-100 nothing is left behind the delimiter by the convention that keeps
two digits at least. -/
theorem format_empties_page :
    ¬∀ (f : RangeFormat) (delimiter text : String) (r : Range) (first last : String),
      r ∈ read text → r.ends = some (first, last) → first ≠ last →
        ∃ second, second ≠ "" ∧ f.format delimiter r = first ++ delimiter ++ second := by
  intro filled
  have mem : fallingPages ∈ read "105-100" := mem_read (by decide +kernel)
  have ends : fallingPages.ends = some ("105", "100") := ends_ofEnds _ _ _
  obtain ⟨second, ne, written⟩ := filled minimalTwo "–" "105-100" _ "105" "100" mem ends (by decide)
  have emptied : minimalTwo.format "–" fallingPages = "105" ++ "–" ++ "" := by decide +kernel
  rw [emptied, String.append_right_inj] at written
  exact ne written.symm

end RangeFormat

end CiteStyle.Pages
