-- How many pages a list of pages has. The sum is known just when all pages are
-- numbers of 32 bits, no range runs backwards, and the exact sum has 32 bits. The
-- bounds on the way lose nothing, because no count is below one: a sum that is too
-- large at some place stays too large. And the count can be done in words of 32
-- bits, where no step leaves the range of a word unnoticed.
import CiteStyle.Proofs.PageLiterals
import CiteStyle.Proofs.UnnumberedPages

namespace CiteStyle.Pages

open Text

/-! ## One range -/

/-- A range runs over so many pages: its ends are numbers of 32 bits, the last not below the
first. -/
def Range.Counts (r : Range) (n : Nat) : Prop :=
  ∃ first last, r.ends = some (first, last) ∧ isDigits first.toList ∧ isDigits last.toList ∧
    digitsValue first.toList ≤ digitsValue last.toList ∧ digitsValue last.toList ≤ maxUnsigned32 ∧
    digitsValue last.toList - digitsValue first.toList + 1 = n

theorem PageText.readNat?_eq_some_iff {page : List Char} (text : PageText page) {n : Nat} :
    readNat? maxUnsigned32 page = some n ↔
      isDigits page ∧ digitsValue page = n ∧ n ≤ maxUnsigned32 :=
  Text.readNat?_eq_some_iff text.isPage.2

theorem readNat?_unknownPage : readNat? maxUnsigned32 unknownPage = none := by decide

theorem span?_eq_some_iff {first last : List Char} (textFirst : PageText first)
    (textLast : PageText last) {n : Nat} :
    span? first last = some n ↔
      (isDigits first ∧ isDigits last ∧ digitsValue first ≤ digitsValue last ∧
        digitsValue last ≤ maxUnsigned32 ∧ digitsValue last - digitsValue first + 1 = n) ∧
      n ≤ maxUnsigned32 := by
  unfold span?
  split
  · rename_i f l readFirst readLast
    obtain ⟨digitsFirst, rfl, -⟩ := textFirst.readNat?_eq_some_iff.mp readFirst
    obtain ⟨digitsLast, rfl, fits⟩ := textLast.readNat?_eq_some_iff.mp readLast
    simp only [digitsFirst, digitsLast, fits, true_and]
    split
    · rename_i inside
      simp only [Option.some.injEq, inside.1, true_and]
      exact ⟨fun same => ⟨same, same ▸ inside.2⟩, And.left⟩
    · rename_i outside
      refine iff_of_false (by simp) ?_
      rintro ⟨⟨order, same⟩, bound⟩
      exact outside ⟨order, same ▸ bound⟩
  · rename_i unread
    refine iff_of_false (by simp) ?_
    rintro ⟨⟨digitsFirst, digitsLast, order, fits, -⟩, -⟩
    have readFirst := textFirst.readNat?_eq_some_iff.mpr ⟨digitsFirst, rfl, order.trans fits⟩
    have readLast := textLast.readNat?_eq_some_iff.mpr ⟨digitsLast, rfl, fits⟩
    exact unread _ _ readFirst readLast

namespace Range

theorem size_ofEnds (first dash last : List Char) :
    (ofEnds first dash last).size =
      if first = unknownPage ∨ last = unknownPage then none else span? first last := by
  unfold ofEnds
  split
  · rfl
  · split <;> rfl

/-- A range that is read has the number of its pages, if that number has 32 bits. -/
theorem Spelled.size_eq_some_iff {r : Range} (spelled : r.Spelled) {n : Nat} :
    r.size = some n ↔ r.Counts n ∧ n ≤ maxUnsigned32 := by
  cases spelled with
  | @page page text =>
    have read := @PageText.readNat?_eq_some_iff page text
    simp only [ofPage, Counts, Option.map_eq_some_iff, read]
    constructor
    · rintro ⟨m, ⟨digits, rfl, fits⟩, rfl⟩
      refine ⟨⟨_, _, rfl, ?_⟩, by decide⟩
      simp [digits, fits]
    · rintro ⟨⟨first, last, ends, digits, -, -, fits, rfl⟩, -⟩
      simp only [Option.some.injEq, Prod.mk.injEq] at ends
      obtain ⟨rfl, rfl⟩ := ends
      rw [String.toList_ofList] at digits fits
      exact ⟨_, ⟨digits, rfl, fits⟩, by simp⟩
  | @ends first dash last textFirst textDash textLast =>
    have counts : (ofEnds first dash last).Counts n ↔
        isDigits first ∧ isDigits last ∧ digitsValue first ≤ digitsValue last ∧
          digitsValue last ≤ maxUnsigned32 ∧ digitsValue last - digitsValue first + 1 = n := by
      simp [Counts, ends_ofEnds]
    rw [size_ofEnds, counts]
    split
    · rename_i unknown
      have noDigits : isDigits unknownPage = false := by decide
      rcases unknown with rfl | rfl <;> simp [noDigits]
    · exact span?_eq_some_iff textFirst textLast

end Range

/-! ## The sum -/

/-- The bounds on the way to a sum change nothing, because what is added is never below zero: it is
enough to look at the sum of all sizes. -/
theorem sizeFrom_eq {total : Nat} (fits : total ≤ maxUnsigned32) (rs : List Range) :
    sizeFrom total rs =
      ((rs.mapM Range.size).map (total + ·.sum)).filter (· ≤ maxUnsigned32) := by
  induction rs generalizing total with
  | nil => simp [sizeFrom, Option.filter, fits]
  | cons r rs ih =>
    rw [List.mapM_cons]
    cases known : r.size with
    | none => simp [sizeFrom, known]
    | some size =>
      by_cases small : total + size ≤ maxUnsigned32
      · have step : sizeFrom total (r :: rs) = sizeFrom (total + size) rs := by
          simp [sizeFrom, known, small]
        rw [step, ih small]
        cases rs.mapM Range.size <;> simp [Nat.add_assoc]
      · have step : sizeFrom total (r :: rs) = none := by
          simp [sizeFrom, known, small]
        rw [step]
        cases rs.mapM Range.size with
        | none => rfl
        | some sizes =>
          have large : ¬total + (size + sizes.sum) ≤ maxUnsigned32 := by omega
          simp [Option.filter, large]

theorem sizeFrom_eq_some_iff {total : Nat} (fits : total ≤ maxUnsigned32) {rs : List Range}
    {n : Nat} :
    sizeFrom total rs = some n ↔
      n ≤ maxUnsigned32 ∧ ∃ sizes, List.Forall₂ (fun r size => r.size = some size) rs sizes ∧
        total + sizes.sum = n := by
  simp only [sizeFrom_eq fits, Option.filter_eq_some_iff, Option.map_eq_some_iff, mapM_eq_some_iff,
    decide_eq_true_eq]
  exact and_comm

/-! ## Words of 32 bits -/

/-- A step on words that leaves their range. -/
inductive Overflow where
  | belowZero
  deriving DecidableEq, Repr

/-- The difference of two words. It must not be below zero. -/
def minusWord (a b : UInt32) : Except Overflow UInt32 :=
  if b ≤ a then .ok (a - b) else .error .belowZero

/-- The sum of two words, or nothing if it has come out smaller than a summand, and so is not the
sum. -/
def plusWord? (a b : UInt32) : Option UInt32 := if a ≤ a + b then some (a + b) else none

/-- The number of pages from one word to another, if they are in order. -/
def spanInWords (first last : UInt32) : Except Overflow (Option UInt32) :=
  if first ≤ last then (minusWord last first).map (plusWord? · 1) else .ok none

/-- The number of pages of a range, in words. -/
def Range.sizeInWords (r : Range) : Except Overflow (Option UInt32) :=
  match r.ends with
  | none => .ok none
  | some (first, last) =>
    match readNat? maxUnsigned32 first.toList, readNat? maxUnsigned32 last.toList with
    | some f, some l => spanInWords (.ofNat f) (.ofNat l)
    | _, _ => .ok none

/-- How many pages some ranges have on top of a number of pages, in words. -/
def sizeInWords (total : UInt32) : List Range → Except Overflow (Option UInt32)
  | [] => .ok (some total)
  | r :: rest =>
    match r.sizeInWords with
    | .error overflow => .error overflow
    | .ok none => .ok none
    | .ok (some size) =>
      match plusWord? total size with
      | none => .ok none
      | some sum => sizeInWords sum rest

theorem plusWord?_eq (a b : UInt32) :
    (plusWord? a b).map UInt32.toNat =
      if a.toNat + b.toNat ≤ maxUnsigned32 then some (a.toNat + b.toNat) else none := by
  have bound := a.toNat_lt
  have boundToo := b.toNat_lt
  have sum := UInt32.toNat_add a b
  unfold plusWord? maxUnsigned32
  by_cases small : a.toNat + b.toNat ≤ 4294967295
  · have whole : (a + b).toNat = a.toNat + b.toNat := by omega
    have le : a ≤ a + b := UInt32.le_iff_toNat_le.mpr (by omega)
    simp [small, le, whole]
  · have lt : ¬a ≤ a + b := fun le => by
      have := UInt32.le_iff_toNat_le.mp le
      omega
    simp [small, lt]

theorem spanInWords_eq {f l : Nat} (fitsFirst : f ≤ maxUnsigned32) (fits : l ≤ maxUnsigned32) :
    (spanInWords (.ofNat f) (.ofNat l)).map (Option.map UInt32.toNat) =
      .ok (if f ≤ l ∧ l - f + 1 ≤ maxUnsigned32 then some (l - f + 1) else none) := by
  have isWord {n : Nat} (fits : n ≤ maxUnsigned32) : (UInt32.ofNat n).toNat = n :=
    UInt32.toNat_ofNat_of_lt' (Nat.lt_of_le_of_lt fits (by decide))
  have first := isWord fitsFirst
  have last := isWord fits
  have order : UInt32.ofNat f ≤ .ofNat l ↔ f ≤ l := by rw [UInt32.le_iff_toNat_le, first, last]
  unfold spanInWords minusWord
  by_cases inOrder : f ≤ l
  · have difference : (UInt32.ofNat l - .ofNat f).toNat = l - f := by
      rw [UInt32.toNat_sub_of_le _ _ (order.mpr inOrder), first, last]
    have sum := plusWord?_eq (.ofNat l - .ofNat f) 1
    rw [difference] at sum
    simp only [order, inOrder, if_true, Except.map, true_and, sum]
    rfl
  · simp only [order, inOrder, if_false, Except.map, false_and]
    rfl

namespace Range

/-- The count of a range that is read does not leave the words, and is exact. -/
theorem Spelled.sizeInWords_eq {r : Range} (spelled : r.Spelled) :
    r.sizeInWords.map (Option.map UInt32.toNat) = .ok r.size := by
  unfold sizeInWords
  cases spelled with
  | @page page text =>
    simp only [ofPage, String.toList_ofList]
    cases read : readNat? maxUnsigned32 page with
    | none => rfl
    | some f =>
      have fits := (text.readNat?_eq_some_iff.mp read).2.2
      simp [spanInWords_eq fits fits, maxUnsigned32]
  | @ends first dash last textFirst textDash textLast =>
    simp only [ends_ofEnds, size_ofEnds, String.toList_ofList]
    by_cases unknown : first = unknownPage ∨ last = unknownPage
    · rw [if_pos unknown]
      rcases unknown with rfl | rfl
      · simp [readNat?_unknownPage, Except.map]
      · simp [readNat?_unknownPage, Except.map]
    · rw [if_neg unknown]
      unfold span?
      cases readFirst : readNat? maxUnsigned32 first with
      | none => rfl
      | some f =>
        cases readLast : readNat? maxUnsigned32 last with
        | none => rfl
        | some l =>
          have fitsFirst := (textFirst.readNat?_eq_some_iff.mp readFirst).2.2
          have fits := (textLast.readNat?_eq_some_iff.mp readLast).2.2
          exact spanInWords_eq fitsFirst fits

end Range

/-- The sum of exact counts does not leave the words, and is exact. -/
theorem sizeInWords_eq {rs : List Range}
    (each : ∀ r ∈ rs, r.sizeInWords.map (Option.map UInt32.toNat) = .ok r.size) (total : UInt32) :
    (sizeInWords total rs).map (Option.map UInt32.toNat) = .ok (sizeFrom total.toNat rs) := by
  induction rs generalizing total with
  | nil => rfl
  | cons r rs ih =>
    have first := each r List.mem_cons_self
    have others := ih fun r mem => each r (List.mem_cons_of_mem _ mem)
    unfold sizeInWords sizeFrom
    cases words : r.sizeInWords with
    | error overflow => simp [words, Except.map] at first
    | ok count =>
      have known : r.size = count.map UInt32.toNat := by
        simpa [words, Except.map] using first.symm
      cases count with
      | none => simp [known, Except.map]
      | some size =>
        have sum := plusWord?_eq total size
        simp only [known, Option.map_some, Option.bind_eq_bind, Option.bind_some]
        cases added : plusWord? total size with
        | none =>
          rw [added, Option.map_none] at sum
          split at sum
          · cases sum
          · rename_i large
            simp [large, Except.map]
        | some next =>
          rw [added, Option.map_some] at sum
          split at sum
          · rename_i small
            rw [if_pos small, ← Option.some.inj sum]
            exact others next
          · cases sum

/-! ## What is read -/

theorem Range.not_counts_ofText (text : String) (n : Nat) : ¬(ofText text).Counts n := by
  rintro ⟨_, _, ⟨⟩, -⟩

/-- No count of a sum is above the sum, so that the counts in a sum of 32 bits are known. -/
theorem sizes_iff_counts {rs : List Range}
    (each : ∀ r ∈ rs, ∀ n, r.size = some n ↔ r.Counts n ∧ n ≤ maxUnsigned32) {counts : List Nat}
    (bound : counts.sum ≤ maxUnsigned32) :
    List.Forall₂ (fun r size => r.size = some size) rs counts ↔
      List.Forall₂ Range.Counts rs counts := by
  induction rs generalizing counts with
  | nil => simp
  | cons r rs ih =>
    cases counts with
    | nil => simp
    | cons n counts =>
      rw [List.sum_cons] at bound
      have small : n ≤ maxUnsigned32 := by omega
      rw [List.forall₂_cons, List.forall₂_cons, each r List.mem_cons_self, and_iff_left small,
        ih (fun r mem => each r (List.mem_cons_of_mem _ mem)) (by omega)]

/-- The number of the pages that were read is the exact sum of the pages of each range, and is known
just when each range has numbers of 32 bits in order for its ends and the sum has 32 bits. No step
of the count leaves the words of 32 bits. -/
theorem size_read (text : String) :
    (∀ n, size (read text) = some n ↔
      n ≤ maxUnsigned32 ∧
        ∃ counts, List.Forall₂ Range.Counts (read text) counts ∧ counts.sum = n) ∧
    (sizeInWords 0 (read text)).map (Option.map UInt32.toNat) = .ok (size (read text)) := by
  have exact : ∀ r ∈ read text, ∀ n, r.size = some n ↔ r.Counts n ∧ n ≤ maxUnsigned32 := by
    intro r mem n
    rcases spelled_or_ofText mem with spelled | rfl
    · exact spelled.size_eq_some_iff
    · exact iff_of_false (by simp [Range.ofText]) fun h => Range.not_counts_ofText text n h.1
  have inWords : ∀ r ∈ read text, r.sizeInWords.map (Option.map UInt32.toNat) = .ok r.size := by
    intro r mem
    rcases spelled_or_ofText mem with spelled | rfl
    · exact spelled.sizeInWords_eq
    · rfl
  refine ⟨fun n => ?_, sizeInWords_eq inWords 0⟩
  rw [size, sizeFrom_eq_some_iff (Nat.zero_le _)]
  refine and_congr_right fun bound => exists_congr fun counts => ?_
  rw [Nat.zero_add]
  constructor
  · rintro ⟨sizes, rfl⟩
    exact ⟨(sizes_iff_counts exact bound).mp sizes, rfl⟩
  · rintro ⟨all, rfl⟩
    exact ⟨(sizes_iff_counts exact bound).mpr all, rfl⟩

end CiteStyle.Pages
