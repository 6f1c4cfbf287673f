-- Lists and ranges of known months in a year of four digits. Only the first two parts
-- are read, whatever follows them: a range ends with the second month, and a list is
-- merged if the second month is close to the first. So it runs between its ends as
-- long as it has two parts. Close are numbers that are at most one apart, and a few
-- that are so far apart that their difference wraps around.
import CiteStyle.Proofs.SecondHalves

namespace CiteStyle.Date.YearMonth

open Text

section
variable {tables : List MonthNames} {year text part : String}

/-! ## One month -/

theorem monthPart_known {n : Nat} (known : month? tables part = some n) :
    monthPart tables (some part) = [withSign n] := by
  unfold monthPart
  rw [Option.bind_some, known]
  rfl

theorem range?_month (digits : isDigits year.toList) (four : year.toList.length = 4)
    (noDash : NoDash part) :
    range? tables (some year) (some part) =
      some (ofParts ((digitsValue year.toList : Int) :: monthPart tables (some part))) := by
  rw [range?_single (length_rangeParts (noDash_digits digits)) (length_rangeParts noDash),
    single?_four tables digits four]

/-! ## Months that are close -/

/-- The size of a number of 32 bits. That of the least one does not fit, and wraps around to the
number itself. -/
theorem toInt_abs (x : Int32) :
    x.abs.toInt = if x.toInt = -2147483648 then -2147483648 else (x.toInt.natAbs : Int) := by
  have least : x.toBitVec = BitVec.intMin 32 ↔ x.toInt = -2147483648 := by
    rw [← BitVec.toInt_inj]
    rfl
  have size : x.abs.toInt = x.toBitVec.abs.toInt := rfl
  rw [size, BitVec.toInt_abs_eq_natAbs]
  simp only [least]
  rfl

theorem isClose_iff {a b : Int} :
    isClose a b ↔
      ((b - a).bmod 4294967296).natAbs ≤ 1 ∨ (b - a).bmod 4294967296 = -2147483648 := by
  have wrapped : (Int32.ofInt b - Int32.ofInt a).toInt = (b - a).bmod 4294967296 := by
    rw [← Int32.ofInt_sub]
    exact Int32.toInt_ofInt
  have one : (1 : Int32).toInt = 1 := rfl
  rw [isClose, decide_eq_true_iff, Int32.le_iff_toInt_le, toInt_abs, wrapped, one]
  split <;> omega

/-- Months are close if their numbers are at most one apart, or if the difference wraps around to
such a size: it is all that 32 bits have, or half of what they have with one more. -/
theorem isClose_withSign {m n : Nat} (first : m ≤ maxUnsigned32) (second : n ≤ maxUnsigned32) :
    isClose (withSign m) (withSign n) ↔
      let apart := ((n : Int) - m).natAbs
      apart ≤ 1 ∨ apart = 2147483648 ∨ apart = 4294967295 := by
  have signed (k : Nat) : withSign k = k ∨ withSign k = (k : Int) - 4294967296 := by
    unfold withSign
    split
    · exact .inl rfl
    · exact .inr rfl
  rw [isClose_iff, Int.bmod_def]
  unfold maxUnsigned32 at first second
  -- Multiples of 4294967296 make no difference, so that it does not matter which signs there are.
  rcases signed m with h | h <;> rcases signed n with h' | h' <;> rw [h, h'] <;> omega

/-! ## Two months and more -/

/-- The parts of a range of months. -/
def IsRange (text : String) (parts : List String) : Prop :=
  dashed text = parts ∧ '/' ∉ text.toList

/-- The parts of a list of months. -/
def IsList (text : String) (parts : List String) : Prop := slashed text = parts ∧ NoDash text

variable {first second : String} {rest : List String} {m n : Nat}
  (digits : isDigits year.toList) (four : year.toList.length = 4)
  (known : month? tables first = some m) (knownToo : month? tables second = some n)
include digits four known knownToo

theorem date?_monthRange (range : IsRange text (first :: second :: rest)) :
    date? tables (some year) (some text) =
      some (ofRange [(digitsValue year.toList : Int), withSign m]
        [(digitsValue year.toList : Int), withSign n]) := by
  obtain ⟨parts, noSlash⟩ := range
  have months : rangeParts (some text) = first :: second :: rest := parts
  rw [date?_range (length_listParts (noSlash_digits digits)) (length_listParts noSlash),
    range?_months (length_rangeParts (noDash_digits digits)) months,
    single?_four tables digits four, single?_four tables digits four, monthPart_known known,
    monthPart_known knownToo]
  rfl

theorem date?_monthList (list : IsList text (first :: second :: rest)) :
    date? tables (some year) (some text) =
      if isClose (withSign m) (withSign n) then
        some (ofRange [(digitsValue year.toList : Int), withSign m]
          [(digitsValue year.toList : Int), withSign n])
      else
        some (ofParts ((digitsValue year.toList : Int) :: monthPart tables (some text))) := by
  obtain ⟨parts, noDash⟩ := list
  have months : listParts (some text) = first :: second :: rest := parts
  have left : NoDash first := noDash_of_mem_slashed noDash (by simp [parts])
  have right : NoDash second := noDash_of_mem_slashed noDash (by simp [parts])
  rw [date?_months (length_listParts (noSlash_digits digits)) months,
    range?_month digits four left, range?_month digits four right,
    range?_month digits four noDash, monthPart_known known, monthPart_known knownToo]
  have close (y : Int) : closeAt 1 (some (ofParts [y, withSign m]))
      (some (ofParts [y, withSign n])) = isClose (withSign m) (withSign n) := rfl
  simp only [close]
  rfl

/-- Two ends have the first month and the second one, whether the months are a range or a list. -/
theorem ends_of_months (parts : IsRange text (first :: second :: rest) ∨
      IsList text (first :: second :: rest))
    {d : Date} (read : date? tables (some year) (some text) = some d) {p q : List Int}
    (two : d.parts = [p, q]) :
    p = [(digitsValue year.toList : Int), withSign m] ∧
      q = [(digitsValue year.toList : Int), withSign n] := by
  rcases parts with range | list
  · rw [date?_monthRange digits four known knownToo range] at read
    obtain rfl := Option.some.inj read
    cases two
    exact ⟨rfl, rfl⟩
  · rw [date?_monthList digits four known knownToo list] at read
    split at read
    · obtain rfl := Option.some.inj read
      cases two
      exact ⟨rfl, rfl⟩
    · obtain rfl := Option.some.inj read
      cases two

end

/-! ## The ends of a list -/

/-- A range of known months becomes a date with two ends, and a list of them does so just when the
second month is close to the first: at most one away, or so far that the difference of 32 bits
wraps around. The ends have the months of the first two parts, so that the list runs up to its last
part just when that names the month of the second one, as it does where there are two parts. -/
theorem date?_knownMonths (tables : List MonthNames) {year text first second : String}
    {rest : List String} {m n : Nat} {more : List Nat} (digits : isDigits year.toList)
    (four : year.toList.length = 4)
    (known : (first :: second :: rest).map (month? tables) = (m :: n :: more).map some) :
    let parts := first :: second :: rest
    let last := (n :: more).getLast (List.cons_ne_nil n more)
    let apart := ((n : Int) - m).natAbs
    let y : Int := digitsValue year.toList
    let d := date? tables (some year) (some text)
    (IsRange text parts → d = some (ofRange [y, withSign m] [y, withSign n])) ∧
    (IsList text parts →
      d = if isClose (withSign m) (withSign n) then
          some (ofRange [y, withSign m] [y, withSign n])
        else some (ofParts (y :: monthPart tables (some text)))) ∧
    (m ≤ maxUnsigned32 → n ≤ maxUnsigned32 →
      (isClose (withSign m) (withSign n) ↔
        apart ≤ 1 ∨ apart = 2147483648 ∨ apart = 4294967295)) ∧
    (IsRange text parts ∨ IsList text parts → ∀ found p q, d = some found →
      found.parts = [p, q] →
        p = [y, withSign m] ∧ (q = [y, withSign last] ↔ withSign last = withSign n)) := by
  intro parts last apart y d
  simp only [List.map_cons, List.cons.injEq] at known
  obtain ⟨known, knownToo, -⟩ := known
  refine ⟨date?_monthRange digits four known knownToo, date?_monthList digits four known knownToo,
    isClose_withSign, fun shape found p q read two => ?_⟩
  obtain ⟨rfl, rfl⟩ := ends_of_months digits four known knownToo shape read two
  refine ⟨rfl, fun same => ?_, fun same => by rw [same]⟩
  simp only [List.cons.injEq, and_true] at same
  exact same.2.symm

theorem date?_knownMonths_three :
    IsList "Jan/Feb/Dec" ["Jan", "Feb", "Dec"] ∧
      ["Jan", "Feb", "Dec"].map (month? englishMonths) = [1, 2, 12].map some ∧
      date? englishMonths (some "2013") (some "Jan/Feb/Dec") =
        some (ofRange [2013, 1] [2013, 2]) := by
  have list : IsList "Jan/Feb/Dec" ["Jan", "Feb", "Dec"] := ⟨by decide +kernel, by decide⟩
  have known : ["Jan", "Feb", "Dec"].map (month? englishMonths) = [1, 2, 12].map some := by
    decide +kernel
  have merged := (@date?_knownMonths englishMonths "2013" "Jan/Feb/Dec" _ _ _ _ _ _ (by decide)
    (by decide) known).2.1 list
  exact ⟨list, known, merged⟩

/-- The difference of these two months is the least number of 32 bits, so that they are close. -/
example : date? [] (some "2013") (some "3000000000/852516352") =
    some (ofRange [2013, -1294967296] [2013, 852516352]) := by
  decide +kernel

/-- A list may be cut short: January, February and December are merged, though December is eleven
months away, and the range ends in February. -/
theorem date?_cuts_list :
    ¬∀ (tables : List MonthNames) (year text first last : String) (between : List String)
      (m n : Nat) (d : Date) (p q : List Int), isDigits year.toList → year.toList.length = 4 →
      IsList text (first :: between ++ [last]) →
      (∀ part ∈ between, (month? tables part).isSome) →
      month? tables first = some m → month? tables last = some n →
      date? tables (some year) (some text) = some d → d.parts = [p, q] →
        q = [(digitsValue year.toList : Int), withSign n] ∧
          (withSign n - withSign m).natAbs ≤ 1 := by
  intro whole
  have read : date? englishMonths (some "2013") (some "Jan/Feb/Dec") =
      some (ofRange [2013, 1] [2013, 2]) := by
    decide +kernel
  have ends := whole englishMonths "2013" "Jan/Feb/Dec" "Jan" "Dec" ["Feb"] 1 12 _ _ _ (by decide)
    (by decide) ⟨by decide +kernel, by decide⟩ (by decide +kernel) (by decide +kernel)
    (by decide +kernel) read rfl
  exact absurd ends.2 (by decide)

end CiteStyle.Date.YearMonth
