-- Years in two halves, of which the second may be of no use. Behind a dash such a
-- half is passed over, unless there is nothing of it at all. Behind a slash the
-- halves are read together instead, and then only the last four characters count,
-- which are never those of the first half.
import CiteStyle.Proofs.Digits
import CiteStyle.Proofs.RangeEnds

namespace CiteStyle.Date.YearMonth

open Text

/-! ## The last four digits -/

/-- The number of the last four characters, if they are digits. -/
def lastFour? (cs : List Char) : Option Nat :=
  if cs.length < 4 then none else readDigits? (cs.drop (cs.length - 4))

theorem lastFour?_of_short {cs : List Char} (short : cs.length < 4) : lastFour? cs = none :=
  if_pos short

/-- A number has no other marks. -/
theorem isDigits_of_mem {cs : List Char} {mark : Char} (noDigit : isDigit mark = false)
    (mem : mark ∈ cs) : isDigits cs = false := by
  refine Bool.eq_false_iff.mpr fun digits => ?_
  rw [List.all_eq_true.mp (isDigits_iff.mp digits).2 mark mem] at noDigit
  cases noDigit

/-- Numbers that are too large have more digits than a year. -/
theorem length_of_large {cs : List Char} (digits : isDigits cs)
    (large : maxSigned32 < digitsValue cs) : 4 < cs.length := by
  have bound := digitsValue_lt (isDigits_iff.mp digits).2
  by_contra short
  have small : 10 ^ cs.length ≤ 10 ^ 4 := Nat.pow_le_pow_right (by omega) (by omega)
  unfold maxSigned32 at large
  omega

theorem digitsValue_four {cs : List Char} (four : cs.length = 4) (digits : isDigits cs) :
    digitsValue cs ≤ maxSigned32 := by
  by_contra large
  have long := length_of_large digits (by omega)
  omega

/-- Text that is no number is an approximate year if it ends in four digits. -/
theorem year?_of_text {cs : List Char} (text : isDigits cs = false) :
    year? cs = (lastFour? cs).map fun n : Nat => ((n : Int), decide (4 < cs.length)) := by
  unfold year? lastFour?
  by_cases short : cs.length < 4
  · rw [if_pos short, if_pos short]
    rfl
  · rw [if_neg short, if_neg (by simp [text]), if_neg short]
    unfold readDigits?
    by_cases digits : isDigits (cs.drop (cs.length - 4))
    · have four : (cs.drop (cs.length - 4)).length = 4 := by
        rw [List.length_drop]
        omega
      obtain ⟨filled, all⟩ := isDigits_iff.mp digits
      have number := readInt?_digits (List.all_eq_true.mp all) filled
        (digitsValue_four four digits)
      simp only [if_pos digits, number, Option.map_some]
    · simp only [if_neg digits, Option.map_none]

/-- A number of four digits or more is an exact year, unless it is too large. -/
theorem year?_of_digits {cs : List Char} (digits : isDigits cs) (long : 4 ≤ cs.length) :
    year? cs =
      if digitsValue cs ≤ maxSigned32 then some ((digitsValue cs : Int), false) else none := by
  obtain ⟨filled, all⟩ := isDigits_iff.mp digits
  unfold year?
  rw [if_neg (by omega), if_pos digits]
  by_cases fits : digitsValue cs ≤ maxSigned32
  · rw [readInt?_digits (List.all_eq_true.mp all) filled fits, if_pos fits]
    rfl
  · rw [readInt?_of_lt (List.all_eq_true.mp all) (by omega), if_neg fits]
    rfl

theorem isSome_lastFour?_of_digits {cs : List Char} (digits : isDigits cs) (long : 4 ≤ cs.length) :
    (lastFour? cs).isSome := by
  have last : isDigits (cs.drop (cs.length - 4)) := by
    refine isDigits_iff.mpr ⟨fun empty => ?_, all_drop (isDigits_iff.mp digits).2 _⟩
    have length := congrArg List.length empty
    rw [List.length_drop, List.length_nil] at length
    omega
  unfold lastFour? readDigits?
  rw [if_neg (by omega), if_pos last]
  rfl

/-- A text without a year ends in four digits only if it is a number that is too large. -/
theorem year?_eq_none_iff {cs : List Char} :
    year? cs = none ↔ lastFour? cs = none ∨ isDigits cs ∧ maxSigned32 < digitsValue cs := by
  by_cases digits : isDigits cs
  · by_cases long : 4 ≤ cs.length
    · have some := isSome_lastFour?_of_digits digits long
      rw [year?_of_digits digits long]
      simp [digits, Option.isSome_iff_ne_none.mp some]
    · have none : year? cs = none := if_pos (by omega)
      simp [none, lastFour?_of_short (by omega : cs.length < 4)]
  · rw [year?_of_text (Bool.eq_false_iff.mpr digits), Option.map_eq_none_iff]
    simp [digits]

/-- The last four characters behind a mark are those of the second half, or the mark is one of
them. -/
theorem lastFour?_append {mark : Char} (noDigit : isDigit mark = false)
    (before behind : List Char) : lastFour? (before ++ mark :: behind) = lastFour? behind := by
  have length : (before ++ mark :: behind).length = before.length + 1 + behind.length := by
    rw [List.length_append, List.length_cons]
    omega
  by_cases short : behind.length < 4
  · rw [lastFour?_of_short short]
    unfold lastFour? readDigits?
    split
    · rfl
    · have inside : mark ∈ (before ++ mark :: behind).drop
          ((before ++ mark :: behind).length - 4) := by
        rw [List.drop_append_of_le_length (by omega)]
        exact List.mem_append_right _ List.mem_cons_self
      rw [isDigits_of_mem noDigit inside]
      exact if_neg Bool.false_ne_true
  · unfold lastFour?
    rw [if_neg short, if_neg (by omega), length]
    have place : before.length + 1 + behind.length - 4 =
        before.length + (behind.length - 4 + 1) := by
      omega
    rw [place, List.drop_length_add_append, List.drop_succ_cons]

/-! ## Halves -/

section
variable (tables : List MonthNames)

theorem date?_plain {text : String} (noSlash : '/' ∉ text.toList) :
    date? tables (some text) none = range? tables (some text) none :=
  date?_range (length_listParts noSlash) (Nat.zero_le 1)

theorem range?_plain {text : String} (noDash : NoDash text) :
    range? tables (some text) none = single? tables (some text) none :=
  range?_single (length_rangeParts noDash) (Nat.zero_le 1)

theorem single?_of_text {text : String} (noDigits : isDigits text.toList = false) :
    single? tables (some text) none = (lastFour? text.toList).map fun n : Nat =>
      { ofParts [(n : Int)] with circa := decide (4 < text.toList.length) } := by
  rw [single?_eq, year?_of_text noDigits, Option.map_map]
  rfl

/-- Nothing but the last four characters of the second half counts when the halves are read
together. -/
theorem single?_halves {mark : Char} (noDigit : isDigit mark = false) {text : String}
    {before behind : List Char} (halves : text.toList = before ++ mark :: behind) :
    single? tables (some text) none = (lastFour? behind).map fun n : Nat =>
      { ofParts [(n : Int)] with circa := true } := by
  have noDigits : isDigits text.toList = false := isDigits_of_mem noDigit (by simp [halves])
  rw [single?_of_text tables noDigits, halves, lastFour?_append noDigit]
  rcases last : lastFour? behind with _ | n
  · rfl
  · have long : ¬behind.length < 4 := fun short => by
      rw [lastFour?_of_short short] at last
      cases last
    have approximate : decide (4 < (before ++ mark :: behind).length) = true := by
      rw [decide_eq_true_eq, List.length_append, List.length_cons]
      omega
    simp only [Option.map_some, approximate]

theorem isDigit_dash {dash : Char} (isDash : isDash dash) : isDigit dash = false := by
  simp only [YearMonth.isDash, Bool.or_eq_true, beq_iff_eq] at isDash
  rcases isDash with rfl | rfl <;> decide

theorem noDash_digits {text : String} (digits : isDigits text.toList) : NoDash text := by
  intro c mem
  refine Bool.eq_false_iff.mpr fun dash => ?_
  rw [isDigits_of_mem (isDigit_dash dash) mem] at digits
  cases digits

theorem noSlash_digits {text : String} (digits : isDigits text.toList) : '/' ∉ text.toList := by
  intro mem
  rw [isDigits_of_mem (by decide) mem] at digits
  cases digits

theorem single?_four {text : String} (digits : isDigits text.toList)
    (four : text.toList.length = 4) (month : Option String) :
    single? tables (some text) month =
      some (ofParts ((digitsValue text.toList : Int) :: monthPart tables month)) := by
  rw [single?_eq, year?_of_digits digits (by omega), if_pos (digitsValue_four four digits)]
  rfl

variable {a b : String} (digits : isDigits a.toList) (four : a.toList.length = 4)
  (noSlash : '/' ∉ b.toList) (noDash : NoDash b)
include digits four noSlash noDash

/-- Behind a dash the second half counts if there is a date in it. -/
theorem date?_dashed {dash : Char} (isDash : isDash dash) :
    date? tables (some (a ++ dash.toString ++ b)) none =
      if b = "" then none
      else join (some (ofParts [(digitsValue a.toList : Int)])) (date? tables (some b) none) := by
  have toList : (a ++ dash.toString ++ b).toList = a.toList ++ dash :: b.toList := by simp
  have whole : '/' ∉ (a ++ dash.toString ++ b).toList := by
    have apart : '/' ≠ dash := by
      rintro rfl
      cases isDash
    rw [toList, List.mem_append, List.mem_cons]
    exact fun mem => mem.elim (noSlash_digits digits) fun mem => mem.elim apart noSlash
  have filled : a ≠ "" := by
    rintro rfl
    cases four
  have parts : rangeParts (some (a ++ dash.toString ++ b)) = a :: if b = "" then [] else [b] := by
    unfold rangeParts
    rw [Option.map_some, Option.getD_some, dashed_append isDash,
      dashed_of_noDash (noDash_digits digits), dashed_of_noDash noDash, if_neg filled]
    rfl
  rw [date?_plain tables whole, date?_plain tables noSlash, range?_plain tables noDash]
  split
  · rename_i empty
    -- Nothing behind the dash is no second half, and a dash is no digit of the first one.
    rw [if_pos empty] at parts
    have one : (rangeParts (some (a ++ dash.toString ++ b))).length ≤ 1 := by
      rw [parts]
      exact Nat.le_refl 1
    have alone : (rangeParts none).length ≤ 1 := Nat.zero_le 1
    rw [range?_single one alone, single?_halves tables (isDigit_dash isDash) toList, empty]
    rfl
  · rename_i second
    rw [if_neg second] at parts
    rw [range?_years parts, single?_four tables digits four none]
    rfl

/-- Behind a slash the second half counts if its year is close to the first; or else the last four
characters do. -/
theorem date?_slashed :
    let first := some (ofParts [(digitsValue a.toList : Int)])
    let alone := date? tables (some b) none
    date? tables (some (a ++ "/" ++ b)) none =
      if closeAt 0 first alone then join first alone
      else (lastFour? b.toList).map fun n : Nat =>
        { ofParts [(n : Int)] with circa := true } := by
  intro first alone
  have toList : (a ++ "/" ++ b).toList = a.toList ++ '/' :: b.toList := by simp
  have whole : NoDash (a ++ "/" ++ b) := by
    intro c mem
    rw [toList, List.mem_append, List.mem_cons] at mem
    rcases mem with mem | rfl | mem
    · exact noDash_digits digits c mem
    · rfl
    · exact noDash c mem
  have parts : listParts (some (a ++ "/" ++ b)) = [a, b] := by
    unfold listParts
    rw [Option.map_some, Option.getD_some, slashed_append,
      slashed_of_noSlash (noSlash_digits digits), slashed_of_noSlash noSlash]
    rfl
  have left : range? tables (some a) none = first := by
    rw [range?_plain tables (noDash_digits digits), single?_four tables digits four none]
    rfl
  have right : range? tables (some b) none = alone := (date?_plain tables noSlash).symm
  rw [date?_years parts, List.getLast_singleton, left, right, range?_plain tables whole,
    single?_halves tables (by decide) toList]

end

/-! ## Second halves that are of no use -/

theorem isSome_join (d : Date) (second : Option Date) : (join (some d) second).isSome := by
  cases second <;> rfl

theorem head?_of_join {d joined : Date} {second : Option Date} {p : List Int}
    (head : d.parts.head? = some p) (read : join (some d) second = some joined) :
    joined.parts.head? = some p := by
  cases second with
  | none =>
    obtain rfl := Option.some.inj read
    exact head
  | some second =>
    obtain rfl := Option.some.inj read
    rw [head]
    rfl

/-- What becomes of a year of four digits when a second half stands behind it. Behind a dash it is
kept, unless there is nothing of the second half. Behind a slash there is a date if the second half
alone gives one; if it gives none, the only dates are those of the last four digits of a number
that is too large, in the place of the first half. -/
theorem date?_secondHalf (tables : List MonthNames) {a b : String} {dash : Char}
    (digits : isDigits a.toList) (four : a.toList.length = 4) (isDash : isDash dash)
    (noSlash : '/' ∉ b.toList) (noDash : NoDash b) :
    let y : Int := digitsValue a.toList
    let alone := date? tables (some b) none
    let dashed := date? tables (some (a ++ dash.toString ++ b)) none
    let slashed := date? tables (some (a ++ "/" ++ b)) none
    ((dashed.isSome ↔ b ≠ "") ∧ (∀ d ∈ dashed, d.parts.head? = some [y]) ∧
      (b ≠ "" → alone = none → dashed = some (ofParts [y]))) ∧
    (alone.isSome → slashed.isSome) ∧
    (alone = none →
      (slashed.isSome ↔ isDigits b.toList ∧ maxSigned32 < digitsValue b.toList) ∧
      slashed = (lastFour? b.toList).map fun n : Nat =>
        { ofParts [(n : Int)] with circa := true }) := by
  intro y alone dashed slashed
  have behindDash : dashed = if b = "" then none else join (some (ofParts [y])) alone :=
    date?_dashed tables digits four noSlash noDash isDash
  have behindSlash : slashed = if closeAt 0 (some (ofParts [y])) alone then
      join (some (ofParts [y])) alone
      else (lastFour? b.toList).map fun n : Nat => { ofParts [(n : Int)] with circa := true } :=
    date?_slashed tables digits four noSlash noDash
  have year : alone = none ↔ year? b.toList = none := by
    have single : alone = single? tables (some b) none := by
      rw [← range?_plain tables noDash, ← date?_plain tables noSlash]
    rw [single, single?_eq, Option.map_eq_none_iff]
  refine ⟨⟨?_, fun d read => ?_, fun filled unread => ?_⟩, fun found => ?_, fun unread => ?_⟩
  · rw [behindDash]
    by_cases empty : b = ""
    · simp [empty]
    · simp [empty, isSome_join]
  · rw [behindDash] at read
    by_cases empty : b = ""
    · rw [if_pos empty] at read
      cases read
    · rw [if_neg empty] at read
      exact head?_of_join rfl read
  · rw [behindDash, if_neg filled, unread]
    rfl
  · rw [behindSlash]
    split
    · exact isSome_join _ alone
    · rw [Option.isSome_map, Option.isSome_iff_ne_none]
      intro noDigits
      rw [year.mpr (year?_eq_none_iff.mpr (.inl noDigits))] at found
      cases found
  · have apart : closeAt 0 (some (ofParts [y])) alone = false := by
      rw [unread]
      rfl
    rw [apart, if_neg Bool.false_ne_true] at behindSlash
    refine ⟨?_, behindSlash⟩
    rw [behindSlash, Option.isSome_map]
    constructor
    · intro last
      refine (year?_eq_none_iff.mp (year.mp unread)).resolve_left ?_
      exact Option.isSome_iff_ne_none.mp last
    · rintro ⟨number, large⟩
      exact isSome_lastFour?_of_digits number (length_of_large number large).le

theorem date?_secondHalf_bla :
    let alone := date? [] (some "bla") none
    alone = none ∧ date? [] (some "2013–bla") none = some (ofParts [2013]) ∧
      date? [] (some "2013/bla") none = none := by
  intro alone
  have unread : alone = none := by decide +kernel
  obtain ⟨⟨-, -, kept⟩, -, lost⟩ :=
    @date?_secondHalf [] "2013" "bla" '–' (by decide) (by decide) (by decide) (by decide)
      (by decide)
  exact ⟨unread, kept (by decide) unread, (lost unread).2⟩

/-- A second half of no use may cost the first: 2013/bla is no date at all. -/
theorem date?_loses_firstHalf :
    ¬∀ (tables : List MonthNames) (a b mark : String), isDigits a.toList → a.toList.length = 4 →
      '/' ∉ b.toList → NoDash b → mark = "/" ∨ mark = "-" →
        ∃ d, date? tables (some (a ++ mark ++ b)) none = some d ∧
          (date? tables (some b) none = none → d.year = some (digitsValue a.toList)) := by
  intro kept
  have lost : date? [] (some ("2013" ++ "/" ++ "bla")) none = none := by decide +kernel
  obtain ⟨d, read, -⟩ :=
    kept [] "2013" "bla" "/" (by decide) (by decide) (by decide) (by decide) (.inl rfl)
  rw [lost] at read
  cases read

end CiteStyle.Date.YearMonth
