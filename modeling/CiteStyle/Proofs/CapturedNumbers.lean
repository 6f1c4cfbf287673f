-- The numbers of a date. Month and day are the numbers that the pattern captured,
-- exchanged at most: by the order of the locale, and then so that a month above 12
-- stands only beside a day above 12. A year is the number of its digits, but one
-- below 100 is moved to this century, however many digits it has.
import CiteStyle.Proofs.BareYears
import CiteStyle.Proofs.NamedMonths

namespace CiteStyle

open DateText MonthNames Text

/-! ## The numbers that were captured -/

/-- A month as it is written denotes a number: a run of digits its value, and a name the month that
has it in lower case. -/
def Locale.Denotes (l : Locale) : MonthText → Nat → Prop
  | .name name, month => 1 ≤ month ∧ month ≤ 12 ∧ l.Lists month (String.ofList name)
  | .number digits, month => month = digitsValue digits

/-- The numbers of month and day that a pattern captured. There is no month only if none was
captured, or a name that no month has in lower case. -/
structure Locale.Captured (l : Locale) (found : Found) (month day : Option Nat) : Prop where
  denoted : ∀ n ∈ month, ∃ m ∈ found.month, l.Denotes m n
  missing : month = none → ∀ m ∈ found.month, ∀ n, ¬l.Denotes m n
  day : day = found.day.map digitsValue

namespace DateReader

theorem monthNumber_digits (reader : DateReader) {digits : List Char} (short : ShortNumber digits) :
    reader.monthNumber (.number digits) = some (digitsValue digits) := readNat?_short short

theorem denotes_monthNumber {l : Locale} {m : MonthText}
    (proper : m.Proper (ofLocale l).months) :
    (∀ n ∈ (ofLocale l).monthNumber m, l.Denotes m n) ∧
      ((ofLocale l).monthNumber m = none → ∀ n, ¬l.Denotes m n) := by
  cases m with
  | name name =>
    refine ⟨fun n known => lists_of_find? known, fun unknown n ⟨low, high, listed⟩ => ?_⟩
    exact (find?_ofLocale_eq_none_iff l (String.ofList name)).mp unknown n low high listed
  | number digits =>
    rw [monthNumber_digits _ proper]
    constructor
    · intro n known
      exact (Option.mem_some_iff.mp known).symm
    · intro unknown
      cases unknown

/-- The numbers that a reader takes for month and day are those that were captured. -/
theorem captured_numbers {l : Locale} {found : Found} (proper : found.Proper (ofLocale l).months) :
    l.Captured found (found.month.bind (ofLocale l).monthNumber)
      (found.day.bind (readNat? maxUnsigned32)) where
  denoted n known := by
    obtain ⟨m, written, number⟩ := Option.bind_eq_some_iff.mp known
    exact ⟨m, written, (denotes_monthNumber (proper.month m written)).1 n number⟩
  missing unknown m written n := by
    rw [Option.mem_def.mp written, Option.bind_some] at unknown
    exact (denotes_monthNumber (proper.month m written)).2 unknown n
  day := by
    cases written : found.day with
    | none => rfl
    | some digits => exact readNat?_short (proper.day digits written)

/-! ## Month and day -/

/-- A date has two numbers as its month and its day, in one order or the other, and has them the
other way round if only its month is above 12. -/
structure Arranged (month day : Option Nat) (date : ReadDate) : Prop where
  exchanged : (date.month = month ∧ date.day = day) ∨ (date.month = day ∧ date.day = month)
  high : ∀ n ∈ date.month, 12 < n → ∃ k ∈ date.day, 12 < k

variable {month day : Option Nat} {date : ReadDate}

theorem Arranged.symm (arranged : Arranged month day date) : Arranged day month date :=
  ⟨arranged.exchanged.symm, arranged.high⟩

/-- Of two numbers of which one is at most 12, that one is the month. -/
theorem Arranged.low (arranged : Arranged month day date) {n k : Nat} (hn : n ∈ month)
    (hk : k ∈ day) (low : n ≤ 12) (high : 12 < k) : date.month = some n ∧ date.day = some k := by
  cases hn
  cases hk
  rcases arranged.exchanged with kept | ⟨monthHigh, dayLow⟩
  · exact kept
  -- The other way round a month above 12 would come with a day that is not.
  · obtain ⟨m, hm, above⟩ := arranged.high k monthHigh high
    rw [dayLow] at hm
    cases hm
    omega

theorem arranged_mend (year : Option Int) (month day : Option Nat) :
    Arranged month day (mend ⟨year, month, day⟩) := by
  unfold mend
  split
  · rename_i turned
    refine ⟨.inr ⟨rfl, rfl⟩, fun n hn high => ?_⟩
    simp only [Bool.and_eq_true, Option.all_eq_true, decide_eq_true_eq] at turned
    have low := turned.2 n hn
    omega
  · rename_i kept
    refine ⟨.inl ⟨rfl, rfl⟩, fun n hn high => ?_⟩
    cases hn
    simpa [high, Option.all_eq_false] using kept

/-- A reader makes no other numbers month and day of a date than those that it read. -/
theorem arranged_toDate (reader : DateReader) (localOrder : Bool) (found : Found) :
    Arranged (found.month.bind reader.monthNumber) (found.day.bind (readNat? maxUnsigned32))
      (reader.toDate localOrder found) := by
  unfold toDate
  dsimp only
  split
  · exact (arranged_mend ..).symm
  · exact arranged_mend ..

/-- No month is lost whose name the table finds. -/
theorem monthNumber_isSome {l : Locale} (folded : (MonthNames.ofLocale l).Folded) {m : MonthText}
    (proper : m.Proper (ofLocale l).months) (folds : ∀ name, m = .name name → FoldsToLower name) :
    ∃ n, (ofLocale l).monthNumber m = some n := by
  cases m with
  | name name =>
    obtain ⟨n, known, -⟩ := find?_of_spells folded (folds name rfl) proper
    exact ⟨n, known⟩
  | number digits => exact ⟨_, monthNumber_digits _ proper⟩

/-- The month and the day of a text are the numbers that the first pattern captures that is found
there, exchanged at most. A month above 12 comes with a day above 12, so that of two numbers the
one that is at most 12 is the month. Of what is captured only the name of a month can be lost,
where folding does not agree with lower case. -/
theorem read?_dayAndMonth (l : Locale) (text : String) {date : ReadDate}
    (read : (ofLocale l).read? text = some date) :
    ∃ localOrder found month day, (ofLocale l).captures? text = some (localOrder, found) ∧
      l.Captured found month day ∧ Arranged month day date ∧
      (∀ n ∈ month, ∀ k ∈ day,
        (n ≤ 12 → 12 < k → date.month = some n ∧ date.day = some k) ∧
        (k ≤ 12 → 12 < n → date.month = some k ∧ date.day = some n)) ∧
      ((MonthNames.ofLocale l).Folded →
        (∀ name, found.month = some (.name name) → FoldsToLower name) →
        ∀ m ∈ found.month, ∃ n ∈ month, l.Denotes m n) := by
  rw [read?_eq_captures] at read
  obtain ⟨⟨localOrder, found⟩, captured, rfl⟩ := Option.map_eq_some_iff.mp read
  have proper := (proper_captures captured).1
  have numbers := captured_numbers proper
  have arranged := arranged_toDate (ofLocale l) localOrder found
  refine ⟨localOrder, found, _, _, captured, numbers, arranged, fun n hn k hk => ⟨?_, ?_⟩, ?_⟩
  · exact arranged.low hn hk
  · exact arranged.symm.low hk hn
  · intro folded folds m written
    have named (name : List Char) (h : m = .name name) : FoldsToLower name :=
      folds name (by rw [Option.mem_def.mp written, h])
    obtain ⟨n, known⟩ := monthNumber_isSome folded (proper.month m written) named
    refine ⟨n, ?_, (denotes_monthNumber (proper.month m written)).1 n known⟩
    rw [Option.mem_def.mp written, Option.bind_some]
    exact known

/-- The exchange that the locale asks for is undone, for no month is 31. -/
theorem read?_dayAndMonth_undone :
    (ofLocale dottedLocale).read? "31.8.2023" = some ⟨some 2023, some 8, some 31⟩ ∧
      ∃ localOrder found month day,
        (ofLocale dottedLocale).captures? "31.8.2023" = some (localOrder, found) ∧
        dottedLocale.Captured found month day ∧
        Arranged month day ⟨some 2023, some 8, some 31⟩ := by
  have read : (ofLocale dottedLocale).read? "31.8.2023" = some ⟨some 2023, some 8, some 31⟩ := by
    decide +kernel
  obtain ⟨localOrder, found, month, day, captured, numbers, arranged, -⟩ :=
    read?_dayAndMonth dottedLocale "31.8.2023" read
  exact ⟨read, localOrder, found, month, day, captured, numbers, arranged⟩

theorem captures_slashed : (ofLocale Locale.english).captures? "27/Auguſt/1789" =
    some (false, ⟨.long "1789".toList, some (.name "Auguſt".toList), some "27".toList⟩) := by cbv

/-- A name that spells August is captured, and its number is neither the month nor the day. -/
theorem read?_loses_number :
    (ofLocale Locale.english).captures? "27/Auguſt/1789" =
        some (false, ⟨.long "1789".toList, some (.name "Auguſt".toList), some "27".toList⟩) ∧
      Locale.english.Spells 8 "Auguſt".toList ∧
      (ofLocale Locale.english).read? "27/Auguſt/1789" = some ⟨some 1789, none, some 27⟩ := by
  refine ⟨captures_slashed, .inl ⟨"august", by decide +kernel, by decide +kernel⟩, ?_⟩
  rw [read?_of_captures captures_slashed]
  decide +kernel

/-! ## The year -/

theorem yearNumber_low {digits : List Char} (all : ∀ c ∈ digits, isDigit c) (filled : digits ≠ [])
    (low : digitsValue digits < 100) :
    yearNumber (.long digits) = some (digitsValue digits + 2000 : Int) := by
  have fits : 100 ≤ maxSigned32 := by decide
  have read := readInt?_digits all filled (by omega : digitsValue digits ≤ maxSigned32)
  simp only [yearNumber, read, Option.map_some]
  rw [if_pos (by omega)]

theorem yearNumber_large {digits : List Char} (all : ∀ c ∈ digits, isDigit c)
    (large : maxSigned32 < digitsValue digits) : yearNumber (.long digits) = none := by
  simp only [yearNumber, readInt?_of_lt all large, Option.map_none]

theorem mend_year (d : ReadDate) : (mend d).year = d.year := by
  unfold mend
  split <;> rfl

theorem toDate_year (reader : DateReader) (localOrder : Bool) (found : Found) :
    (reader.toDate localOrder found).year = yearNumber found.year := by
  unfold toDate
  rw [mend_year]
  split <;> rfl

/-- The year of a text is the number that the first pattern captures that is found there, if it is
at least 100 and fits. Below 100 it is moved to this century, whether it is written in two digits
or in more, and there is no year if the number does not fit. -/
theorem read?_capturedYear (l : Locale) (text : String) {date : ReadDate}
    (read : (ofLocale l).read? text = some date) :
    ∃ localOrder found, (ofLocale l).captures? text = some (localOrder, found) ∧
      (∀ digits, found.year = .long digits →
        (∀ c ∈ digits, isDigit c) ∧ 4 ≤ digits.length ∧
        (100 ≤ digitsValue digits → digitsValue digits ≤ maxSigned32 →
          date.year = some (digitsValue digits : Int)) ∧
        (digitsValue digits < 100 → date.year = some (digitsValue digits + 2000 : Int)) ∧
        (maxSigned32 < digitsValue digits → date.year = none)) ∧
      (∀ digits, found.year = .short digits →
        (∀ c ∈ digits, isDigit c) ∧ digits.length = 2 ∧
        date.year = some (digitsValue digits + 2000 : Int)) := by
  rw [read?_eq_captures] at read
  obtain ⟨⟨localOrder, found⟩, captured, rfl⟩ := Option.map_eq_some_iff.mp read
  have proper := (proper_captures captured).1.year
  refine ⟨localOrder, found, captured, fun digits written => ?_, fun digits written => ?_⟩
  · rw [written] at proper
    obtain ⟨all, long⟩ := proper
    dsimp only
    rw [toDate_year, written]
    refine ⟨all, long, fun low high => yearNumber_full ⟨all, long, low, high⟩, ?_, ?_⟩
    · exact yearNumber_low all (List.length_pos_iff.mp (by omega))
    · exact yearNumber_large all
  · rw [written] at proper
    obtain ⟨all, two⟩ := proper
    dsimp only
    rw [toDate_year, written]
    exact ⟨all, two, yearNumber_short all two⟩

/-- A zero in front of a year leaves it as it is. -/
theorem read?_capturedYear_812 :
    (ofLocale namelessLocale).read? "0812-03-04" = some ⟨some 812, some 3, some 4⟩ ∧
      (ofLocale namelessLocale).captures? "0812-03-04" =
        some (false, ⟨.long "0812".toList, some (.number "03".toList), some "04".toList⟩) ∧
      digitsValue "0812".toList = 812 ∧ (∀ c ∈ "0812".toList, isDigit c) := by
  have read : (ofLocale namelessLocale).read? "0812-03-04" = some ⟨some 812, some 3, some 4⟩ := by
    decide +kernel
  have captured : (ofLocale namelessLocale).captures? "0812-03-04" =
      some (false, ⟨.long "0812".toList, some (.number "03".toList), some "04".toList⟩) := by
    decide +kernel
  obtain ⟨localOrder, found, same, long, -⟩ := read?_capturedYear namelessLocale "0812-03-04" read
  rw [captured] at same
  cases same
  exact ⟨read, captured, by decide, (long _ rfl).1⟩

/-- A year of four digits is moved by two thousand years. -/
theorem read?_moves_year :
    (ofLocale namelessLocale).captures? "0079-08-24" =
        some (false, ⟨.long "0079".toList, some (.number "08".toList), some "24".toList⟩) ∧
      digitsValue "0079".toList = 79 ∧
      (ofLocale namelessLocale).read? "0079-08-24" = some ⟨some 2079, some 8, some 24⟩ :=
  ⟨by decide +kernel, by decide, by decide +kernel⟩

end DateReader

end CiteStyle
