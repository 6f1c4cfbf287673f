-- The numbers in a date of a year and a month. A year is a run of digits and never
-- negative. The number of a month may have 32 bits without a sign, but a date has
-- numbers with one, and a number that does not fit becomes negative there. No name
-- of a month has such a number, so that only digits can go wrong.
import CiteStyle.Proofs.MonthLists
import CiteStyle.Proofs.MonthTables

namespace CiteStyle.Date.YearMonth

open Text

variable {tables : List MonthNames} {year month : Option String}

/-! ## Years -/

theorem exists_of_readInt? {cs : List Char} (digits : isDigits cs) {limit : Nat} {y : Int}
    (read : readInt? limit cs = some y) : ∃ n : Nat, n ≤ limit ∧ y = n := by
  obtain ⟨filled, all⟩ := isDigits_iff.mp digits
  rw [List.all_eq_true] at all
  by_cases fits : digitsValue cs ≤ limit
  · rw [readInt?_digits all filled fits] at read
    exact ⟨digitsValue cs, fits, (Option.some.inj read).symm⟩
  · rw [readInt?_of_lt all (by omega)] at read
    cases read

theorem exists_of_year? {cs : List Char} {y : Int} {circa : Bool}
    (read : year? cs = some (y, circa)) : ∃ n : Nat, n ≤ maxSigned32 ∧ y = n := by
  unfold year? at read
  split at read
  · cases read
  · split at read
    · rename_i digits
      obtain ⟨_, number, same⟩ := Option.map_eq_some_iff.mp read
      cases same
      exact exists_of_readInt? digits number
    · dsimp only at read
      split at read
      · rename_i digits
        obtain ⟨_, number, same⟩ := Option.map_eq_some_iff.mp read
        cases same
        exact exists_of_readInt? digits number
      · cases read

/-- Every list of parts starts with a year, which is not negative. -/
def HasYears (d : Date) : Prop :=
  d.parts ≠ [] ∧ ∀ p ∈ d.parts, ∃ y : Nat, y ≤ maxSigned32 ∧ p.head? = some (y : Int)

theorem hasYears_single {d : Date} (read : single? tables year month = some d) : HasYears d := by
  cases year with
  | none => cases read
  | some year =>
    rw [single?_eq, Option.map_eq_some_iff] at read
    obtain ⟨⟨y, circa⟩, read, rfl⟩ := read
    obtain ⟨n, fits, rfl⟩ := exists_of_year? read
    refine ⟨by simp [ofParts], fun p mem => ?_⟩
    obtain rfl : p = _ := List.mem_singleton.mp mem
    exact ⟨n, fits, rfl⟩

theorem HasYears.join {d₁ d₂ d : Date} (first : HasYears d₁) (last : HasYears d₂)
    (joined : join (some d₁) (some d₂) = some d) : HasYears d := by
  obtain rfl := Option.some.inj joined
  obtain ⟨p, head⟩ := Option.isSome_iff_exists.mp (List.isSome_head?.mpr first.1)
  have tail := List.getLast?_eq_some_getLast last.1
  generalize d₂.parts.getLast last.1 = q at tail
  have parts : ∀ r ∈ [p, q], ∃ y : Nat, y ≤ maxSigned32 ∧ r.head? = some (y : Int) := by
    intro r mem
    rcases List.mem_cons.mp mem with rfl | mem
    · exact first.2 r (List.mem_of_head? head)
    · obtain rfl := List.mem_singleton.mp mem
      exact last.2 r (List.mem_of_getLast? tail)
  exact ⟨by simp [ofRange], by simpa [ofRange, head, tail] using parts⟩

/-- What holds of single dates and of two dates that are joined holds of every date. -/
theorem date?_induction {holds : Date → Prop}
    (single : ∀ year month d, single? tables year month = some d → holds d)
    (joined : ∀ d₁ d₂ d, holds d₁ → holds d₂ → join (some d₁) (some d₂) = some d → holds d)
    {d : Date} (read : date? tables year month = some d) : holds d := by
  have both : ∀ {x y : Option Date}, (∀ d ∈ x, holds d) → (∀ d ∈ y, holds d) →
      ∀ d ∈ join x y, holds d := by
    intro x y first last d read
    rcases join_eq_some read with ⟨-, h⟩ | ⟨h, -⟩ | ⟨d₁, d₂, h₁, h₂⟩
    · exact last d h
    · exact first d h
    · subst h₁ h₂
      exact joined d₁ d₂ d (first d₁ rfl) (last d₂ rfl) read
  have range : ∀ year month, ∀ d ∈ range? tables year month, holds d := by
    intro year month
    unfold range?
    split
    · exact both (single _ _) (single _ _)
    · exact both (single _ _) (single _ _)
    · exact single _ _
  unfold date? at read
  split at read
  · dsimp only at read
    split at read
    · exact both (range _ _) (range _ _) d read
    · exact range _ _ d read
  · dsimp only at read
    split at read
    · exact both (range _ _) (range _ _) d read
    · exact range _ _ d read
  · exact range _ _ d read

/-! ## Months -/

/-- The number that a text has as a month: the value of its digits, or what the first table that
knows its name says. -/
inductive NumberOf (tables : List MonthNames) (text : String) : Nat → Prop
  | digits (digits : isDigits text.toList) : NumberOf tables text (digitsValue text.toList)
  | name {n : Nat} (noDigits : isDigits text.toList = false)
      (known : tables.findSome? (·.find? text) = some n) : NumberOf tables text n

/-- A text is read as its number, unless that is written with digits and does not fit 32 bits. -/
theorem month?_eq_some_iff {text : String} {n : Nat} :
    month? tables text = some n ↔
      text ≠ "" ∧ NumberOf tables text n ∧ (isDigits text.toList → n ≤ maxUnsigned32) := by
  unfold month?
  by_cases empty : text = ""
  · simp [empty]
  have same : text.toList.all isDigit = isDigits text.toList := by simp [isDigits, empty]
  rw [if_neg empty, same]
  by_cases digits : isDigits text.toList
  · rw [if_pos digits, readNat?_eq_some_iff (plus_notMem (isDigits_iff.mp digits).2)]
    constructor
    · rintro ⟨-, rfl, fits⟩
      exact ⟨empty, .digits digits, fun _ => fits⟩
    · rintro ⟨-, number, fits⟩
      cases number with
      | digits => exact ⟨digits, rfl, fits digits⟩
      | name noDigits => simp [digits] at noDigits
  · rw [if_neg digits]
    constructor
    · exact fun known => ⟨empty, .name (by simpa using digits) known, fun h => absurd h digits⟩
    · rintro ⟨-, number, -⟩
      cases number with
      | digits h => exact absurd h digits
      | name _ known => exact known

/-- The names of months in locales have the numbers of the calendar. -/
theorem number_of_name {locales : List Locale} {text : String} {n : Nat}
    (noDigits : isDigits text.toList = false)
    (number : NumberOf (locales.map MonthNames.ofLocale) text n) : 1 ≤ n ∧ n ≤ 12 := by
  cases number with
  | digits digits => simp [digits] at noDigits
  | name _ known =>
    obtain ⟨table, mem, found⟩ := List.exists_of_findSome?_eq_some known
    obtain ⟨locale, -, rfl⟩ := List.mem_map.mp mem
    have listed := MonthNames.lists_of_find? found
    exact ⟨listed.1, listed.2.1⟩

/-! ## Signs -/

theorem withSign_eq_iff {n : Nat} : withSign n = n ↔ n ≤ maxSigned32 := by
  unfold withSign
  split
  · simp_all
  · rename_i large
    refine iff_of_false (fun same => ?_) large
    omega

/-- An end of a date, and the text that its month was read from: a year, which is never negative,
and the number of the month, put down with a sign. -/
inductive IsEnd (tables : List MonthNames) : Option String → List Int → Prop
  | year {text : Option String} {y : Nat} (fits : y ≤ maxSigned32)
      (unknown : isKnown tables text = false) : IsEnd tables text [(y : Int)]
  | month {name : String} {y n : Nat} (fits : y ≤ maxSigned32)
      (known : month? tables name = some n) : IsEnd tables (some name) [(y : Int), withSign n]

/-- No component is negative, and the month is the number of its text. -/
def Faithful (tables : List MonthNames) (text : Option String) (p : List Int) : Prop :=
  (∀ c ∈ p, 0 ≤ c) ∧
    ∀ c, p[1]? = some c → ∃ name n, text = some name ∧ NumberOf tables name n ∧ c = (n : Int)

theorem NumberOf.unique {text : String} {m n : Nat} (first : NumberOf tables text m)
    (second : NumberOf tables text n) : m = n := by
  cases first with
  | digits digits =>
    cases second with
    | digits => rfl
    | name noDigits => simp [digits] at noDigits
  | name noDigits known =>
    cases second with
    | digits digits => simp [digits] at noDigits
    | name _ knownToo => exact Option.some.inj (known.symm.trans knownToo)

theorem isEnd_cons {text : Option String} {y : Nat} (fits : y ≤ maxSigned32) :
    IsEnd tables text ((y : Int) :: monthPart tables text) := by
  cases text with
  | none => exact .year fits rfl
  | some name =>
    cases known : month? tables name with
    | none =>
      have unknown : isKnown tables (some name) = false := by simp [isKnown, known]
      have nothing : monthPart tables (some name) = [] := by simp [monthPart, known]
      rw [nothing]
      exact .year fits unknown
    | some n =>
      rw [monthPart_known known]
      exact .month fits known

theorem IsEnd.faithful_iff {text : Option String} {p : List Int} (isEnd : IsEnd tables text p) :
    Faithful tables text p ↔ ∀ n ∈ text.bind (month? tables), n ≤ maxSigned32 := by
  cases isEnd with
  | year fits unknown =>
    have none : text.bind (month? tables) = none := by simpa [isKnown] using unknown
    simp [Faithful, none]
  | @month name y n fits known =>
    have number := (month?_eq_some_iff.mp known).2.1
    simp only [Option.bind_some, known, Option.mem_some_iff, forall_eq']
    constructor
    · rintro ⟨-, exact⟩
      obtain ⟨_, m, ⟨⟩, numberToo, same⟩ := exact (withSign n) rfl
      rw [numberToo.unique number] at same
      exact withSign_eq_iff.mp same
    · intro small
      have kept := withSign_eq_iff.mpr small
      refine ⟨by simp [kept], fun c second => ⟨name, n, rfl, number, ?_⟩⟩
      rw [← kept]
      exact (Option.some.inj second).symm

/-! ## Dates of a year and a month -/

/-- A date has one end or two, each a year that is not negative and at most a month. The numbers of
an end are those that were written just when the month is not above the largest number with a sign;
in the tables of locales that can happen only to a month that is written with digits. -/
theorem date?_components {d : Date} (read : date? tables year month = some d) :
    let months := endMonths tables year month
    ∃ first last, (d.parts = [first] ∧ last = first ∨ d.parts = [first, last]) ∧
      ∀ p text, (p, text) = (first, months.1) ∨ (p, text) = (last, months.2) →
        IsEnd tables text p ∧
        (Faithful tables text p ↔ ∀ n ∈ text.bind (month? tables), n ≤ maxSigned32) ∧
        ∀ locales : List Locale, tables = locales.map MonthNames.ofLocale →
          (∀ name ∈ text, isDigits name.toList → digitsValue name.toList ≤ maxSigned32) →
            Faithful tables text p := by
  intro months
  have years : HasYears d := date?_induction (fun _ _ _ => hasYears_single)
    (fun _ _ _ first last => first.join last) read
  have isEnd {y : Int} {text : Option String} (mem : y :: monthPart tables text ∈ d.parts) :
      IsEnd tables text (y :: monthPart tables text) := by
    obtain ⟨n, fits, same⟩ := years.2 _ mem
    obtain rfl := Option.some.inj same
    exact isEnd_cons fits
  obtain ⟨y₁, y₂, parts⟩ := endsWith_date read
  refine ⟨y₁ :: monthPart tables months.1, y₂ :: monthPart tables months.2, ?_, ?_⟩
  · rcases parts with two | ⟨one, same⟩
    · exact .inr two
    · exact .inl ⟨one, same.symm⟩
  · intro p text place
    have endOf : IsEnd tables text p := by
      rcases place with ⟨⟨⟩⟩ | ⟨⟨⟩⟩
      · exact isEnd (by rcases parts with two | ⟨one, -⟩ <;> simp [*, months])
      · exact isEnd (by rcases parts with two | ⟨one, same⟩ <;> simp [*, months])
    refine ⟨endOf, endOf.faithful_iff, fun locales same small => ?_⟩
    refine endOf.faithful_iff.mpr fun n known => ?_
    obtain ⟨name, rfl, found⟩ := Option.bind_eq_some_iff.mp known
    have number := (month?_eq_some_iff.mp found).2.1
    by_cases digits : isDigits name.toList
    · rw [number.unique (.digits digits)]
      exact small name rfl digits
    · subst same
      have calendar := number_of_name (by simpa using digits) number
      unfold maxSigned32
      omega

/-- Three thousand million as a month is a negative number in the date. -/
theorem date?_components_large :
    let d := ofParts [2013, -1294967296]
    date? englishMonths (some "2013") (some "3000000000") = some d ∧
      ¬Faithful englishMonths (some "3000000000") [2013, -1294967296] := by
  intro d
  have read : date? englishMonths (some "2013") (some "3000000000") = some d := by
    decide +kernel
  have text : endMonths englishMonths (some "2013") (some "3000000000") =
      (some "3000000000", some "3000000000") := by
    decide +kernel
  obtain ⟨first, last, ⟨one, -⟩ | two, ends⟩ := date?_components read
  · rw [text] at ends
    obtain rfl : [2013, -1294967296] = first := by simpa [d, ofParts] using one
    have exactly := (ends _ _ (.inl rfl)).2.1
    refine ⟨read, fun faithful => ?_⟩
    exact absurd (exactly.mp faithful 3000000000 (by decide +kernel)) (by decide)
  · simp [d, ofParts] at two

/-- A component may be negative, though no minus sign can be written. -/
theorem date?_negative_month :
    ¬∀ (tables : List MonthNames) (year month : Option String) (d : Date),
      date? tables year month = some d → ∀ p ∈ d.parts, ∀ c ∈ p, 0 ≤ c := by
  intro positive
  have read : date? englishMonths (some "2013") (some "3000000000") =
      some (ofParts [2013, -1294967296]) := by
    decide +kernel
  have large := positive _ _ _ _ read _ List.mem_cons_self (-1294967296)
    (List.mem_cons_of_mem 2013 List.mem_cons_self)
  exact absurd large (by decide)

end CiteStyle.Date.YearMonth
