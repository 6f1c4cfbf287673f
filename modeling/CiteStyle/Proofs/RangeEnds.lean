-- The two ends of a range of dates. An end is a year, with a month behind it if
-- one was read for that end. The months at the two ends come from two texts that
-- are read apart from each other, so that one end may have a month and the other
-- none. Nothing else makes their lengths differ.
import CiteStyle.Locale.English
import CiteStyle.Proofs.ListTexts

namespace CiteStyle.Date.YearMonth

open Text

variable {tables : List MonthNames} {year month : Option String}

/-! ## Single dates -/

/-- The month that a text names is known. -/
def isKnown (tables : List MonthNames) (month : Option String) : Bool :=
  (month.bind (month? tables)).isSome

/-- What a text adds to the parts of a date: its month, if that is known. -/
def monthPart (tables : List MonthNames) (month : Option String) : List Int :=
  ((month.bind (month? tables)).map withSign).toList

theorem length_monthPart (tables : List MonthNames) (month : Option String) :
    (monthPart tables month).length = (isKnown tables month).toNat := by
  unfold monthPart isKnown
  cases month.bind (month? tables) <;> rfl

theorem single?_eq (tables : List MonthNames) (year : String) (month : Option String) :
    single? tables (some year) month =
      (year? year.toList).map fun read =>
        { ofParts (read.1 :: monthPart tables month) with circa := read.2 } := by
  unfold single? monthPart
  simp only [Option.bind_eq_bind, Option.bind_some]
  cases year? year.toList with
  | none => rfl
  | some read => cases month.bind (month? tables) <;> rfl

theorem exists_of_single? {d : Date} (read : single? tables year month = some d) :
    ∃ y, d.parts = [y :: monthPart tables month] := by
  cases year with
  | none => cases read
  | some year =>
    rw [single?_eq, Option.map_eq_some_iff] at read
    obtain ⟨⟨y, circa⟩, -, rfl⟩ := read
    exact ⟨y, rfl⟩

/-- Whether there is a date hangs on the year alone. -/
theorem isSome_single? (tables : List MonthNames) (year first second : Option String) :
    (single? tables year first).isSome = (single? tables year second).isSome := by
  cases year with
  | none => rfl
  | some year => simp only [single?_eq, Option.isSome_map]

/-! ## The texts of the months -/

/-- The texts from which the months at the two ends of a range are read; none if the year is a
range. -/
def rangeMonths (year month : Option String) : Option String × Option String :=
  match rangeParts year, rangeParts month with
  | _ :: _ :: _, _ => (none, none)
  | _, first :: second :: _ => (some first, some second)
  | _, _ => (month, month)

/-- The texts from which the months at the two ends of a date are read. A list of months that is
merged goes from the start of its first part to the end of its second one. A list of years has no
months if it is merged; a list that is not is read as a whole. -/
def endMonths (tables : List MonthNames) (year month : Option String) :
    Option String × Option String :=
  match listParts year, listParts month with
  | first :: second :: rest, _ =>
    let last := (second :: rest).getLast (List.cons_ne_nil second rest)
    if closeAt 0 (range? tables (some first) none) (range? tables (some last) none) then
      (none, none)
    else rangeMonths year month
  | _, first :: second :: _ =>
    if closeAt 1 (range? tables year (some first)) (range? tables year (some second)) then
      ((rangeMonths year (some first)).1, (rangeMonths year (some second)).2)
    else rangeMonths year month
  | _, _ => rangeMonths year month

section
variable {first second : String} {rest : List String}

theorem rangeMonths_years (month : Option String)
    (years : rangeParts year = first :: second :: rest) :
    rangeMonths year month = (none, none) := by
  unfold rangeMonths
  simp only [years]

theorem rangeMonths_months (years : (rangeParts year).length ≤ 1)
    (months : rangeParts month = first :: second :: rest) :
    rangeMonths year month = (some first, some second) := by
  unfold rangeMonths
  rcases nil_or_single years with hy | ⟨y, hy⟩ <;> simp only [hy, months]

theorem rangeMonths_single (years : (rangeParts year).length ≤ 1)
    (months : (rangeParts month).length ≤ 1) : rangeMonths year month = (month, month) := by
  unfold rangeMonths
  rcases nil_or_single years with hy | ⟨y, hy⟩ <;>
    rcases nil_or_single months with hm | ⟨m, hm⟩ <;>
    simp only [hy, hm]

theorem rangeMonths_none (year : Option String) : rangeMonths year none = (none, none) := by
  rcases short_or_more (rangeParts year) with one | ⟨first, second, rest, years⟩
  · exact rangeMonths_single one (Nat.zero_le 1)
  · exact rangeMonths_years none years

theorem endMonths_years (tables : List MonthNames) (month : Option String)
    (years : listParts year = first :: second :: rest) :
    endMonths tables year month =
      let last := (second :: rest).getLast (List.cons_ne_nil second rest)
      if closeAt 0 (range? tables (some first) none) (range? tables (some last) none) then
        (none, none)
      else rangeMonths year month := by
  unfold endMonths
  simp only [years]

theorem endMonths_months (tables : List MonthNames) (years : (listParts year).length ≤ 1)
    (months : listParts month = first :: second :: rest) :
    endMonths tables year month =
      if closeAt 1 (range? tables year (some first)) (range? tables year (some second)) then
        ((rangeMonths year (some first)).1, (rangeMonths year (some second)).2)
      else rangeMonths year month := by
  unfold endMonths
  rcases nil_or_single years with hy | ⟨y, hy⟩ <;> simp only [hy, months]

theorem endMonths_range (tables : List MonthNames) (years : (listParts year).length ≤ 1)
    (months : (listParts month).length ≤ 1) :
    endMonths tables year month = rangeMonths year month := by
  unfold endMonths
  rcases nil_or_single years with hy | ⟨y, hy⟩ <;>
    rcases nil_or_single months with hm | ⟨m, hm⟩ <;>
    simp only [hy, hm]

end

/-! ## The ends of a date -/

/-- The ends of a date are years with the months of two texts. A single date has the same parts at
both ends. -/
def EndsWith (tables : List MonthNames) (months : Option String × Option String) (d : Date) :
    Prop :=
  ∃ y₁ y₂, let first := y₁ :: monthPart tables months.1
    let last := y₂ :: monthPart tables months.2
    d.parts = [first, last] ∨ d.parts = [first] ∧ first = last

theorem endsWith_single {d : Date} (read : single? tables year month = some d) :
    EndsWith tables (month, month) d := by
  obtain ⟨y, parts⟩ := exists_of_single? read
  exact ⟨y, y, .inr ⟨parts, rfl⟩⟩

namespace EndsWith

variable {months others : Option String × Option String} {d d' : Date}

theorem exists_ends (ends : EndsWith tables months d) :
    ∃ y₁ y₂, d.parts.head? = some (y₁ :: monthPart tables months.1) ∧
      d.parts.getLast? = some (y₂ :: monthPart tables months.2) := by
  obtain ⟨y₁, y₂, two | ⟨one, same⟩⟩ := ends
  · exact ⟨y₁, y₂, by rw [two]; rfl, by rw [two]; rfl⟩
  · exact ⟨y₁, y₂, by rw [one]; rfl, by rw [one, ← same]; rfl⟩

/-- Two dates are joined from the first end of one to the last end of the other. -/
theorem join (first : EndsWith tables months d) (last : EndsWith tables others d') {joined : Date}
    (read : YearMonth.join (some d) (some d') = some joined) :
    EndsWith tables (months.1, others.2) joined := by
  obtain ⟨y₁, -, head, -⟩ := first.exists_ends
  obtain ⟨-, y₂, -, tail⟩ := last.exists_ends
  obtain rfl := Option.some.inj read
  refine ⟨y₁, y₂, .inl ?_⟩
  simp only [head, tail, Option.getD_some]
  rfl

/-- A date has one end or two, and each of them is a year with at most a month. -/
theorem lengths (ends : EndsWith tables months d) :
    (d.parts.length = 1 ∨ d.parts.length = 2) ∧ ∀ p ∈ d.parts, p.length = 1 ∨ p.length = 2 := by
  have length (y : Int) (m : Option String) :
      (y :: monthPart tables m).length = 1 ∨ (y :: monthPart tables m).length = 2 := by
    rw [List.length_cons, length_monthPart]
    cases isKnown tables m
    · exact .inl rfl
    · exact .inr rfl
  obtain ⟨y₁, y₂, two | ⟨one, -⟩⟩ := ends
  · rw [two]
    exact ⟨.inr rfl,
      List.forall_mem_cons.mpr ⟨length .., List.forall_mem_singleton.mpr (length ..)⟩⟩
  · rw [one]
    exact ⟨.inl rfl, List.forall_mem_singleton.mpr (length ..)⟩

theorem length_eq_iff (ends : EndsWith tables months d) {first last : List Int}
    (two : d.parts = [first, last]) :
    first.length = last.length ↔ isKnown tables months.1 = isKnown tables months.2 := by
  obtain ⟨y₁, y₂, parts | ⟨one, -⟩⟩ := ends
  · rw [two] at parts
    obtain ⟨rfl, rfl⟩ : first = _ ∧ last = _ := by simpa using parts
    simp only [List.length_cons, length_monthPart, Nat.add_right_cancel_iff]
    cases isKnown tables months.1 <;> cases isKnown tables months.2 <;> decide
  · rw [two] at one
    cases one

end EndsWith

/-! ## Ranges and lists -/

theorem join_eq_some {x y : Option Date} {d : Date} (joined : join x y = some d) :
    x = none ∧ y = some d ∨ x = some d ∧ y = none ∨ ∃ d₁ d₂, x = some d₁ ∧ y = some d₂ := by
  rcases x with _ | d₁
  · exact .inl ⟨rfl, joined⟩
  · rcases y with _ | d₂
    · exact .inr (.inl ⟨joined, rfl⟩)
    · exact .inr (.inr ⟨d₁, d₂, rfl, rfl⟩)

theorem endsWith_range {d : Date} (read : range? tables year month = some d) :
    EndsWith tables (rangeMonths year month) d := by
  rcases short_or_more (rangeParts year) with one | ⟨first, second, rest, years⟩
  · rcases short_or_more (rangeParts month) with alone | ⟨first, second, rest, months⟩
    · rw [range?_single one alone] at read
      rw [rangeMonths_single one alone]
      exact endsWith_single read
    · rw [range?_months one months] at read
      rw [rangeMonths_months one months]
      -- The year is the same for both months, so that there are two dates or none.
      have both := isSome_single? tables year (some first) (some second)
      rcases join_eq_some read with ⟨h₁, h₂⟩ | ⟨h₁, h₂⟩ | ⟨d₁, d₂, h₁, h₂⟩
      · simp [h₁, h₂] at both
      · simp [h₁, h₂] at both
      · rw [h₁, h₂] at read
        exact (endsWith_single h₁).join (endsWith_single h₂) read
  · rw [range?_years years] at read
    rw [rangeMonths_years month years]
    rcases join_eq_some read with ⟨-, last⟩ | ⟨first, -⟩ | ⟨d₁, d₂, h₁, h₂⟩
    · exact endsWith_single last
    · exact endsWith_single first
    · rw [h₁, h₂] at read
      exact (endsWith_single h₁).join (endsWith_single h₂) read

/-- Only dates that both have the component are close, and the component is that of the last end of
one and of the first end of the other. -/
theorem exists_of_closeAt {index : Nat} {x y : Option Date} (close : closeAt index x y) :
    ∃ d₁ d₂ p q a b, x = some d₁ ∧ y = some d₂ ∧ d₁.parts.getLast? = some p ∧
      d₂.parts.head? = some q ∧ p[index]? = some a ∧ q[index]? = some b ∧ isClose a b := by
  unfold closeAt at close
  split at close
  · rename_i p q hp hq
    obtain ⟨d₁, h₁, tail⟩ := Option.bind_eq_some_iff.mp hp
    obtain ⟨d₂, h₂, head⟩ := Option.bind_eq_some_iff.mp hq
    split at close
    · rename_i a b ha hb
      exact ⟨d₁, d₂, p, q, a, b, h₁, h₂, tail, head, ha, hb, close⟩
    · cases close
  · cases close

/-- Two dates that are close are joined like the fields that they were read from. -/
theorem endsWith_close {index : Nat} {y₁ m₁ y₂ m₂ : Option String} {d : Date}
    (close : closeAt index (range? tables y₁ m₁) (range? tables y₂ m₂))
    (read : join (range? tables y₁ m₁) (range? tables y₂ m₂) = some d) :
    EndsWith tables ((rangeMonths y₁ m₁).1, (rangeMonths y₂ m₂).2) d := by
  obtain ⟨d₁, d₂, -, -, -, -, h₁, h₂, -⟩ := exists_of_closeAt close
  rw [h₁, h₂] at read
  exact (endsWith_range h₁).join (endsWith_range h₂) read

theorem endsWith_date {d : Date} (read : date? tables year month = some d) :
    EndsWith tables (endMonths tables year month) d := by
  rcases short_or_more (listParts year) with one | ⟨first, second, rest, years⟩
  · rcases short_or_more (listParts month) with alone | ⟨first, second, rest, months⟩
    · rw [date?_range one alone] at read
      rw [endMonths_range tables one alone]
      exact endsWith_range read
    · rw [date?_months one months] at read
      rw [endMonths_months tables one months]
      dsimp only at read
      split at read
      · rename_i close
        rw [if_pos close]
        exact endsWith_close close read
      · rename_i apart
        rw [if_neg apart]
        exact endsWith_range read
  · rw [date?_years years] at read
    rw [endMonths_years tables month years]
    dsimp only at read ⊢
    split at read
    · rename_i close
      have ends := endsWith_close close read
      rw [rangeMonths_none, rangeMonths_none] at ends
      rwa [if_pos close]
    · rename_i apart
      rw [if_neg apart]
      exact endsWith_range read

/-! ## Where ends can differ -/

/-- The parts that are merged as months have known months where they meet. -/
theorem isKnown_of_closeAt {first second : Option String}
    (close : closeAt 1 (range? tables year first) (range? tables year second)) :
    isKnown tables (rangeMonths year first).2 ∧ isKnown tables (rangeMonths year second).1 := by
  have known {y a : Int} {m : Option String} (found : (y :: monthPart tables m)[1]? = some a) :
      isKnown tables m := by
    obtain ⟨bound, -⟩ := List.getElem?_eq_some_iff.mp found
    rw [List.length_cons, length_monthPart] at bound
    cases h : isKnown tables m
    · simp [h] at bound
    · rfl
  obtain ⟨d₁, d₂, p, q, a, b, h₁, h₂, tail, head, ha, hb, -⟩ := exists_of_closeAt close
  obtain ⟨-, y₁, -, last⟩ := (endsWith_range h₁).exists_ends
  obtain ⟨y₂, -, first, -⟩ := (endsWith_range h₂).exists_ends
  rw [tail, Option.some.injEq] at last
  rw [head, Option.some.injEq] at first
  exact ⟨known (last ▸ ha), known (first ▸ hb)⟩

theorem rangeMonths_of_noDash (year : Option String) (noDash : ∀ text ∈ month, NoDash text) :
    (rangeMonths year month).1 = (rangeMonths year month).2 := by
  have alone : (rangeParts month).length ≤ 1 := by
    cases month with
    | none => exact Nat.zero_le 1
    | some text => exact length_rangeParts (noDash text rfl)
  rcases short_or_more (rangeParts year) with one | ⟨first, second, rest, years⟩
  · rw [rangeMonths_single one alone]
  · rw [rangeMonths_years month years]

/-- Without a dash in the field of the month, the month is known at both ends or at none. -/
theorem endMonths_of_noDash (tables : List MonthNames) (year : Option String)
    (noDash : ∀ text ∈ month, NoDash text) :
    isKnown tables (endMonths tables year month).1 =
      isKnown tables (endMonths tables year month).2 := by
  have whole := congrArg (isKnown tables) (rangeMonths_of_noDash year noDash)
  rcases short_or_more (listParts year) with one | ⟨first, second, rest, years⟩
  · rcases short_or_more (listParts month) with alone | ⟨first, second, rest, months⟩
    · rwa [endMonths_range tables one alone]
    · rw [endMonths_months tables one months]
      split
      · rename_i close
        obtain ⟨text, rfl⟩ : ∃ text, month = some text := by
          cases month with
          | none => cases months
          | some text => exact ⟨text, rfl⟩
        have parts : slashed text = first :: second :: rest := months
        have free (part : String) (mem : part ∈ slashed text) :
            ∀ text ∈ some part, NoDash text := by
          rintro _ ⟨⟩
          exact noDash_of_mem_slashed (noDash text rfl) mem
        obtain ⟨before, behind⟩ := isKnown_of_closeAt close
        rw [← rangeMonths_of_noDash year (free first (by simp [parts]))] at before
        rw [rangeMonths_of_noDash year (free second (by simp [parts]))] at behind
        rw [before, behind]
      · exact whole
  · rw [endMonths_years tables month years]
    dsimp only
    split
    · rfl
    · exact whole

/-! ## Dates of a year and a month -/

/-- A date has one end or two, each of them a year with at most a month. Two ends are equally long
just when the month is known at both of them or at none, and always without a dash in the field of
the month. -/
theorem date?_equalEnds {d : Date} (read : date? tables year month = some d) :
    (d.parts.length = 1 ∨ d.parts.length = 2) ∧
      (∀ p ∈ d.parts, p.length = 1 ∨ p.length = 2) ∧
      ∀ first last, d.parts = [first, last] →
        let months := endMonths tables year month
        (first.length = last.length ↔ isKnown tables months.1 = isKnown tables months.2) ∧
        ((∀ text ∈ month, NoDash text) → first.length = last.length) := by
  have ends := endsWith_date read
  refine ⟨ends.lengths.1, ends.lengths.2, fun first last two => ?_⟩
  have exactly := ends.length_eq_iff two
  exact ⟨exactly, fun noDash => exactly.mpr (endMonths_of_noDash tables year noDash)⟩

/-- The months of the English locale. -/
def englishMonths : List MonthNames := [MonthNames.ofLocale Locale.english]

theorem date?_equalEnds_mixed :
    let d := ofRange [2013] [2013, 2]
    let months := endMonths englishMonths (some "2013") (some "foo-Jan/Feb")
    date? englishMonths (some "2013") (some "foo-Jan/Feb") = some d ∧
      isKnown englishMonths months.1 ≠ isKnown englishMonths months.2 := by
  intro d months
  have read : date? englishMonths (some "2013") (some "foo-Jan/Feb") = some d := by
    decide +kernel
  obtain ⟨-, -, ends⟩ := date?_equalEnds read
  have exactly := (ends [2013] [2013, 2] rfl).1
  exact ⟨read, fun same => absurd (exactly.mpr same) (by decide)⟩

/-- An end may be left without its month: a range to a month that is not known starts with a month
and ends without one. -/
theorem date?_loses_month :
    ¬∀ (tables : List MonthNames) (year month : Option String) (d : Date) (first last : List Int),
      date? tables year month = some d → d.parts = [first, last] →
        first.length = last.length := by
  intro equal
  have read : date? englishMonths (some "2013") (some "Mar-foo") =
      some (ofRange [2013, 3] [2013]) := by
    decide +kernel
  exact absurd (equal _ _ _ _ [2013, 3] [2013] read rfl) (by decide)

end CiteStyle.Date.YearMonth
