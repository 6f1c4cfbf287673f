-- Dates written in numbers only. Day and month stand in the order that is usual
-- in the locale, and only some of the patterns follow it: a date with slashes is
-- read as the locale writes it, but one with periods has its day first already,
-- so that a locale with the day first exchanges the two where no other does. A
-- day that is not there is exchanged with the month all the same.
import CiteStyle.Proofs.DatePatterns

namespace CiteStyle

open DateText Scan Text

/-! ## Texts of numbers -/

namespace DateText

/-- Two numbers and a year, with a mark between them. -/
def threeNumbers (mark : Char) (first second year : List Char) : List Char :=
  first ++ mark :: (second ++ mark :: year)

/-- A year and a number, with a mark between them. -/
def yearAndNumber (mark : Char) (year number : List Char) : List Char := year ++ mark :: number

variable {first second year number : List Char}

theorem countP_threeNumbers {p : Char → Bool} (outside : Text.digits.all (!p ·)) (mark : Char)
    (hf : ShortNumber first) (hs : ShortNumber second) (hy : FullYear year) :
    (threeNumbers mark first second year).countP p = if p mark then 2 else 0 := by
  unfold threeNumbers
  simp only [List.countP_append, List.countP_cons, countP_digits outside hf.digits,
    countP_digits outside hs.digits, countP_digits outside hy.digits]
  split <;> rfl

theorem countP_yearAndNumber {p : Char → Bool} (outside : Text.digits.all (!p ·)) (mark : Char)
    (hy : FullYear year) (hn : ShortNumber number) :
    (yearAndNumber mark year number).countP p = if p mark then 1 else 0 := by
  unfold yearAndNumber
  simp only [List.countP_append, List.countP_cons, countP_digits outside hy.digits,
    countP_digits outside hn.digits]
  split <;> rfl

theorem prefers_year (hy : FullYear year) : Prefers DateText.year year (.long year) [] := by
  have h : Prefers longYear (year ++ []) (.long year) [] :=
    prefers_longYear hy.digits hy.long (by simp)
  rw [List.append_nil] at h
  exact h.orElse

theorem prefers_noBlanks {cs : List Char} (digits : ∀ c ∈ cs, isDigit c) (filled : cs ≠ [])
    (rest : List Char) : Prefers (blanks 0) (cs ++ rest) () (cs ++ rest) := by
  have nothing : ∀ c ∈ ([] : List Char), isBlank c := by simp
  refine prefers_blanks nothing (fun c hc => ?_) (Nat.zero_le 0)
  exact isBlank_alphanumeric (isAlphanumeric_digit (digits c (mem_of_head?_append filled hc)))

theorem prefers_after (mark : Char) {p : Scan α} {a : α} {cs rest : List Char}
    (h : Prefers p cs a rest) : Prefers (after mark p) (mark :: cs) a rest :=
  (prefers_char mark cs).andThen h

/-- No year stands in front of a mark. -/
theorem find?_yearMonthDay_threeNumbers (mark : Char) (apart : isDigit mark = false)
    (outside : Text.digits.all (· != mark)) (hf : ShortNumber first) (hs : ShortNumber second)
    (hy : FullYear year) :
    (yearMonthDay mark month).find? (threeNumbers mark first second year) = none := by
  have fewFirst := hf.short
  have fewSecond := hs.short
  unfold threeNumbers
  rw [find?_yearMonthDay_short mark month hf.digits (by omega) apart,
    find?_yearMonthDay_short mark month hs.digits (by omega) apart]
  refine (spends_yearMonthDay mark leaves_month).find?_eq_none ?_
  rw [countP_digits outside hy.digits]
  exact Nat.zero_lt_one

theorem find?_slashedNumbers (hf : ShortNumber first) (hs : ShortNumber second)
    (hy : FullYear year) : slashedNumbers.find? (threeNumbers '/' first second year) =
      some ⟨.long year, some (.number first), some second⟩ := by
  have stop (cs : List Char) : ∀ c ∈ ('/' :: cs).head?, isDigit c = false := by simp [isDigit]
  have readsMonth := prefers_month hf (stop (second ++ '/' :: year))
  have readsDay := prefers_after '/' (prefers_day hs (stop year))
  have readsYear := prefers_after '/' (prefers_year hy)
  have reads : Prefers slashedNumbers (threeNumbers '/' first second year)
      ⟨.long year, some (.number first), some second⟩ [] := by
    unfold slashedNumbers threeNumbers
    apply readsMonth.andThen
    apply readsDay.andThen
    exact readsYear.map _
  exact reads.find?

theorem find?_dottedNumbers (hf : ShortNumber first) (hs : ShortNumber second)
    (hy : FullYear year) : dottedNumbers.find? (threeNumbers '.' first second year) =
      some ⟨.long year, some (.number second), some first⟩ := by
  have stop (cs : List Char) : ∀ c ∈ ('.' :: cs).head?, isDigit c = false := by simp [isDigit]
  have readsDay := prefers_day hf (stop (second ++ '.' :: year))
  have readsMonth := prefers_month hs (stop year)
  have noBlanks := prefers_after '.' (prefers_noBlanks hs.digits hs.ne_nil ('.' :: year))
  have noMoreBlanks := prefers_after '.' (prefers_noBlanks hy.digits hy.ne_nil [])
  rw [List.append_nil] at noMoreBlanks
  have reads : Prefers dottedNumbers (threeNumbers '.' first second year)
      ⟨.long year, some (.number second), some first⟩ [] := by
    unfold dottedNumbers threeNumbers
    apply readsDay.andThen
    apply noBlanks.andThen
    apply readsMonth.andThen
    apply noMoreBlanks.andThen
    exact (prefers_year hy).map _
  exact reads.find?

theorem find?_yearMonthDay (mark : Char) (apart : isDigit mark = false) (hy : FullYear year)
    (hn : ShortNumber number) : (yearMonthDay mark month).find? (yearAndNumber mark year number) =
      some ⟨.long year, some (.number number), none⟩ := by
  have readsYear : Prefers longYear (year ++ mark :: number) (.long year) (mark :: number) :=
    prefers_longYear hy.digits hy.long (by simpa using apart)
  have readsMonth : Prefers month (number ++ []) (.number number) [] :=
    prefers_month hn (by simp)
  rw [List.append_nil] at readsMonth
  have noDay : after mark day [] = [] := rfl
  have reads : Prefers (yearMonthDay mark month) (yearAndNumber mark year number)
      ⟨.long year, some (.number number), none⟩ [] := by
    unfold yearMonthDay yearAndNumber
    apply readsYear.andThen
    apply (prefers_after mark readsMonth).andThen
    exact (prefers_none noDay).map _
  exact reads.find?

end DateText

/-! ## Reading -/

namespace DateReader

variable {reader : DateReader} {first second year number : List Char}

theorem yearNumber_full (hy : FullYear year) :
    yearNumber (.long year) = some (digitsValue year : Int) := by
  have := hy.long
  have low := hy.low
  have read := readInt?_digits hy.digits (List.length_pos_iff.mp (by omega)) hy.high
  simp only [yearNumber, read, Option.map_some]
  rw [if_neg (by omega)]

theorem readNat?_short {cs : List Char} (h : ShortNumber cs) :
    readNat? maxUnsigned32 cs = some (digitsValue cs) := by
  have filled := h.filled
  refine readNat?_digits h.digits (List.length_pos_iff.mp (by omega)) ?_
  have bound := digitsValue_lt (List.all_eq_true.mpr h.digits)
  have short : 10 ^ cs.length ≤ 10 ^ 2 := Nat.pow_le_pow_right (by decide) h.short
  have fits : 10 ^ 2 ≤ maxUnsigned32 := by decide
  omega

/-- A month up to 12 stays the month. -/
theorem mend_of_le {d : ReadDate} (low : ∀ m ∈ d.month, m ≤ 12) : mend d = d := by
  unfold mend
  rw [if_neg]
  cases h : d.month with
  | none => simp
  | some m =>
    have := low m h
    simp
    omega

theorem toDate_numbers (localOrder : Bool) (hy : FullYear year) (hm : ShortNumber first)
    (hd : ShortNumber second)
    (low : (if reader.dayFirst && localOrder then digitsValue second else digitsValue first) ≤ 12) :
    reader.toDate localOrder ⟨.long year, some (.number first), some second⟩ =
      if reader.dayFirst && localOrder then
        ⟨some (digitsValue year), some (digitsValue second), some (digitsValue first)⟩
      else ⟨some (digitsValue year), some (digitsValue first), some (digitsValue second)⟩ := by
  simp only [toDate, monthNumber, yearNumber_full hy, readNat?_short hm, readNat?_short hd,
    Option.bind_some]
  split at low
  · rename_i exchanged
    rw [if_pos exchanged]
    exact mend_of_le (by simpa using low)
  · rename_i kept
    rw [if_neg kept]
    exact mend_of_le (by simpa using low)

theorem toDate_yearMonth (localOrder : Bool) (hy : FullYear year) (hm : ShortNumber number)
    (low : digitsValue number ≤ 12) :
    reader.toDate localOrder ⟨.long year, some (.number number), none⟩ =
      if reader.dayFirst && localOrder then
        ⟨some (digitsValue year), none, some (digitsValue number)⟩
      else ⟨some (digitsValue year), some (digitsValue number), none⟩ := by
  simp only [toDate, monthNumber, yearNumber_full hy, readNat?_short hm, Option.bind_some,
    Option.bind_none]
  split
  · exact mend_of_le (by simp)
  · exact mend_of_le (by simpa using low)

/-- A text without white space is kept as it is. -/
theorem trimChars_blankless {cs : List Char} (blankless : cs.countP isBlank = 0) :
    trimChars (String.ofList cs).toList = cs := by
  rw [List.countP_eq_zero] at blankless
  rw [String.toList_ofList]
  refine trimChars_of_ends (fun c hc => ?_) fun c hc => ?_
  · simpa using blankless c (List.mem_of_head? hc)
  · simpa using blankless c (List.mem_of_getLast? hc)

/-- In a text without white space and hyphens only numbers count, and a name between slashes. -/
theorem read?_unhyphened (reader : DateReader) {cs : List Char}
    (blankless : cs.countP isBlank = 0) (hyphenless : cs.countP (· == '-') = 0) :
    reader.read? (String.ofList cs) =
      [⟨yearMonthDay '.' month, true⟩, ⟨yearMonthDay '/' month, false⟩, ⟨slashedNumbers, true⟩,
        ⟨slashedName reader.months, false⟩, ⟨dottedNumbers, true⟩,
        (⟨yearAlone, false⟩ : Pattern)].findSome? fun pattern =>
          (pattern.scan.find? cs).map (reader.toDate pattern.localOrder) := by
  have h1 := (spends_monthDayYear reader.months).find?_eq_none (by rw [blankless]; decide)
  have h2 := (spends_dayMonthYear reader.months).find?_eq_none (by rw [blankless]; decide)
  have h3 := (spends_yearMonthDay '-' leaves_month).find?_eq_none (by rw [hyphenless]; decide)
  have h4 := (spends_yearMonthDay '-' (leaves_monthName reader.months)).find?_eq_none
    (by rw [hyphenless]; decide)
  have h5 := (spends_hyphenedName reader.months).find?_eq_none (by rw [hyphenless]; decide)
  rw [read?_eq_findSome? reader (trimChars_blankless blankless)]
  simp only [allPatterns, List.findSome?_cons, h1, h2, h3, h4, h5, Option.map_none]

theorem read?_slashed (reader : DateReader) (hf : ShortNumber first) (hs : ShortNumber second)
    (hy : FullYear year) :
    reader.read? (String.ofList (threeNumbers '/' first second year)) =
      some (reader.toDate true ⟨.long year, some (.number first), some second⟩) := by
  have blankless := countP_threeNumbers (p := isBlank) (by decide) '/' hf hs hy
  have hyphenless := countP_threeNumbers (p := (· == '-')) (by decide) '/' hf hs hy
  have dotless := countP_threeNumbers (p := (· == '.')) (by decide) '/' hf hs hy
  have h1 := (spends_yearMonthDay '.' leaves_month).find?_eq_none (by rw [dotless]; decide)
  have h2 := find?_yearMonthDay_threeNumbers '/' (by decide) (by decide) hf hs hy
  rw [read?_unhyphened reader blankless hyphenless]
  simp only [List.findSome?_cons, h1, h2, find?_slashedNumbers hf hs hy, Option.map_none,
    Option.map_some]

theorem read?_dotted (reader : DateReader) (hf : ShortNumber first) (hs : ShortNumber second)
    (hy : FullYear year) :
    reader.read? (String.ofList (threeNumbers '.' first second year)) =
      some (reader.toDate true ⟨.long year, some (.number second), some first⟩) := by
  have blankless := countP_threeNumbers (p := isBlank) (by decide) '.' hf hs hy
  have hyphenless := countP_threeNumbers (p := (· == '-')) (by decide) '.' hf hs hy
  have slashless := countP_threeNumbers (p := (· == '/')) (by decide) '.' hf hs hy
  have h1 := find?_yearMonthDay_threeNumbers '.' (by decide) (by decide) hf hs hy
  have h2 := (spends_yearMonthDay '/' leaves_month).find?_eq_none (by rw [slashless]; decide)
  have h3 := spends_slashedNumbers.find?_eq_none (by rw [slashless]; decide)
  have h4 := (spends_slashedName reader.months).find?_eq_none (by rw [slashless]; decide)
  rw [read?_unhyphened reader blankless hyphenless]
  simp only [List.findSome?_cons, h1, h2, h3, h4, find?_dottedNumbers hf hs hy, Option.map_none,
    Option.map_some]

theorem read?_yearAndNumber (reader : DateReader) (hy : FullYear year) (hn : ShortNumber number)
    {mark : Char} (listed : mark ∈ ['-', '.', '/']) :
    reader.read? (String.ofList (yearAndNumber mark year number)) =
      some (reader.toDate (mark == '.') ⟨.long year, some (.number number), none⟩) := by
  have blankless := countP_yearAndNumber (p := isBlank) (by decide) mark hy hn
  have hyphenless := countP_yearAndNumber (p := (· == '-')) (by decide) mark hy hn
  have dotless := countP_yearAndNumber (p := (· == '.')) (by decide) mark hy hn
  simp only [List.mem_cons, List.not_mem_nil, or_false] at listed
  rcases listed with rfl | rfl | rfl
  · have h1 := (spends_monthDayYear reader.months).find?_eq_none (by rw [blankless]; decide)
    have h2 := (spends_dayMonthYear reader.months).find?_eq_none (by rw [blankless]; decide)
    have found := find?_yearMonthDay '-' (by decide) hy hn
    rw [read?_eq_findSome? reader (trimChars_blankless blankless)]
    simp only [allPatterns, List.findSome?_cons, h1, h2, found, Option.map_none, Option.map_some]
    rfl
  · have found := find?_yearMonthDay '.' (by decide) hy hn
    rw [read?_unhyphened reader blankless hyphenless]
    simp only [List.findSome?_cons, found, Option.map_some]
    rfl
  · have h1 := (spends_yearMonthDay '.' leaves_month).find?_eq_none (by rw [dotless]; decide)
    have found := find?_yearMonthDay '/' (by decide) hy hn
    rw [read?_unhyphened reader blankless hyphenless]
    simp only [List.findSome?_cons, h1, found, Option.map_none, Option.map_some]
    rfl

/-! ## Day and month in the order of the locale -/

/-- Two numbers in front of a year. Between slashes they stand in the order of the locale. With
periods the first is the day; but where the locale has the day first, the two are exchanged, and
the first is the month. -/
theorem read?_twoNumbersAndYear (l : Locale) (hf : ShortNumber first) (hs : ShortNumber second)
    (hy : FullYear year) (lowFirst : digitsValue first ≤ 12) (lowSecond : digitsValue second ≤ 12) :
    (DateReader.ofLocale l).read? (String.ofList (threeNumbers '/' first second year)) =
      some (if l.dayBeforeMonth then
        ⟨some (digitsValue year), some (digitsValue second), some (digitsValue first)⟩
      else ⟨some (digitsValue year), some (digitsValue first), some (digitsValue second)⟩) ∧
    (DateReader.ofLocale l).read? (String.ofList (threeNumbers '.' first second year)) =
      some (if l.dayBeforeMonth then
        ⟨some (digitsValue year), some (digitsValue first), some (digitsValue second)⟩
      else ⟨some (digitsValue year), some (digitsValue second), some (digitsValue first)⟩) := by
  constructor
  · rw [read?_slashed _ hf hs hy, toDate_numbers true hy hf hs (by split <;> assumption),
      Bool.and_true]
    rfl
  · rw [read?_dotted _ hf hs hy, toDate_numbers true hy hs hf (by split <;> assumption),
      Bool.and_true]
    rfl

/-- A locale that writes dates in numbers as in 5.3.2020, with the day first. -/
def dottedLocale : Locale where
  lang := "de-DE"
  numericDate := some [{ component := .day, behind := some "." },
    { component := .month, behind := some "." }, { component := .year }]

theorem read?_twoNumbersAndYear_march :
    ShortNumber "5".toList ∧ ShortNumber "03".toList ∧ FullYear "2020".toList ∧
      digitsValue "5".toList ≤ 12 ∧ digitsValue "03".toList ≤ 12 ∧
      (DateReader.ofLocale dottedLocale).read? "5/03/2020" = some ⟨some 2020, some 3, some 5⟩ ∧
      (DateReader.ofLocale dottedLocale).read? "5.03.2020" = some ⟨some 2020, some 5, some 3⟩ := by
  have hf : ShortNumber "5".toList := by decide
  have hs : ShortNumber "03".toList := by decide
  have hy : FullYear "2020".toList := by decide
  have lowFirst : digitsValue "5".toList ≤ 12 := by decide
  have lowSecond : digitsValue "03".toList ≤ 12 := by decide
  obtain ⟨slashed, dotted⟩ := read?_twoNumbersAndYear dottedLocale hf hs hy lowFirst lowSecond
  exact ⟨hf, hs, hy, lowFirst, lowSecond, slashed, dotted⟩

/-- The locale does not read its own dates: the day becomes the month. -/
theorem read?_exchanges_dotted :
    dottedLocale.dayBeforeMonth ∧ ShortNumber "5".toList ∧ ShortNumber "3".toList ∧
      FullYear "2020".toList ∧
      (DateReader.ofLocale dottedLocale).read? "5.3.2020" = some ⟨some 2020, some 5, some 3⟩ :=
  ⟨by decide, by decide, by decide, by decide, by decide +kernel⟩

/-! ## A month without a day -/

/-- A year and a month. With a hyphen or a slash between them they are what they are; with a
period the month becomes a day where the locale has the day first. -/
theorem read?_yearAndMonth (l : Locale) (hy : FullYear year) (hn : ShortNumber number)
    (low : digitsValue number ≤ 12) :
    (∀ mark ∈ ['-', '/'],
      (DateReader.ofLocale l).read? (String.ofList (yearAndNumber mark year number)) =
        some ⟨some (digitsValue year), some (digitsValue number), none⟩) ∧
    (DateReader.ofLocale l).read? (String.ofList (yearAndNumber '.' year number)) =
      some (if l.dayBeforeMonth then ⟨some (digitsValue year), none, some (digitsValue number)⟩
      else ⟨some (digitsValue year), some (digitsValue number), none⟩) := by
  constructor
  · intro mark listed
    simp only [List.mem_cons, List.not_mem_nil, or_false] at listed
    have undotted : (mark == '.') = false := by rcases listed with rfl | rfl <;> rfl
    rw [read?_yearAndNumber _ hy hn (by rcases listed with rfl | rfl <;> simp), undotted,
      toDate_yearMonth false hy hn low, Bool.and_false]
    rfl
  · rw [read?_yearAndNumber _ hy hn (by simp), toDate_yearMonth _ hy hn low]
    simp only [beq_self_eq_true, Bool.and_true]
    rfl

theorem read?_yearAndMonth_may :
    FullYear "2020".toList ∧ ShortNumber "05".toList ∧ digitsValue "05".toList ≤ 12 ∧
      (DateReader.ofLocale dottedLocale).read? "2020/05" = some ⟨some 2020, some 5, none⟩ := by
  have hy : FullYear "2020".toList := by decide
  have hn : ShortNumber "05".toList := by decide
  have low : digitsValue "05".toList ≤ 12 := by decide
  exact ⟨hy, hn, low, (read?_yearAndMonth dottedLocale hy hn low).1 '/' (by simp)⟩

/-- The month is lost: it is taken for the day of a month that is missing. -/
theorem read?_loses_month :
    FullYear "2020".toList ∧ ShortNumber "05".toList ∧
      (DateReader.ofLocale dottedLocale).read? "2020.05" = some ⟨some 2020, none, some 5⟩ ∧
      ReadDate.parts ⟨some 2020, none, some 5⟩ = [2020] :=
  ⟨by decide, by decide, by decide +kernel, rfl⟩

end DateReader

end CiteStyle
