-- A year alone is looked for last, and from left to right: what decides is the
-- first place with two digits in a row. If four digits or more stand there, and
-- no apostrophe in front of them, they are the year. Otherwise the first two of
-- them are, even if a year with four digits follows later on.
import CiteStyle.Proofs.DateFallback
import CiteStyle.Proofs.NumberedDates

namespace CiteStyle

open DateText Scan Text

namespace DateText

/-! ## The first digits of a text -/

/-- Two characters of which one is no digit. -/
def Apart (a b : Char) : Prop := ¬(isDigit a ∧ isDigit b)

instance (a b : Char) : Decidable (Apart a b) := inferInstanceAs (Decidable (¬_))

/-- Two digits stand at the start of a text. -/
def TwoDigits (cs : List Char) : Prop :=
  ∃ a b rest, cs = a :: b :: rest ∧ isDigit a ∧ isDigit b

/-- The first digits of a text of which two or more stand in a row, all of them, with what stands
in front of them and behind them. -/
structure FirstDigits (cs before run after : List Char) : Prop where
  text : cs = before ++ (run ++ after)
  apart : before.IsChain Apart
  outside : ∀ c ∈ before.getLast?, isDigit c = false
  digits : ∀ c ∈ run, isDigit c
  several : 2 ≤ run.length
  stop : ∀ c ∈ after.head?, isDigit c = false

variable {cs before run after part rest : List Char}

theorem firstDigits_cons {c : Char} (first : FirstDigits cs before run after)
    (next : ∀ d ∈ cs.head?, Apart c d) : FirstDigits (c :: cs) (c :: before) run after := by
  obtain ⟨text, apart, outside, digits, several, stop⟩ := first
  refine ⟨congrArg (c :: ·) text, ?_, ?_, digits, several, stop⟩
  · refine List.isChain_cons.mpr ⟨fun d hd => next d ?_, apart⟩
    rw [text, List.head?_append, Option.mem_def.mp hd]
    rfl
  · obtain _ | ⟨d, before⟩ := before
    · intro x hx
      simp only [List.getLast?_singleton, Option.mem_some_iff] at hx
      obtain _ | ⟨r, run⟩ := run
      · simp at several
      · have hr := digits r List.mem_cons_self
        have apart := next r (by simp [text])
        rw [← hx]
        simpa [Apart, hr] using apart
    · rwa [List.getLast?_cons_cons]

/-- A text has such digits, or no two digits stand in a row in it. -/
theorem exists_firstDigits (cs : List Char) :
    (∃ before run after, FirstDigits cs before run after) ∨ cs.IsChain Apart := by
  induction cs with
  | nil => exact .inr List.isChain_nil
  | cons c cs ih =>
    by_cases two : TwoDigits (c :: cs)
    · obtain ⟨a, b, rest, start, ha, hb⟩ := two
      rw [start]
      refine .inl ⟨[], (a :: b :: rest).takeWhile isDigit, (a :: b :: rest).dropWhile isDigit, ?_⟩
      refine ⟨List.takeWhile_append_dropWhile.symm, List.isChain_nil, by simp, ?_, ?_, ?_⟩
      · exact List.all_eq_true.mp List.all_takeWhile
      · simp [ha, hb]
      · intro d hd
        have outside := List.head?_dropWhile_not isDigit (a :: b :: rest)
        rw [Option.mem_def.mp hd] at outside
        simpa using outside
    · have next : ∀ d ∈ cs.head?, Apart c d := by
        rintro d hd ⟨hc, hd'⟩
        obtain ⟨more, rfl⟩ := List.head?_eq_some_iff.mp hd
        exact two ⟨c, d, more, rfl, hc, hd'⟩
      rcases ih with ⟨before, run, after, first⟩ | chain
      · exact .inl ⟨c :: before, run, after, firstDigits_cons first next⟩
      · exact .inr (List.isChain_cons.mpr ⟨next, chain⟩)

/-! ## Where a year is read -/

theorem longYear_apart (apart : ¬TwoDigits cs) : longYear cs = [] := by
  obtain _ | ⟨a, _ | ⟨b, rest⟩⟩ := cs
  · rfl
  · cases ha : isDigit a <;> simp [longYear, Scan.map, whole, ha]
  · cases ha : isDigit a
    · simp [longYear, Scan.map, whole, ha]
    · cases hb : isDigit b
      · simp [longYear, Scan.map, whole, ha, hb]
      · exact absurd ⟨a, b, rest, rfl, ha, hb⟩ apart

theorem span_apart (apart : ¬TwoDigits cs) : span isDigit 2 2 cs = [] := by
  obtain _ | ⟨a, _ | ⟨b, rest⟩⟩ := cs
  · rfl
  · cases ha : isDigit a <;> simp [span, ha]
  · cases ha : isDigit a
    · simp [span, ha]
    · cases hb : isDigit b
      · simp [span, ha, hb]
      · exact absurd ⟨a, b, rest, rfl, ha, hb⟩ apart

/-- A year starts with two digits, or with an apostrophe and two digits. -/
theorem year_eq_nil (apart : ¬TwoDigits cs) (quoted : ∀ rest, cs = '\'' :: rest → ¬TwoDigits rest) :
    year cs = [] := by
  unfold year orElse shortYear Scan.andThen Scan.optional Scan.map
  rw [longYear_apart apart]
  obtain _ | ⟨c, rest⟩ := cs
  · rfl
  · by_cases hc : c = '\''
    · subst hc
      simp [char, span_apart apart, span_apart (quoted rest rfl)]
    · simp [char, hc, span_apart apart]

theorem not_twoDigits (chain : (part ++ rest.take 1).IsChain Apart) (filled : part ≠ []) :
    ¬TwoDigits (part ++ rest) := by
  rintro ⟨a, b, more, start, ha, hb⟩
  obtain _ | ⟨c, _ | ⟨d, part⟩⟩ := part
  · exact filled rfl
  · obtain _ | ⟨d, rest⟩ := rest
    · simp at start
    · cases start
      exact (List.isChain_cons_cons.mp chain).1 ⟨ha, hb⟩
  · cases start
    exact (List.isChain_cons_cons.mp chain).1 ⟨ha, hb⟩

/-- No year is read at a place from which on no two digits stand in a row, unless the place is an
apostrophe in front of two. -/
theorem year_unread (chain : (part ++ rest.take 1).IsChain Apart) (filled : part ≠ [])
    (unquoted : part ≠ ['\''] ∨ ¬TwoDigits rest) : year (part ++ rest) = [] := by
  refine year_eq_nil (not_twoDigits chain filled) fun more start => ?_
  obtain _ | ⟨c, part⟩ := part
  · exact absurd rfl filled
  · cases start
    obtain _ | ⟨d, part⟩ := part
    · simpa using unquoted
    · exact not_twoDigits (List.isChain_cons.mp chain).2 (List.cons_ne_nil d part)

theorem find?_year_pass {front : List Char} (chain : (front ++ rest.take 1).IsChain Apart)
    (unquoted : front.getLast? ≠ some '\'' ∨ ¬TwoDigits rest) :
    year.find? (front ++ rest) = year.find? rest := by
  refine find?_append fun part within filled => ?_
  obtain ⟨before, rfl⟩ := within
  rw [List.append_assoc] at chain
  refine year_unread (chain.suffix (List.suffix_append _ _)) filled ?_
  rcases unquoted with unquoted | apart
  · refine .inl fun mark => unquoted ?_
    rw [mark, List.getLast?_append]
    rfl
  · exact .inr apart

theorem find?_year_chain (chain : cs.IsChain Apart) : year.find? cs = none := by
  have apart : ¬TwoDigits [] := by simp [TwoDigits]
  have passed : year.find? (cs ++ []) = year.find? [] :=
    find?_year_pass (by simpa using chain) (.inr apart)
  rw [List.append_nil] at passed
  rw [passed]
  rfl

theorem prefers_shortYear (digits : ∀ c ∈ run, isDigit c) (several : 2 ≤ run.length)
    (after : List Char) : Prefers (Scan.map YearText.short (span isDigit 2 2)) (run ++ after)
      (.short (run.take 2)) (run.drop 2 ++ after) := by
  have size : (run.take 2).length = 2 := by simpa using several
  have reads : Prefers (span isDigit 2 2) (run.take 2 ++ (run.drop 2 ++ after)) (run.take 2)
      (run.drop 2 ++ after) :=
    prefers_span (fun c hc => digits c (List.mem_of_mem_take hc)) (by omega) (by omega) (.inl size)
  rw [← List.append_assoc, List.take_append_drop] at reads
  exact reads.map _

/-- The year is read at the first digits, or at the apostrophe in front of them. -/
theorem find?_year (first : FirstDigits cs before run after) : year.find? cs =
    some (if 4 ≤ run.length ∧ before.getLast? ≠ some '\'' then .long run
      else .short (run.take 2)) := by
  obtain ⟨rfl, apart, outside, digits, several, stop⟩ := first
  have readsTwo := prefers_shortYear digits several after
  obtain ⟨r, others, rfl⟩ := List.exists_cons_of_length_pos (by omega : 0 < run.length)
  have hr := digits r List.mem_cons_self
  by_cases quoted : before.getLast? = some '\''
  -- The search stops at the apostrophe, where a long year is no reading.
  · obtain ⟨front, rfl⟩ := List.getLast?_eq_some_iff.mp quoted
    have mark : ¬TwoDigits ('\'' :: (r :: others ++ after)) := by
      rintro ⟨a, b, rest, start, ha, -⟩
      cases (List.cons.inj start).1
      exact absurd ha (by decide)
    have long : longYear ('\'' :: (r :: others ++ after)) = [] := longYear_apart mark
    have short := (prefers_char '\'' _).optional.andThen (f := fun _ => _) readsTwo
    rw [if_neg (by simp), List.append_assoc, List.singleton_append,
      find?_year_pass (by simpa using apart) (.inr mark)]
    exact (prefers_second long short).find?
  · have chain : (before ++ [r]).IsChain Apart := by
      refine List.isChain_append.mpr ⟨apart, List.isChain_singleton r, fun x hx y hy => ?_⟩
      simp [Apart, outside x hx]
    rw [find?_year_pass (by simpa using chain) (.inl quoted)]
    by_cases long : 4 ≤ (r :: others).length
    · rw [if_pos ⟨long, quoted⟩]
      exact ((prefers_longYear digits long stop).orElse).find?
    · have noMark : char '\'' (r :: others ++ after) = [] := by
        refine char_eq_nil fun d hd => ?_
        simp only [List.cons_append, List.head?_cons, Option.mem_some_iff] at hd
        rintro rfl
        rw [hd] at hr
        exact absurd hr (by decide)
      have short := (prefers_none noMark).andThen (f := fun _ => _) readsTwo
      rw [if_neg (fun h => long h.1)]
      exact (prefers_second (longYear_eq_nil digits (by omega) stop) short).find?

end DateText

/-! ## What a reader makes of them -/

namespace DateReader

theorem yearNumber_short {digits : List Char} (all : ∀ c ∈ digits, isDigit c)
    (two : digits.length = 2) :
    yearNumber (.short digits) = some (digitsValue digits + 2000 : Int) := by
  have bound := digitsValue_lt (List.all_eq_true.mpr all)
  have fits : 10 ^ 2 ≤ maxSigned32 := by decide
  rw [two] at bound
  have read := readInt?_digits all (List.length_pos_iff.mp (by omega))
    (by omega : digitsValue digits ≤ maxSigned32)
  simp only [yearNumber, read, Option.map_some]
  rw [if_pos (by omega)]

/-- Where only a year alone is found, it is the number of the first digits that stand in a row, if
they are at least four and no apostrophe stands in front of them; otherwise the first two of them
are a year of this century. A text without two digits in a row is not read. -/
theorem read?_bareYear (reader : DateReader) (text : String)
    (unfound : ∀ pattern ∈ (patterns reader.months).dropLast,
      pattern.scan.find? (trimChars text.toList) = none) :
    (∀ before run after, FirstDigits (trimChars text.toList) before run after →
      (4 ≤ run.length → before.getLast? ≠ some '\'' →
        reader.read? text = some ⟨yearNumber (.long run), none, none⟩ ∧
        (FullYear run → yearNumber (.long run) = some (digitsValue run : Int))) ∧
      (run.length < 4 ∨ before.getLast? = some '\'' →
        reader.read? text = some ⟨some (digitsValue (run.take 2) + 2000 : Int), none, none⟩)) ∧
    ((∀ before run after, ¬FirstDigits (trimChars text.toList) before run after) →
      reader.read? text = none) := by
  have read := reader.read?_of_yearAlone text unfound
  constructor
  · intro before run after first
    rw [find?_year first, Option.map_some] at read
    constructor
    · intro long unquoted
      rw [if_pos ⟨long, unquoted⟩] at read
      exact ⟨read, yearNumber_full⟩
    · intro strays
      have two : (run.take 2).length = 2 := by simpa using first.several
      have digits : ∀ c ∈ run.take 2, isDigit c := fun c hc =>
        first.digits c (List.mem_of_mem_take hc)
      have short : ¬(4 ≤ run.length ∧ before.getLast? ≠ some '\'') := by
        rintro ⟨long, unquoted⟩
        rcases strays with few | quoted
        · omega
        · exact unquoted quoted
      rw [if_neg short, yearNumber_short digits two] at read
      exact read
  · intro nowhere
    rcases exists_firstDigits (trimChars text.toList) with ⟨before, run, after, first⟩ | chain
    · exact absurd first (nowhere before run after)
    · rw [read, find?_year_chain chain]
      rfl

/-- A locale that has no names of months. -/
def namelessLocale : Locale := { lang := "de-DE" }

theorem firstDigits_edition : FirstDigits "no. 7, 1850 (2nd ed.), 12".toList "no. 7, ".toList
    "1850".toList " (2nd ed.), 12".toList where
  text := by decide
  apart := by decide
  outside := by
    rintro c ⟨⟩
    decide
  digits := List.all_eq_true.mp (by decide)
  several := by decide
  stop := by
    rintro c ⟨⟩
    decide

theorem read?_bareYear_edition :
    (∀ pattern ∈ (patterns (DateReader.ofLocale namelessLocale).months).dropLast,
      pattern.scan.find? (trimChars "no. 7, 1850 (2nd ed.), 12".toList) = none) ∧
    FirstDigits (trimChars "no. 7, 1850 (2nd ed.), 12".toList) "no. 7, ".toList "1850".toList
      " (2nd ed.), 12".toList ∧
    (DateReader.ofLocale namelessLocale).read? "no. 7, 1850 (2nd ed.), 12" =
      some ⟨some 1850, none, none⟩ := by
  have unfound : ∀ pattern ∈ (patterns (DateReader.ofLocale namelessLocale).months).dropLast,
      pattern.scan.find? (trimChars "no. 7, 1850 (2nd ed.), 12".toList) = none := by
    decide +kernel
  have read := ((read?_bareYear _ _ unfound).1 _ _ _ firstDigits_edition).1 (by decide) (by decide)
  exact ⟨unfound, firstDigits_edition, read.1⟩

/-- The day is taken for the year, although the year stands in the text. -/
theorem read?_strays_to_day :
    (∀ pattern ∈ (patterns (DateReader.ofLocale namelessLocale).months).dropLast,
      pattern.scan.find? (trimChars "15 Mai 2020".toList) = none) ∧
    "15 Mai 2020".toList = "15 Mai ".toList ++ "2020".toList ∧ FullYear "2020".toList ∧
    (DateReader.ofLocale namelessLocale).read? "15 Mai 2020" = some ⟨some 2015, none, none⟩ :=
  ⟨by decide +kernel, by decide, by decide, by decide +kernel⟩

end DateReader

end CiteStyle
