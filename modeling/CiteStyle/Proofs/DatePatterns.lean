-- The patterns for dates one by one: what each of them takes out of a text, so
-- that it is not found in a text without it, and the order in which they are
-- asked. A locale without names of months asks the same patterns, for those
-- with a name find nothing.
import CiteStyle.Proofs.Digits
import CiteStyle.Proofs.ScanReadings

namespace CiteStyle.DateText

open Text Scan

variable {cs rest : List Char}

/-! ## Numbers as they are written -/

/-- A number of one digit or two, as days and months are written. -/
structure ShortNumber (cs : List Char) : Prop where
  digits : ∀ c ∈ cs, isDigit c
  filled : 1 ≤ cs.length
  short : cs.length ≤ 2

/-- A year of four digits or more that stands for itself: it fits, and it is not one of the first
hundred years, which are taken for years of this century. -/
structure FullYear (cs : List Char) : Prop where
  digits : ∀ c ∈ cs, isDigit c
  long : 4 ≤ cs.length
  low : 100 ≤ digitsValue cs
  high : digitsValue cs ≤ maxSigned32

instance (cs : List Char) : Decidable (ShortNumber cs) :=
  decidable_of_iff (cs.all isDigit ∧ 1 ≤ cs.length ∧ cs.length ≤ 2)
    ⟨fun ⟨digits, filled, short⟩ => ⟨List.all_eq_true.mp digits, filled, short⟩,
      fun h => ⟨List.all_eq_true.mpr h.digits, h.filled, h.short⟩⟩

instance (cs : List Char) : Decidable (FullYear cs) :=
  decidable_of_iff (cs.all isDigit ∧ 4 ≤ cs.length ∧ 100 ≤ digitsValue cs ∧
      digitsValue cs ≤ maxSigned32)
    ⟨fun ⟨digits, long, low, high⟩ => ⟨List.all_eq_true.mp digits, long, low, high⟩,
      fun h => ⟨List.all_eq_true.mpr h.digits, h.long, h.low, h.high⟩⟩

theorem ShortNumber.ne_nil (h : ShortNumber cs) : cs ≠ [] := List.length_pos_iff.mp h.filled

theorem FullYear.ne_nil (h : FullYear cs) : cs ≠ [] := by
  have := h.long
  exact List.length_pos_iff.mp (by omega)

theorem shortNumber_decimalDigits {n : Nat} (few : n < 100) : ShortNumber (decimalDigits n) where
  digits _ := isDigit_decimalDigits
  filled := List.length_pos_iff.mpr (decimalDigits_ne_nil n)
  short := (Nat.length_toDigits_le_iff (by decide) (by decide)).mpr few

theorem shortNumber_paddedDigits {n : Nat} (few : n < 100) : ShortNumber (paddedDigits 2 n) where
  digits _ := isDigit_paddedDigits
  filled := List.length_pos_iff.mpr (paddedDigits_ne_nil 2 n)
  short := by
    have := (shortNumber_decimalDigits few).short
    rw [length_paddedDigits]
    omega

theorem fullYear_decimalDigits {y : Nat} (low : 1000 ≤ y) (high : y ≤ maxSigned32) :
    FullYear (decimalDigits y) where
  digits _ := isDigit_decimalDigits
  long := by
    by_contra short
    have few : y < 10 ^ 3 :=
      (Nat.length_toDigits_le_iff (by decide) (by decide)).mp (Nat.le_of_lt_succ (not_le.mp short))
    omega
  low := by
    rw [digitsValue_decimalDigits]
    omega
  high := by rwa [digitsValue_decimalDigits]

/-- A class without digits has no member in a number. -/
theorem countP_digits {mark : Char → Bool} (outside : Text.digits.all (!mark ·))
    (digits : ∀ c ∈ cs, isDigit c) : cs.countP mark = 0 := by
  rw [List.countP_eq_zero]
  intro c hc
  simpa using of_digit outside (digits c hc)

theorem prefers_day (h : ShortNumber cs) (stop : ∀ c ∈ rest.head?, isDigit c = false) :
    Prefers day (cs ++ rest) cs rest :=
  prefers_span h.digits h.filled h.short (.inr stop)

theorem prefers_month (h : ShortNumber cs) (stop : ∀ c ∈ rest.head?, isDigit c = false) :
    Prefers month (cs ++ rest) (.number cs) rest :=
  (prefers_span h.digits h.filled h.short (.inr stop)).map _

theorem prefers_longYear (digits : ∀ c ∈ cs, isDigit c) (long : 4 ≤ cs.length)
    (stop : ∀ c ∈ rest.head?, isDigit c = false) :
    Prefers longYear (cs ++ rest) (.long cs) rest :=
  (prefers_whole digits stop long).map _

theorem longYear_eq_nil (digits : ∀ c ∈ cs, isDigit c) (short : cs.length < 4)
    (stop : ∀ c ∈ rest.head?, isDigit c = false) : longYear (cs ++ rest) = [] := by
  unfold longYear Scan.map
  rw [whole_eq_nil digits stop short]
  rfl

/-! ## What the patterns take out of a text -/

theorem leaves_longYear : Leaves longYear :=
  leaves_map _ fun cs a rest mem => by
    unfold whole at mem
    dsimp only at mem
    split at mem
    · cases List.mem_singleton.mp mem
      exact List.dropWhile_suffix isDigit
    · cases mem

theorem leaves_shortYear : Leaves shortYear :=
  leaves_andThen (leaves_optional (leaves_char '\'')) fun _ => leaves_map _ (leaves_span _ 2 2)

theorem leaves_year : Leaves year := by
  intro cs a rest mem
  rcases List.mem_append.mp mem with mem | mem
  · exact leaves_longYear cs a rest mem
  · exact leaves_shortYear cs a rest mem

theorem spends_after {mark : Char} {p : Scan α} (h : Leaves p) :
    Spends (· == mark) 1 (after mark p) :=
  spends_andThen (spends_char (by simp)) fun _ => h.spends

section Names

variable (names : MonthNames)

theorem spends_monthDayYear : Spends isBlank 2 (monthDayYear names) := by
  have comma : Leaves (andThen (blanks 0) fun _ => char ',') :=
    leaves_andThen (leaves_blanks 0) fun _ => leaves_char ','
  have ending : Spends isBlank 1 (andThen (blanks 1) fun _ => year) :=
    spends_andThen (spends_blanks 1) fun _ => leaves_year.spends
  exact spends_andThen (leaves_monthName names).spends fun _ =>
    spends_andThen (spends_blanks 1) fun _ =>
    spends_andThen leaves_day.spends fun _ =>
    spends_andThen (leaves_optional leaves_ordinalEnding).spends fun _ =>
    spends_andThen (leaves_optional comma).spends fun _ =>
    spends_andThen (spends_blanks 1) fun _ => spends_map _ leaves_year.spends

theorem spends_dayMonthYear : Spends isBlank 1 (dayMonthYear names) := by
  have first : Leaves (andThen day fun d => andThen (optional (char '.')) fun _ =>
      Scan.map (fun _ => d) (blanks 1)) :=
    leaves_andThen leaves_day fun _ =>
      leaves_andThen (leaves_optional (leaves_char '.')) fun _ => leaves_map _ (leaves_blanks 1)
  exact spends_andThen (leaves_optional first).spends fun _ =>
    spends_andThen (leaves_monthName names).spends fun _ =>
    spends_andThen (spends_blanks 1) fun _ => spends_map _ leaves_year.spends

theorem spends_yearMonthDay (mark : Char) {m : Scan MonthText} (h : Leaves m) :
    Spends (· == mark) 1 (yearMonthDay mark m) :=
  spends_andThen leaves_longYear.spends fun _ => spends_andThen (spends_after h) fun _ =>
  spends_map _ (leaves_optional (leaves_after leaves_day mark)).spends

theorem spends_hyphenedName : Spends (· == '-') 1 (hyphenedName names) := by
  have first : Leaves (andThen day fun d => Scan.map (fun _ => d) (char '-')) :=
    leaves_andThen leaves_day fun _ => leaves_map _ (leaves_char '-')
  exact spends_andThen (leaves_optional first).spends fun _ =>
    spends_andThen (leaves_monthName names).spends fun _ => spends_map _ (spends_after leaves_year)

theorem spends_slashedNumbers : Spends (· == '/') 2 slashedNumbers :=
  spends_andThen leaves_month.spends fun _ => spends_andThen (spends_after leaves_day) fun _ =>
  spends_map _ (spends_after leaves_year)

theorem spends_slashedName : Spends (· == '/') 2 (slashedName names) :=
  spends_andThen leaves_day.spends fun _ =>
  spends_andThen (spends_after (leaves_monthName names)) fun _ =>
  spends_map _ (spends_after leaves_year)

theorem spends_dottedNumbers : Spends (· == '.') 2 dottedNumbers :=
  spends_andThen leaves_day.spends fun _ =>
  spends_andThen (spends_after (leaves_blanks 0)) fun _ =>
  spends_andThen leaves_month.spends fun _ =>
  spends_andThen (spends_after (leaves_blanks 0)) fun _ => spends_map _ leaves_year.spends

end Names

/-- Digits that are too few for a year are passed over, with what stops them. -/
theorem find?_yearMonthDay_short (mark : Char) (m : Scan MonthText) {stop : Char}
    (digits : ∀ c ∈ cs, isDigit c) (short : cs.length < 4) (apart : isDigit stop = false) :
    (yearMonthDay mark m).find? (cs ++ stop :: rest) = (yearMonthDay mark m).find? rest := by
  rw [List.append_cons]
  refine find?_append fun part within filled => ?_
  obtain ⟨before, whole⟩ := within
  -- The part ends with the stop, and in front of it stand some of the digits.
  obtain ⟨run, last, rfl⟩ : ∃ run last, part = run ++ [last] :=
    ⟨part.dropLast, part.getLast filled, (List.dropLast_append_getLast filled).symm⟩
  rw [← List.append_assoc] at whole
  obtain ⟨front, ends⟩ := List.append_inj' whole rfl
  cases ends
  have some : run <:+ cs := ⟨before, front⟩
  have unread : longYear (run ++ stop :: rest) = [] :=
    longYear_eq_nil (fun c hc => digits c (some.subset hc))
      (Nat.lt_of_le_of_lt some.length_le short) (by simpa using apart)
  unfold yearMonthDay Scan.andThen
  rw [List.append_assoc, List.singleton_append, unread]
  rfl

/-! ## The order of the patterns -/

/-- All patterns in the order in which they are asked. -/
def allPatterns (names : MonthNames) : List Pattern :=
  [⟨monthDayYear names, false⟩, ⟨dayMonthYear names, false⟩, ⟨yearMonthDay '-' month, false⟩,
    ⟨yearMonthDay '.' month, true⟩, ⟨yearMonthDay '-' (monthName names), false⟩,
    ⟨hyphenedName names, false⟩, ⟨yearMonthDay '/' month, false⟩, ⟨slashedNumbers, true⟩,
    ⟨slashedName names, false⟩, ⟨dottedNumbers, true⟩, ⟨yearAlone, false⟩]

theorem mem_byLength {names : List (String × Nat)} {w : List Char} :
    w ∈ byLength names ↔ ∃ name ∈ names, name.1.toList = w := by
  simp only [byLength, List.mem_map, List.mem_mergeSort]
  constructor
  · rintro ⟨_, ⟨name, within, rfl⟩, rfl⟩
    exact ⟨name, within, rfl⟩
  · rintro ⟨name, within, rfl⟩
    exact ⟨name.1, ⟨name, within, rfl⟩, rfl⟩

theorem monthName_unnamed {names : MonthNames} (unnamed : names.isEmpty) :
    monthName names = fun _ => [] := by
  simp only [MonthNames.isEmpty, Bool.and_eq_true, List.isEmpty_iff] at unnamed
  funext cs
  simp [monthName, unnamed, byLength, Scan.map, oneOf]

theorem find?_fails {p : Scan α} (fails : ∀ cs, p cs = []) (cs : List Char) :
    p.find? cs = none := by
  induction cs with
  | nil => rw [Scan.find?, fails]; rfl
  | cons c cs ih => rw [Scan.find?, fails]; exact ih

/-- It makes no difference that the patterns with names are left out if there are none. -/
theorem findSome?_patterns (names : MonthNames) (cs : List Char) (g : Bool → Found → β) :
    (patterns names).findSome? (fun pattern => (pattern.scan.find? cs).map (g pattern.localOrder)) =
      (allPatterns names).findSome? fun pattern =>
        (pattern.scan.find? cs).map (g pattern.localOrder) := by
  by_cases unnamed : names.isEmpty
  · have none : monthName names = fun _ => [] := monthName_unnamed unnamed
    have h1 : (monthDayYear names).find? cs = Option.none :=
      find?_fails (by simp [monthDayYear, none, Scan.andThen]) cs
    have h2 : (dayMonthYear names).find? cs = Option.none :=
      find?_fails (by simp [dayMonthYear, none, Scan.andThen]) cs
    have h3 : (yearMonthDay '-' (monthName names)).find? cs = Option.none :=
      find?_fails (by simp [yearMonthDay, none, after, Scan.andThen]) cs
    have h4 : (hyphenedName names).find? cs = Option.none :=
      find?_fails (by simp [hyphenedName, none, Scan.andThen]) cs
    have h5 : (slashedName names).find? cs = Option.none :=
      find?_fails (by simp [slashedName, none, after, Scan.andThen]) cs
    simp [patterns, allPatterns, unnamed, List.findSome?_cons, h1, h2, h3, h4, h5]
  · simp [patterns, allPatterns, unnamed]

end CiteStyle.DateText

namespace CiteStyle.DateReader

open DateText Text

/-- A reader asks all patterns in order. -/
theorem read?_eq_findSome? (reader : DateReader) {text : String} {cs : List Char}
    (trimmed : trimChars text.toList = cs) :
    reader.read? text = (allPatterns reader.months).findSome? fun pattern =>
      (pattern.scan.find? cs).map (reader.toDate pattern.localOrder) := by
  rw [← findSome?_patterns reader.months cs reader.toDate, ← trimmed]
  rfl

end CiteStyle.DateReader
