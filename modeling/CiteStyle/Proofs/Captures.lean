-- What the patterns for dates capture. Days and months are numbers of one digit
-- or two, a year has two digits or at least four, and the name of a month is a
-- name of the locale, letter by letter, but for the case of the letters. What a
-- reader answers is made of what the first pattern captures that is found.
import CiteStyle.Proofs.CaseFolding
import CiteStyle.Proofs.DatePatterns

namespace CiteStyle

open Text

namespace DateText

/-! ## What a scanner yields -/

namespace Scan

/-- Whatever a scanner yields has a property. -/
def Yields (good : α → Prop) (p : Scan α) : Prop := ∀ cs a rest, (a, rest) ∈ p cs → good a

variable {good : α → Prop} {fine : β → Prop} {p q : Scan α} {f : α → Scan β}

theorem yields_trivial (p : Scan α) : Yields (fun _ => True) p := fun _ _ _ _ => trivial

theorem Yields.imp {better : α → Prop} (h : Yields good p) (imp : ∀ a, good a → better a) :
    Yields better p := fun cs a rest mem => imp a (h cs a rest mem)

theorem yields_andThen (hp : Yields good p) (hf : ∀ a, good a → Yields fine (f a)) :
    Yields fine (andThen p f) := by
  intro cs b rest mem
  obtain ⟨⟨a, middle⟩, first, second⟩ := List.mem_flatMap.mp mem
  exact hf a (hp cs a middle first) middle b rest second

/-- What the first of two scanners yields does not matter to the second. -/
theorem yields_skip (hf : ∀ a, Yields fine (f a)) : Yields fine (andThen p f) :=
  yields_andThen (yields_trivial p) fun a _ => hf a

theorem yields_map {g : α → β} (h : Yields good p) (imp : ∀ a, good a → fine (g a)) :
    Yields fine (map g p) := by
  intro cs b rest mem
  obtain ⟨⟨a, _⟩, mem, ⟨⟩⟩ := List.mem_map.mp mem
  exact imp a (h cs a rest mem)

theorem yields_optional (h : Yields good p) : Yields (fun o => ∀ a ∈ o, good a) (optional p) := by
  intro cs o rest mem
  rcases List.mem_append.mp mem with mem | mem
  · obtain ⟨⟨a, _⟩, mem, ⟨⟩⟩ := List.mem_map.mp mem
    simpa using h cs a rest mem
  · cases List.mem_singleton.mp mem
    simp

theorem yields_orElse (hp : Yields good p) (hq : Yields good q) : Yields good (orElse p q) := by
  intro cs a rest mem
  rcases List.mem_append.mp mem with mem | mem
  · exact hp cs a rest mem
  · exact hq cs a rest mem

theorem yields_oneOf {ps : List (Scan α)} (h : ∀ p ∈ ps, Yields good p) :
    Yields good (oneOf ps) := by
  intro cs a rest mem
  obtain ⟨p, within, mem⟩ := List.mem_flatMap.mp mem
  exact h p within cs a rest mem

theorem yields_word (w : List Char) : Yields (SameLetters w) (word w) := by
  induction w with
  | nil =>
    intro cs a rest mem
    cases List.mem_singleton.mp mem
    rfl
  | cons c w ih =>
    intro cs a rest mem
    cases cs with
    | nil => cases mem
    | cons d cs =>
      unfold word at mem
      split at mem
      · rename_i same
        obtain ⟨⟨text, _⟩, mem, ⟨⟩⟩ := List.mem_map.mp mem
        have rest := ih cs text rest mem
        unfold SameLetters at rest ⊢
        rw [List.map_cons, List.map_cons, foldChar_of_sameFolded same, rest]
      · cases mem

theorem yields_whole (digit : Char → Bool) (least : Nat) :
    Yields (fun cs => (∀ c ∈ cs, digit c) ∧ least ≤ cs.length) (whole digit least) := by
  intro cs a rest mem
  unfold whole at mem
  dsimp only at mem
  split at mem
  · rename_i enough
    cases List.mem_singleton.mp mem
    exact ⟨List.all_eq_true.mp List.all_takeWhile, enough⟩
  · cases mem

theorem yields_span (digit : Char → Bool) (least most : Nat) :
    Yields (fun cs => (∀ c ∈ cs, digit c) ∧ least ≤ cs.length ∧ cs.length ≤ most)
      (span digit least most) :=
  fun _ _ _ mem => (mem_span mem).2

/-- What is found was yielded. -/
theorem Yields.find? (h : Yields good p) {cs : List Char} {a : α} (found : find? p cs = some a) :
    good a := by
  induction cs with
  | nil =>
    rw [Scan.find?, Option.map_eq_some_iff] at found
    obtain ⟨⟨a, rest⟩, first, rfl⟩ := found
    exact h [] a rest (List.mem_of_head? first)
  | cons c cs ih =>
    rw [Scan.find?] at found
    split at found
    · rename_i rest _ reads
      cases found
      exact h (c :: cs) a rest (by simp [reads])
    · exact ih found

end Scan

open Scan

/-! ## What the patterns capture -/

/-- A year of at least four digits, or of two. -/
def YearText.Proper : YearText → Prop
  | .long digits => (∀ c ∈ digits, isDigit c) ∧ 4 ≤ digits.length
  | .short digits => (∀ c ∈ digits, isDigit c) ∧ digits.length = 2

/-- A text with the letters of a short name, with or without a period. -/
def SpellsShort (name text : List Char) : Prop :=
  ∃ word, ∃ period ∈ optionalPeriod, text = word ++ period ∧ SameLetters name word

/-- A text with the letters of a name, long or short. -/
def Spells (names : MonthNames) (text : List Char) : Prop :=
  (∃ name ∈ names.long, SameLetters name.1.toList text) ∨
    ∃ name ∈ names.short, SpellsShort name.1.toList text

/-- A month in one digit or two, or one of the names. -/
def MonthText.Proper (names : MonthNames) : MonthText → Prop
  | .name text => Spells names text
  | .number digits => ShortNumber digits

/-- The components of a date, each as it has to be. -/
structure Found.Proper (names : MonthNames) (found : Found) : Prop where
  year : found.year.Proper
  month : ∀ m ∈ found.month, m.Proper names
  day : ∀ d ∈ found.day, ShortNumber d

theorem yields_day : Yields ShortNumber day :=
  (yields_span isDigit 1 2).imp fun _ ⟨digits, filled, short⟩ => ⟨digits, filled, short⟩

theorem yields_month (names : MonthNames) : Yields (MonthText.Proper names) month :=
  yields_map yields_day fun _ short => short

theorem yields_longYear : Yields YearText.Proper longYear :=
  yields_map (yields_whole isDigit 4) fun _ long => long

theorem yields_year : Yields YearText.Proper year := by
  refine yields_orElse yields_longYear (yields_skip fun _ => ?_)
  exact yields_map (yields_span isDigit 2 2) fun _ ⟨digits, least, most⟩ =>
    ⟨digits, Nat.le_antisymm most least⟩

section Names

variable (names : MonthNames)

theorem yields_monthName : Yields (MonthText.Proper names) (monthName names) := by
  have spells : Yields (Spells names) (oneOf ((byLength names.long).map word ++
      (byLength names.short).map shortName)) := by
    refine yields_oneOf fun p tried => ?_
    rcases List.mem_append.mp tried with long | short
    · obtain ⟨w, listed, rfl⟩ := List.mem_map.mp long
      obtain ⟨name, within, rfl⟩ := mem_byLength.mp listed
      exact (yields_word _).imp fun text same => .inl ⟨name, within, same⟩
    · obtain ⟨w, listed, rfl⟩ := List.mem_map.mp short
      obtain ⟨name, within, rfl⟩ := mem_byLength.mp listed
      refine yields_andThen (yields_word _) fun text same => ?_
      refine yields_map (yields_trivial _) fun period _ => ?_
      have listed : (if period.isSome then ['.'] else []) ∈ optionalPeriod := by
        cases period <;> simp [optionalPeriod]
      exact .inr ⟨name, within, text, _, listed, rfl, same⟩
  exact yields_map spells fun _ spells => spells

theorem yields_after {good : α → Prop} {p : Scan α} (mark : Char) (h : Yields good p) :
    Yields good (after mark p) := yields_skip fun _ => h

theorem yields_monthDayYear : Yields (Found.Proper names) (monthDayYear names) := by
  refine yields_andThen (yields_monthName names) fun m hm => yields_skip fun _ => ?_
  refine yields_andThen yields_day fun d hd => ?_
  refine yields_skip fun _ => yields_skip fun _ => yields_skip fun _ => ?_
  exact yields_map yields_year fun y hy => ⟨hy, by simpa using hm, by simpa using hd⟩

theorem yields_dayMonthYear : Yields (Found.Proper names) (dayMonthYear names) := by
  have first : Yields ShortNumber (andThen day fun d => andThen (optional (char '.')) fun _ =>
      Scan.map (fun _ => d) (blanks 1)) :=
    yields_andThen yields_day fun d hd => yields_skip fun _ =>
      yields_map (yields_trivial _) fun _ _ => hd
  refine yields_andThen (yields_optional first) fun d hd => ?_
  refine yields_andThen (yields_monthName names) fun m hm => yields_skip fun _ => ?_
  exact yields_map yields_year fun y hy => ⟨hy, by simpa using hm, hd⟩

theorem yields_yearMonthDay (mark : Char) {m : Scan MonthText}
    (h : Yields (MonthText.Proper names) m) :
    Yields (Found.Proper names) (yearMonthDay mark m) := by
  refine yields_andThen yields_longYear fun y hy => ?_
  refine yields_andThen (yields_after mark h) fun m hm => ?_
  exact yields_map (yields_optional (yields_after mark yields_day)) fun d hd =>
    ⟨hy, by simpa using hm, hd⟩

theorem yields_hyphenedName : Yields (Found.Proper names) (hyphenedName names) := by
  have first : Yields ShortNumber (andThen day fun d => Scan.map (fun _ => d) (char '-')) :=
    yields_andThen yields_day fun d hd => yields_map (yields_trivial _) fun _ _ => hd
  refine yields_andThen (yields_optional first) fun d hd => ?_
  refine yields_andThen (yields_monthName names) fun m hm => ?_
  exact yields_map (yields_after '-' yields_year) fun y hy => ⟨hy, by simpa using hm, hd⟩

theorem yields_slashedNumbers : Yields (Found.Proper names) slashedNumbers := by
  refine yields_andThen (yields_month names) fun m hm => ?_
  refine yields_andThen (yields_after '/' yields_day) fun d hd => ?_
  exact yields_map (yields_after '/' yields_year) fun y hy =>
    ⟨hy, by simpa using hm, by simpa using hd⟩

theorem yields_slashedName : Yields (Found.Proper names) (slashedName names) := by
  refine yields_andThen yields_day fun d hd => ?_
  refine yields_andThen (yields_after '/' (yields_monthName names)) fun m hm => ?_
  exact yields_map (yields_after '/' yields_year) fun y hy =>
    ⟨hy, by simpa using hm, by simpa using hd⟩

theorem yields_dottedNumbers : Yields (Found.Proper names) dottedNumbers := by
  refine yields_andThen yields_day fun d hd => yields_skip fun _ => ?_
  refine yields_andThen (yields_month names) fun m hm => yields_skip fun _ => ?_
  exact yields_map yields_year fun y hy => ⟨hy, by simpa using hm, by simpa using hd⟩

theorem yields_yearAlone : Yields (Found.Proper names) yearAlone :=
  yields_map yields_year fun y hy => ⟨hy, by simp, by simp⟩

theorem mem_allPatterns {pattern : Pattern} (mem : pattern ∈ patterns names) :
    pattern ∈ allPatterns names := by
  unfold patterns at mem
  unfold allPatterns
  by_cases unnamed : names.isEmpty
  · simp only [unnamed, if_true, List.nil_append, List.append_nil, List.cons_append,
      List.mem_cons, List.not_mem_nil, or_false] at mem
    rcases mem with rfl | rfl | rfl | rfl | rfl | rfl <;> simp
  · simpa [unnamed] using mem

/-- Whatever pattern is found, it captures the components of a date as they have to be. -/
theorem yields_patterns {pattern : Pattern} (mem : pattern ∈ patterns names) :
    Yields (Found.Proper names) pattern.scan := by
  have all : ∀ pattern ∈ allPatterns names, Yields (Found.Proper names) pattern.scan := by
    simp only [allPatterns, List.forall_mem_cons, List.not_mem_nil, false_implies, implies_true,
      and_true]
    exact ⟨yields_monthDayYear names, yields_dayMonthYear names,
      yields_yearMonthDay names '-' (yields_month names),
      yields_yearMonthDay names '.' (yields_month names),
      yields_yearMonthDay names '-' (yields_monthName names), yields_hyphenedName names,
      yields_yearMonthDay names '/' (yields_month names), yields_slashedNumbers names,
      yields_slashedName names, yields_dottedNumbers names, yields_yearAlone names⟩
  exact all pattern (mem_allPatterns names mem)

/-- Patterns in the order of the locale have numbers only. -/
theorem yields_localOrder {pattern : Pattern} (mem : pattern ∈ patterns names)
    (ordered : pattern.localOrder) : Yields (Found.Proper {}) pattern.scan := by
  have all : ∀ pattern ∈ allPatterns names, pattern.localOrder →
      Yields (Found.Proper {}) pattern.scan := by
    simp only [allPatterns, List.forall_mem_cons, List.not_mem_nil, false_implies, implies_true,
      and_true, true_and, true_implies, Bool.false_eq_true]
    exact ⟨yields_yearMonthDay {} '.' (yields_month {}), yields_slashedNumbers {},
      yields_dottedNumbers {}⟩
  exact all pattern (mem_allPatterns names mem) ordered

end Names

end DateText

/-! ## What a reader goes by -/

namespace DateReader

open DateText

/-- What the first pattern captures that is found in a text, and whether its day and month stand
in the order of the locale. -/
def captures? (reader : DateReader) (text : String) : Option (Bool × Found) :=
  (patterns reader.months).findSome? fun pattern =>
    (pattern.scan.find? (trimChars text.toList)).map fun found => (pattern.localOrder, found)

variable {reader : DateReader} {text : String} {localOrder : Bool} {found : Found}

/-- The date of a text is made of what is captured, and of nothing else. -/
theorem read?_eq_captures (reader : DateReader) (text : String) :
    reader.read? text = (reader.captures? text).map fun (localOrder, found) =>
      reader.toDate localOrder found := by
  unfold read? captures?
  rw [List.map_findSome?]
  refine congrArg (List.findSome? · _) (funext fun pattern => ?_)
  rw [Function.comp_apply, Option.map_map]
  rfl

theorem read?_of_captures (captured : reader.captures? text = some (localOrder, found)) :
    reader.read? text = some (reader.toDate localOrder found) := by
  rw [read?_eq_captures, captured, Option.map_some]

theorem proper_captures (captured : reader.captures? text = some (localOrder, found)) :
    found.Proper reader.months ∧ (localOrder → found.Proper {}) := by
  obtain ⟨pattern, mem, here⟩ := List.exists_of_findSome?_eq_some captured
  obtain ⟨_, reads, ⟨⟩⟩ := Option.map_eq_some_iff.mp here
  exact ⟨(yields_patterns reader.months mem).find? reads,
    fun ordered => (yields_localOrder reader.months mem ordered).find? reads⟩

/-- The name of a month never stands in the order of the locale. -/
theorem localOrder_of_name (captured : reader.captures? text = some (localOrder, found))
    {name : List Char} (named : found.month = some (.name name)) : localOrder = false := by
  refine Bool.eq_false_iff.mpr fun ordered => ?_
  -- Such a pattern captures what it would capture without any names.
  have proper := ((proper_captures captured).2 ordered).month _ named
  rcases proper with ⟨_, listed, -⟩ | ⟨_, listed, -⟩ <;> cases listed

end DateReader

end CiteStyle
