-- A month that is written as a name. The patterns find it letter by letter, by
-- folding, and the table looks it up in lower case. So the month is known to the
-- table if the two ways to disregard the case agree on the text and on the names;
-- but there are texts that a pattern takes for a name and the table does not.
import CiteStyle.Locale.English
import CiteStyle.Proofs.Captures
import CiteStyle.Proofs.MonthTables
import CiteStyle.Proofs.NumberedDates
import Mathlib

namespace CiteStyle

open DateText MonthNames Text

/-! ## Texts that spell a month -/

/-- A text spells a month: it has the letters of its long name, or of its short name with or
without a period, whatever their case. -/
def Locale.Spells (l : Locale) (month : Nat) (text : List Char) : Prop :=
  (∃ name ∈ l.longMonth? month, SameLetters name.toList text) ∨
    ∃ name ∈ l.shortMonth? month, SpellsShort name.toList text

/-- A text that folding makes the same of as lower case does. -/
def Text.FoldsToLower (cs : List Char) : Prop := lowerFrom [] cs = cs.map foldChar

instance (cs : List Char) : Decidable (FoldsToLower cs) := inferInstanceAs (Decidable (_ = _))

/-- Names that folding keeps as they are, without white space around them. -/
def MonthNames.Folded (names : MonthNames) : Prop := ∀ name ∈ names.long ++ names.short,
  name.1.toList.map foldChar = name.1.toList ∧ trimChars name.1.toList = name.1.toList

instance (names : MonthNames) : Decidable names.Folded := inferInstanceAs (Decidable (∀ _ ∈ _, _))

variable {l : Locale} {text : List Char} {month : Nat}

/-- What spells a name of the table spells a month. -/
theorem DateText.Spells.exists_month (spells : DateText.Spells (ofLocale l) text) :
    ∃ month, 1 ≤ month ∧ month ≤ 12 ∧ l.Spells month text := by
  rcases spells with ⟨name, listed, same⟩ | ⟨name, listed, same⟩
  · obtain ⟨mem, own⟩ := mem_long listed
    obtain ⟨low, high⟩ := mem_calendar.mp mem
    exact ⟨name.2, low, high, .inl ⟨name.1, own, same⟩⟩
  · obtain ⟨mem, own⟩ := mem_short listed
    obtain ⟨low, high⟩ := mem_calendar.mp mem
    exact ⟨name.2, low, high, .inr ⟨name.1, own, same⟩⟩

/-! ## Looking the text up -/

/-- A short name does not end with a period. -/
theorem shortMonth_ends {name : String} (own : l.shortMonth? month = some name) :
    ∀ c ∈ name.toList.getLast?, (c == '.') = false := by
  obtain ⟨term, -, rfl⟩ := Option.map_eq_some_iff.mp own
  -- The periods are dropped first, and lower case does not bring any back.
  intro c hc
  refine beq_eq_false_iff_ne.mpr fun period => ?_
  subst period
  rw [lower, String.toList_ofList] at hc
  have ends := lowerFrom_ends hc
  rw [dropPeriods, String.toList_ofList] at ends
  exact absurd (getLast?_dropEndWhile '.' ends) (by simp)

/-- A text that is looked up by its folding. -/
theorem find?_of_folds (names : MonthNames) (folds : FoldsToLower text)
    (trimmed : trimChars (text.map foldChar) = text.map foldChar) :
    names.find? (String.ofList text) = (names.long.lookup (String.ofList (text.map foldChar))).or
      (names.short.lookup (dropPeriods (String.ofList (text.map foldChar)))) := by
  rw [MonthNames.find?, trim, String.toList_ofList, trimChars_of_folded rfl trimmed, lower,
    String.toList_ofList, folds]

theorem spells_of_long (folded : (ofLocale l).Folded)
    (known : (ofLocale l).long.lookup (String.ofList (text.map foldChar)) = some month) :
    l.Spells month text := by
  have listed := mem_of_lookup known
  have kept := (folded _ (List.mem_append_left _ listed)).1
  rw [String.toList_ofList] at kept
  exact .inl ⟨_, (mem_long listed).2, by rw [SameLetters, String.toList_ofList, kept]⟩

/-- Where the names are as folding makes them, and folding makes the same of a text as lower case
does, the table knows a month that the text spells. -/
theorem find?_of_spells (folded : (ofLocale l).Folded) (folds : FoldsToLower text)
    (spells : DateText.Spells (ofLocale l) text) :
    ∃ month, (ofLocale l).find? (String.ofList text) = some month ∧ l.Spells month text := by
  rcases spells with ⟨name, listed, same⟩ | ⟨name, listed, short⟩
  · obtain ⟨kept, trimmed⟩ := folded name (List.mem_append_left _ listed)
    have whole : text.map foldChar = name.1.toList := by rw [← kept, same]
    obtain ⟨month, known⟩ := lookup_of_mem listed
    rw [← String.ofList_toList (s := name.1), ← whole] at known
    refine ⟨month, ?_, spells_of_long folded known⟩
    rw [find?_of_folds _ folds (by rw [whole, trimmed]), known, Option.some_or]
  · obtain ⟨kept, trimmed⟩ := folded name (List.mem_append_right _ listed)
    obtain ⟨word, period, listedPeriod, shape, same⟩ := id short
    have whole : text.map foldChar = name.1.toList ++ period := by
      rw [shape, List.map_append, map_foldChar_period listedPeriod, ← same, kept]
    have trimmed : trimChars (text.map foldChar) = text.map foldChar := by
      rw [whole, trimChars_append_period trimmed listedPeriod]
    rw [find?_of_folds _ folds trimmed]
    -- A short name, with its period or without, may be the long name of some month.
    rcases known : (ofLocale l).long.lookup (String.ofList (text.map foldChar)) with _ | month
    · have ends := shortMonth_ends (mem_short listed).2
      have dropped : dropPeriods (String.ofList (text.map foldChar)) = name.1 := by
        rw [whole, dropPeriods, String.toList_ofList,
          dropEndWhile_append_period ends listedPeriod, String.ofList_toList]
      obtain ⟨month, known⟩ := lookup_of_mem listed
      refine ⟨month, ?_, .inr ⟨name.1, (mem_short (mem_of_lookup known)).2, short⟩⟩
      rw [Option.none_or, dropped, known]
    · exact ⟨month, Option.some_or, spells_of_long folded known⟩

/-! ## Reading -/

namespace DateReader

/-- The name of a month stays the month, for no month is above 12. -/
theorem toDate_name (l : Locale) {found : Found} {name : List Char}
    (named : found.month = some (.name name)) : (ofLocale l).toDate false found =
      ⟨yearNumber found.year, (MonthNames.ofLocale l).find? (String.ofList name),
        found.day.bind (readNat? maxUnsigned32)⟩ := by
  simp only [toDate, named, Bool.and_false, Bool.false_eq_true, if_false, Option.bind_some]
  exact mend_of_le fun month known => (lists_of_find? known).2.1

/-- Where the first pattern that is found captures the name of a month, the text there spells a
month. The date has a month that has the text as its name in lower case, and it has no month just
if there is none. There is one that the text spells if folding agrees with lower case. -/
theorem read?_monthName (l : Locale) (text : String) {localOrder : Bool} {found : Found}
    {name : List Char} (captured : (ofLocale l).captures? text = some (localOrder, found))
    (named : found.month = some (.name name)) :
    (∃ month, 1 ≤ month ∧ month ≤ 12 ∧ l.Spells month name) ∧
    ∃ date, (ofLocale l).read? text = some date ∧
      (∀ month ∈ date.month, 1 ≤ month ∧ month ≤ 12 ∧ l.Lists month (String.ofList name)) ∧
      (date.month = none ↔
        ∀ month, 1 ≤ month → month ≤ 12 → ¬l.Lists month (String.ofList name)) ∧
      ((MonthNames.ofLocale l).Folded → FoldsToLower name →
        ∃ month ∈ date.month, 1 ≤ month ∧ month ≤ 12 ∧ l.Spells month name) := by
  have spells : DateText.Spells (MonthNames.ofLocale l) name :=
    (proper_captures captured).1.month _ named
  have read := read?_of_captures captured
  rw [localOrder_of_name captured named, toDate_name l named] at read
  refine ⟨spells.exists_month, _, read, fun month known => lists_of_find? known,
    find?_ofLocale_eq_none_iff l (String.ofList name), fun folded folds => ?_⟩
  obtain ⟨month, known, spelled⟩ := find?_of_spells folded folds spells
  obtain ⟨low, high, -⟩ := lists_of_find? known
  exact ⟨month, known, low, high, spelled⟩

theorem captures_august : (ofLocale Locale.english).captures? "On AUGUST 12th, 1789" =
    some (false, ⟨.long "1789".toList, some (.name "AUGUST".toList), some "12".toList⟩) := by cbv

theorem read?_monthName_august :
    (ofLocale Locale.english).captures? "On AUGUST 12th, 1789" =
        some (false, ⟨.long "1789".toList, some (.name "AUGUST".toList), some "12".toList⟩) ∧
      (MonthNames.ofLocale Locale.english).Folded ∧ FoldsToLower "AUGUST".toList ∧
      ∃ date, (ofLocale Locale.english).read? "On AUGUST 12th, 1789" = some date ∧
        ∃ month ∈ date.month, 1 ≤ month ∧ month ≤ 12 ∧
          Locale.english.Spells month "AUGUST".toList := by
  have folded : (MonthNames.ofLocale Locale.english).Folded := by decide +kernel
  have folds : FoldsToLower "AUGUST".toList := by decide +kernel
  obtain ⟨-, date, read, -, -, known⟩ := read?_monthName Locale.english _ captures_august rfl
  exact ⟨captures_august, folded, folds, date, read, known folded folds⟩

theorem captures_longS : (ofLocale Locale.english).captures? "12 Auguſt 1789" =
    some (false, ⟨.long "1789".toList, some (.name "Auguſt".toList), some "12".toList⟩) := by cbv

/-- A long s folds to the s of the name, and stays as it is in lower case. -/
theorem read?_drops_august :
    (ofLocale Locale.english).captures? "12 Auguſt 1789" =
        some (false, ⟨.long "1789".toList, some (.name "Auguſt".toList), some "12".toList⟩) ∧
      Locale.english.Spells 8 "Auguſt".toList ∧
      (ofLocale Locale.english).read? "12 Auguſt 1789" = some ⟨some 1789, none, some 12⟩ := by
  refine ⟨captures_longS, .inl ⟨"august", by decide +kernel, by decide +kernel⟩, ?_⟩
  rw [read?_of_captures captures_longS]
  decide +kernel

end DateReader

end CiteStyle
