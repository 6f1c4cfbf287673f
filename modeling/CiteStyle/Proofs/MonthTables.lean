-- The table of the months of a locale. Every name stands for the last month
-- that has it, and what the table knows is what the terms of the locale say: a
-- text is looked up in lower case, first among the long names, and then without
-- periods at its end among the short ones.
import CiteStyle.Locale.Months
import Mathlib.Data.List.Induction

namespace CiteStyle

open Text MonthNames

namespace Locale

/-! ## Names of one month -/

/-- The long name of a month, in lower case. -/
def longMonth? (l : Locale) (month : Nat) : Option String :=
  (l.term? (termName month) .long false).map lower

/-- The short name of a month, in lower case and without periods at its end. -/
def shortMonth? (l : Locale) (month : Nat) : Option String :=
  (l.term? (termName month) .short false).map fun name => lower (dropPeriods name)

/-- A month has a text as its name: without white space around it and in lower case it is the long
name of the month, or the short one, apart from periods at the end. -/
def Lists (l : Locale) (month : Nat) (text : String) : Prop :=
  l.longMonth? month = some (lower (trim text)) ∨
    l.shortMonth? month = some (dropPeriods (lower (trim text)))

instance (l : Locale) (month : Nat) (text : String) : Decidable (l.Lists month text) :=
  inferInstanceAs (Decidable (_ ∨ _))

end Locale

namespace MonthNames

/-! ## The table -/

/-- A table of some months by their names. A month without a name is left out. -/
def tabulate (name? : Nat → Option String) (months : List Nat) : List (String × Nat) :=
  months.foldl (fun table month =>
    (name? month).elim table fun name => putEntry name month table) []

variable {name? : Nat → Option String} {months : List Nat}

theorem tabulate_snoc (month : Nat) : tabulate name? (months ++ [month]) =
    (name? month).elim (tabulate name? months) fun name =>
      putEntry name month (tabulate name? months) := by
  rw [tabulate, List.foldl_append]
  rfl

/-- Of several months with one name, the last has it. -/
theorem lookup_tabulate (name : String) : (tabulate name? months).lookup name =
    months.reverse.find? fun month => name? month = some name := by
  induction months using List.reverseRecOn with
  | nil => rfl
  | append_singleton months month ih =>
    rw [tabulate_snoc, List.reverse_append, List.reverse_singleton, List.singleton_append,
      List.find?_cons]
    cases own : name? month with
    | none => simpa using ih
    | some other =>
      rw [Option.elim_some, lookup_putEntry, ih]
      by_cases same : name = other
      · simp [same]
      · simp [same, Ne.symm same]

theorem mem_tabulate {entry : String × Nat} (mem : entry ∈ tabulate name? months) :
    entry.2 ∈ months ∧ name? entry.2 = some entry.1 := by
  induction months using List.reverseRecOn with
  | nil => cases mem
  | append_singleton months month ih =>
    rw [tabulate_snoc] at mem
    have earlier (mem : entry ∈ tabulate name? months) :
        entry.2 ∈ months ++ [month] ∧ name? entry.2 = some entry.1 :=
      ⟨List.mem_append_left _ (ih mem).1, (ih mem).2⟩
    cases own : name? month with
    | none =>
      rw [own] at mem
      exact earlier mem
    | some name =>
      rw [own] at mem
      rcases mem_putEntry mem with rfl | mem
      · exact ⟨by simp, own⟩
      · exact earlier mem

/-- The twelve months. -/
def calendar : List Nat := List.range' 1 12

theorem mem_calendar {month : Nat} : month ∈ calendar ↔ 1 ≤ month ∧ month ≤ 12 := by
  simp only [calendar, List.mem_range'_1]
  omega

theorem foldl_addMonth (l : Locale) (months : List Nat) : months.foldl (addMonth l) {} =
    ⟨tabulate l.longMonth? months, tabulate l.shortMonth? months⟩ := by
  induction months using List.reverseRecOn with
  | nil => rfl
  | append_singleton months month ih =>
    rw [List.foldl_append, ih, tabulate_snoc, tabulate_snoc, List.foldl_cons, List.foldl_nil,
      addMonth, Locale.longMonth?, Locale.shortMonth?]
    cases l.term? (termName month) .long false <;>
      cases l.term? (termName month) .short false <;> rfl

/-- The two halves of the table of a locale. -/
theorem ofLocale_eq (l : Locale) :
    ofLocale l = ⟨tabulate l.longMonth? calendar, tabulate l.shortMonth? calendar⟩ :=
  foldl_addMonth l calendar

theorem mem_long {l : Locale} {entry : String × Nat} (mem : entry ∈ (ofLocale l).long) :
    entry.2 ∈ calendar ∧ l.longMonth? entry.2 = some entry.1 := by
  rw [ofLocale_eq] at mem
  exact mem_tabulate mem

theorem mem_short {l : Locale} {entry : String × Nat} (mem : entry ∈ (ofLocale l).short) :
    entry.2 ∈ calendar ∧ l.shortMonth? entry.2 = some entry.1 := by
  rw [ofLocale_eq] at mem
  exact mem_tabulate mem

/-! ## Looking a text up -/

variable {l : Locale} {text : String} {month : Nat}

theorem find?_ofLocale (l : Locale) (text : String) : (ofLocale l).find? text =
    (calendar.reverse.find? fun month => l.longMonth? month = some (lower (trim text))).or
      (calendar.reverse.find? fun month =>
        l.shortMonth? month = some (dropPeriods (lower (trim text)))) := by
  rw [MonthNames.find?, ofLocale_eq, lookup_tabulate, lookup_tabulate]

/-- The table answers with a month that has the text as its name. -/
theorem lists_of_find? (found : (ofLocale l).find? text = some month) :
    1 ≤ month ∧ month ≤ 12 ∧ l.Lists month text := by
  have listed : month ∈ calendar ∧ l.Lists month text := by
    rw [find?_ofLocale, Option.or_eq_some_iff] at found
    rcases found with long | ⟨-, short⟩
    · have mem := List.mem_of_find?_eq_some long
      have named := List.find?_some long
      exact ⟨List.mem_reverse.mp mem, .inl (by simpa using named)⟩
    · have mem := List.mem_of_find?_eq_some short
      have named := List.find?_some short
      exact ⟨List.mem_reverse.mp mem, .inr (by simpa using named)⟩
  rwa [mem_calendar, and_assoc] at listed

/-- The table has no answer just if no month has the text as its name. -/
theorem find?_ofLocale_eq_none_iff (l : Locale) (text : String) :
    (ofLocale l).find? text = none ↔ ∀ month, 1 ≤ month → month ≤ 12 → ¬l.Lists month text := by
  rw [find?_ofLocale, Option.or_eq_none_iff]
  simp only [List.find?_eq_none, List.mem_reverse, mem_calendar, decide_eq_true_eq, Locale.Lists,
    not_or, and_imp]
  exact ⟨fun ⟨long, short⟩ month low high => ⟨long month low high, short month low high⟩,
    fun h => ⟨fun month low high => (h month low high).1,
      fun month low high => (h month low high).2⟩⟩

end MonthNames

end CiteStyle
