-- What scanners leave, where they find something, and that there is a year in
-- whatever a pattern for dates finds.
import CiteStyle.DateText.Reader
import Mathlib.Data.List.Infix

namespace CiteStyle.DateText

/-! ## What scanners leave -/

namespace Scan

/-- A scanner leaves an end of the text. -/
def Leaves (p : Scan α) : Prop := ∀ cs a rest, (a, rest) ∈ p cs → rest <:+ cs

variable {p : Scan α} {f : α → Scan β}

theorem leaves_andThen (hp : Leaves p) (hf : ∀ a, Leaves (f a)) : Leaves (andThen p f) := by
  intro cs b rest mem
  obtain ⟨⟨a, middle⟩, first, second⟩ := List.mem_flatMap.mp mem
  exact (hf a middle b rest second).trans (hp cs a middle first)

theorem leaves_map (g : α → β) (hp : Leaves p) : Leaves (Scan.map g p) := by
  intro cs b rest mem
  obtain ⟨⟨a, _⟩, mem, ⟨⟩⟩ := List.mem_map.mp mem
  exact hp cs a rest mem

theorem leaves_optional (hp : Leaves p) : Leaves (optional p) := by
  intro cs o rest mem
  rcases List.mem_append.mp mem with mem | mem
  · obtain ⟨⟨a, _⟩, mem, ⟨⟩⟩ := List.mem_map.mp mem
    exact hp cs a rest mem
  · cases List.mem_singleton.mp mem
    exact List.suffix_rfl

theorem leaves_oneOf {ps : List (Scan α)} (h : ∀ p ∈ ps, Leaves p) : Leaves (oneOf ps) := by
  intro cs a rest mem
  obtain ⟨p, within, mem⟩ := List.mem_flatMap.mp mem
  exact h p within cs a rest mem

theorem leaves_char (c : Char) : Leaves (char c) := by
  intro cs a rest mem
  cases cs with
  | nil => cases mem
  | cons d cs =>
    unfold char at mem
    dsimp only at mem
    split at mem
    · cases List.mem_singleton.mp mem
      exact List.suffix_cons d rest
    · cases mem

theorem leaves_word (w : List Char) : Leaves (word w) := by
  induction w with
  | nil =>
    intro cs a rest mem
    cases List.mem_singleton.mp mem
    exact List.suffix_rfl
  | cons c w ih =>
    intro cs a rest mem
    cases cs with
    | nil => cases mem
    | cons d cs =>
      unfold word at mem
      split at mem
      · obtain ⟨⟨text, _⟩, mem, ⟨⟩⟩ := List.mem_map.mp mem
        exact (ih cs text rest mem).trans (List.suffix_cons d cs)
      · cases mem

theorem leaves_span (digit : Char → Bool) (least most : Nat) : Leaves (span digit least most) := by
  intro cs a rest mem
  obtain ⟨n, -, ⟨⟩⟩ := List.mem_map.mp mem
  exact List.drop_suffix n cs

theorem leaves_blanks (least : Nat) : Leaves (blanks least) := fun cs =>
  leaves_map (fun _ => ()) (leaves_span Text.isBlank least cs.length) cs

/-! ## Where scanners find something -/

theorem find?_isSome_iff (p : Scan α) (cs : List Char) :
    (find? p cs).isSome ↔ ∃ rest, rest <:+ cs ∧ p rest ≠ [] := by
  induction cs with
  | nil => simp [find?, List.suffix_nil, List.head?_eq_none_iff, Option.isSome_iff_ne_none]
  | cons c cs ih =>
    rw [find?]
    rcases read : p (c :: cs) with _ | ⟨⟨a, left⟩, more⟩
    · rw [ih]
      constructor
      · rintro ⟨rest, within, reads⟩
        exact ⟨rest, within.trans (List.suffix_cons c cs), reads⟩
      · rintro ⟨rest, within, reads⟩
        rcases List.suffix_cons_iff.mp within with rfl | within
        · exact absurd read reads
        · exact ⟨rest, within, reads⟩
    · simpa using ⟨c :: cs, List.suffix_rfl, by simp [read]⟩

theorem find?_map (g : α → β) (p : Scan α) (cs : List Char) :
    find? (Scan.map g p) cs = (find? p cs).map g := by
  induction cs with
  | nil => cases read : p [] <;> simp [find?, Scan.map, read]
  | cons c cs ih => cases read : p (c :: cs) <;> simp [find?, Scan.map, read, ih]

/-- Where one scanner reads, another one reads from there or from further on. -/
def Includes (p : Scan α) (q : Scan β) : Prop :=
  ∀ cs, p cs ≠ [] → ∃ rest, rest <:+ cs ∧ q rest ≠ []

theorem Includes.find?_isSome {q : Scan β} (h : Includes p q) {cs : List Char}
    (found : (find? p cs).isSome) : (find? q cs).isSome := by
  obtain ⟨place, within, reads⟩ := (find?_isSome_iff p cs).mp found
  obtain ⟨rest, further, reads⟩ := h place reads
  exact (find?_isSome_iff q cs).mpr ⟨rest, further.trans within, reads⟩

theorem Includes.refl (p : Scan α) : Includes p p := fun cs reads => ⟨cs, List.suffix_rfl, reads⟩

theorem Includes.orElse_left (p q : Scan α) : Includes p (orElse p q) := fun cs reads =>
  ⟨cs, List.suffix_rfl, fun none => reads (List.append_eq_nil_iff.mp none).1⟩

theorem Includes.map {q : Scan γ} (h : Includes p q) (g : α → β) :
    Includes (Scan.map g p) q := fun cs reads =>
  h cs fun none => reads (List.map_eq_nil_iff.mpr none)

theorem Includes.andThen_first {q : Scan γ} (h : Includes p q) (f : α → Scan β) :
    Includes (andThen p f) q := fun cs reads =>
  h cs fun none => reads (by rw [andThen, none]; rfl)

theorem Includes.andThen_second {q : Scan γ} (hp : Leaves p) (h : ∀ a, Includes (f a) q) :
    Includes (andThen p f) q := by
  intro cs reads
  obtain ⟨⟨b, left⟩, mem⟩ := List.exists_mem_of_ne_nil _ reads
  obtain ⟨⟨a, middle⟩, first, second⟩ := List.mem_flatMap.mp mem
  obtain ⟨rest, within, reads⟩ := h a middle (List.ne_nil_of_mem second)
  exact ⟨rest, within.trans (hp cs a middle first), reads⟩

end Scan

/-! ## Years in patterns -/

open Scan

theorem leaves_day : Leaves day := leaves_span _ 1 2

theorem leaves_month : Leaves month := leaves_map _ (leaves_span _ 1 2)

theorem leaves_monthName (names : MonthNames) : Leaves (monthName names) := by
  refine leaves_map _ (leaves_oneOf fun p mem => ?_)
  rcases List.mem_append.mp mem with mem | mem
  · obtain ⟨name, -, rfl⟩ := List.mem_map.mp mem
    exact leaves_word name
  · obtain ⟨name, -, rfl⟩ := List.mem_map.mp mem
    exact leaves_andThen (leaves_word name) fun _ =>
      leaves_map _ (leaves_optional (leaves_char '.'))

theorem leaves_ordinalEnding : Leaves ordinalEnding := by
  refine leaves_oneOf fun p mem => ?_
  obtain ⟨ending, -, rfl⟩ := List.mem_map.mp mem
  exact leaves_word ending.toList

theorem Scan.Includes.after {p : Scan α} {q : Scan β} (h : Includes p q) (mark : Char) :
    Includes (after mark p) q :=
  .andThen_second (leaves_char mark) fun _ => h

theorem leaves_after {p : Scan α} (h : Leaves p) (mark : Char) : Leaves (after mark p) :=
  leaves_andThen (leaves_char mark) fun _ => h

theorem includes_monthDayYear (names : MonthNames) : Includes (monthDayYear names) year :=
  .andThen_second (leaves_monthName names) fun _ => .andThen_second (leaves_blanks 1) fun _ =>
  .andThen_second leaves_day fun _ =>
  .andThen_second (leaves_optional leaves_ordinalEnding) fun _ =>
  .andThen_second (leaves_optional (leaves_andThen (leaves_blanks 0) fun _ => leaves_char ','))
    fun _ =>
  .andThen_second (leaves_blanks 1) fun _ => (Includes.refl year).map _

theorem includes_dayMonthYear (names : MonthNames) : Includes (dayMonthYear names) year :=
  .andThen_second (leaves_optional (leaves_andThen leaves_day fun _ =>
    leaves_andThen (leaves_optional (leaves_char '.')) fun _ => leaves_map _ (leaves_blanks 1)))
    fun _ =>
  .andThen_second (leaves_monthName names) fun _ => .andThen_second (leaves_blanks 1) fun _ =>
  (Includes.refl year).map _

theorem includes_yearMonthDay (mark : Char) (m : Scan MonthText) :
    Includes (yearMonthDay mark m) year :=
  (Includes.orElse_left longYear shortYear).andThen_first _

theorem includes_hyphenedName (names : MonthNames) : Includes (hyphenedName names) year :=
  .andThen_second (leaves_optional (leaves_andThen leaves_day fun _ =>
    leaves_map _ (leaves_char '-'))) fun _ =>
  .andThen_second (leaves_monthName names) fun _ => ((Includes.refl year).after '-').map _

theorem includes_slashedNumbers : Includes slashedNumbers year :=
  .andThen_second leaves_month fun _ => .andThen_second (leaves_after leaves_day '/') fun _ =>
  ((Includes.refl year).after '/').map _

theorem includes_slashedName (names : MonthNames) : Includes (slashedName names) year :=
  .andThen_second leaves_day fun _ =>
  .andThen_second (leaves_after (leaves_monthName names) '/') fun _ =>
  ((Includes.refl year).after '/').map _

theorem includes_dottedNumbers : Includes dottedNumbers year :=
  .andThen_second leaves_day fun _ => .andThen_second (leaves_after (leaves_blanks 0) '.') fun _ =>
  .andThen_second leaves_month fun _ =>
  .andThen_second (leaves_after (leaves_blanks 0) '.') fun _ => (Includes.refl year).map _

theorem includes_yearAlone : Includes yearAlone year := (Includes.refl year).map _

/-- Every pattern reads a year. -/
theorem includes_year {names : MonthNames} {pattern : Pattern} (mem : pattern ∈ patterns names) :
    Includes pattern.scan year := by
  unfold patterns at mem
  by_cases unnamed : names.isEmpty <;>
    simp only [unnamed, if_true, if_false, Bool.false_eq_true, List.nil_append, List.append_nil,
      List.cons_append, List.mem_cons, List.not_mem_nil, or_false] at mem
  · rcases mem with rfl | rfl | rfl | rfl | rfl | rfl
    · exact includes_yearMonthDay '-' month
    · exact includes_yearMonthDay '.' month
    · exact includes_yearMonthDay '/' month
    · exact includes_slashedNumbers
    · exact includes_dottedNumbers
    · exact includes_yearAlone
  · rcases mem with rfl | rfl | rfl | rfl | rfl | rfl | rfl | rfl | rfl | rfl | rfl
    · exact includes_monthDayYear names
    · exact includes_dayMonthYear names
    · exact includes_yearMonthDay '-' month
    · exact includes_yearMonthDay '.' month
    · exact includes_yearMonthDay '-' (monthName names)
    · exact includes_hyphenedName names
    · exact includes_yearMonthDay '/' month
    · exact includes_slashedNumbers
    · exact includes_slashedName names
    · exact includes_dottedNumbers
    · exact includes_yearAlone

end CiteStyle.DateText
