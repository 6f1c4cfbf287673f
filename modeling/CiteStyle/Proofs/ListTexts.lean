-- Lists and ranges in the fields of a year and of a month: what the pieces between
-- slashes and between dashes are, and from which of them a date is read. A slash
-- always separates; dashes separate only what is not empty.
import CiteStyle.Date.YearMonth
import CiteStyle.Proofs.Runs

namespace CiteStyle

/-! ## Pieces -/

namespace Text

theorem splitWhere_append_cons {p : α → Bool} {mark : α} (marks : p mark) (before behind : List α) :
    splitWhere p (before ++ mark :: behind) = splitWhere p before ++ splitWhere p behind := by
  simp only [splitWhere_eq_splitOnP]
  exact List.splitOnP_append_cons before behind marks

theorem splitWhere_of_free {p : α → Bool} {cs : List α} (free : ∀ c ∈ cs, p c = false) :
    splitWhere p cs = [cs] := by
  rw [splitWhere_eq_splitOnP]
  exact List.splitOnP_eq_singleton free

/-- What stands in a piece stands in the text. -/
theorem mem_of_mem_splitWhere (p : α → Bool) {cs piece : List α} (mem : piece ∈ splitWhere p cs)
    {c : α} (inside : c ∈ piece) : c ∈ cs := by
  induction cs generalizing piece with
  | nil => simp_all [splitWhere]
  | cons d cs ih =>
    rw [splitWhere] at mem
    split at mem
    · rcases List.mem_cons.mp mem with rfl | mem
      · cases inside
      · exact List.mem_cons_of_mem d (ih mem inside)
    · split at mem
      · rw [List.mem_singleton] at mem
        subst mem
        exact List.mem_cons.mpr (.inl (List.mem_singleton.mp inside))
      · rename_i first others same
        rcases List.mem_cons.mp mem with rfl | mem
        · rcases List.mem_cons.mp inside with rfl | inside
          · exact List.mem_cons_self
          · exact List.mem_cons_of_mem d (ih (same ▸ List.mem_cons_self) inside)
        · exact List.mem_cons_of_mem d (ih (same ▸ List.mem_cons_of_mem first mem) inside)

end Text

/-! ## Slashes and dashes -/

namespace Date.YearMonth

open Text

/-- A dash between the ends of a range. -/
def isDash (c : Char) : Bool := c == '-' || c == '–'

/-- A text without dashes. -/
def NoDash (text : String) : Prop := ∀ c ∈ text.toList, isDash c = false

instance (text : String) : Decidable (NoDash text) :=
  decidable_of_iff (text.toList.all (!isDash ·)) (by simp [NoDash])

theorem slashed_of_noSlash {text : String} (free : '/' ∉ text.toList) : slashed text = [text] := by
  have none : ∀ c ∈ text.toList, (c == '/') = false := by
    intro c mem
    exact beq_eq_false_iff_ne.mpr fun same => free (same ▸ mem)
  unfold slashed
  rw [splitWhere_of_free none, List.map_singleton, String.ofList_toList]

theorem slashed_append (before behind : String) :
    slashed (before ++ "/" ++ behind) = slashed before ++ slashed behind := by
  have toList : (before ++ "/" ++ behind).toList = before.toList ++ '/' :: behind.toList := by
    simp
  unfold slashed
  rw [toList, splitWhere_append_cons rfl, List.map_append]

theorem dashed_eq (text : String) :
    dashed text = ((splitWhere isDash text.toList).filter (!·.isEmpty)).map String.ofList := rfl

theorem dashed_of_noDash {text : String} (free : NoDash text) :
    dashed text = if text = "" then [] else [text] := by
  rw [dashed_eq, splitWhere_of_free free]
  by_cases empty : text = ""
  · rw [if_pos empty, empty]
    rfl
  · have filled : text.toList ≠ [] := by simpa [String.toList_eq_nil_iff] using empty
    rw [if_neg empty, List.filter_cons_of_pos (by simpa using filled), List.filter_nil,
      List.map_singleton, String.ofList_toList]

theorem dashed_append {dash : Char} (isDash : isDash dash) (before behind : String) :
    dashed (before ++ dash.toString ++ behind) = dashed before ++ dashed behind := by
  have toList : (before ++ dash.toString ++ behind).toList =
      before.toList ++ dash :: behind.toList := by
    simp
  rw [dashed_eq, toList, splitWhere_append_cons isDash, List.filter_append, List.map_append]
  rfl

/-- The parts of a list have no dashes if the list has none. -/
theorem noDash_of_mem_slashed {text part : String} (free : NoDash text)
    (mem : part ∈ slashed text) : NoDash part := by
  obtain ⟨piece, between, rfl⟩ := List.mem_map.mp mem
  intro c inside
  rw [String.toList_ofList] at inside
  exact free c (mem_of_mem_splitWhere _ between inside)

/-! ## Which pieces are read -/

/-- The parts of a field that may hold a range. -/
def rangeParts (field : Option String) : List String := (field.map dashed).getD []

/-- The parts of a field that may hold a list. -/
def listParts (field : Option String) : List String := (field.map slashed).getD []

theorem length_listParts {text : String} (noSlash : '/' ∉ text.toList) :
    (listParts (some text)).length ≤ 1 := by
  unfold listParts
  rw [Option.map_some, Option.getD_some, slashed_of_noSlash noSlash]
  exact Nat.le_refl 1

theorem length_rangeParts {text : String} (noDash : NoDash text) :
    (rangeParts (some text)).length ≤ 1 := by
  unfold rangeParts
  rw [Option.map_some, Option.getD_some, dashed_of_noDash noDash]
  split
  · exact Nat.zero_le 1
  · exact Nat.le_refl 1

theorem nil_or_single {l : List α} (short : l.length ≤ 1) : l = [] ∨ ∃ a, l = [a] := by
  rcases l with _ | ⟨a, _ | ⟨b, rest⟩⟩
  · exact .inl rfl
  · exact .inr ⟨a, rfl⟩
  · simp at short

theorem short_or_more (l : List α) : l.length ≤ 1 ∨ ∃ a b rest, l = a :: b :: rest := by
  rcases l with _ | ⟨a, _ | ⟨b, rest⟩⟩
  · exact .inl (by simp)
  · exact .inl (by simp)
  · exact .inr ⟨a, b, rest, rfl⟩

section
variable {tables : List MonthNames} {year month : Option String} {first second : String}
  {rest : List String}

theorem range?_years (years : rangeParts year = first :: second :: rest) :
    range? tables year month =
      join (single? tables (some first) none)
        (single? tables (some ((second :: rest).getLast (List.cons_ne_nil second rest))) none) := by
  unfold rangeParts at years
  unfold range?
  simp only [years]

theorem range?_months (years : (rangeParts year).length ≤ 1)
    (months : rangeParts month = first :: second :: rest) :
    range? tables year month =
      join (single? tables year (some first)) (single? tables year (some second)) := by
  unfold range?
  rcases nil_or_single years with none | ⟨y, one⟩
  · rw [rangeParts] at none months
    simp only [none, months]
  · rw [rangeParts] at one months
    simp only [one, months]

theorem range?_single (years : (rangeParts year).length ≤ 1)
    (months : (rangeParts month).length ≤ 1) :
    range? tables year month = single? tables year month := by
  unfold range?
  rcases nil_or_single years with hy | ⟨y, hy⟩ <;>
    rcases nil_or_single months with hm | ⟨m, hm⟩ <;>
    · rw [rangeParts] at hy hm
      simp only [hy, hm]

theorem date?_years (years : listParts year = first :: second :: rest) :
    date? tables year month =
      let d1 := range? tables (some first) none
      let d2 := range? tables
        (some ((second :: rest).getLast (List.cons_ne_nil second rest))) none
      if closeAt 0 d1 d2 then join d1 d2 else range? tables year month := by
  unfold listParts at years
  unfold date?
  simp only [years]

theorem date?_months (years : (listParts year).length ≤ 1)
    (months : listParts month = first :: second :: rest) :
    date? tables year month =
      let d1 := range? tables year (some first)
      let d2 := range? tables year (some second)
      if closeAt 1 d1 d2 then join d1 d2 else range? tables year month := by
  unfold date?
  rcases nil_or_single years with none | ⟨y, one⟩
  · rw [listParts] at none months
    simp only [none, months]
  · rw [listParts] at one months
    simp only [one, months]

theorem date?_range (years : (listParts year).length ≤ 1)
    (months : (listParts month).length ≤ 1) :
    date? tables year month = range? tables year month := by
  unfold date?
  rcases nil_or_single years with hy | ⟨y, hy⟩ <;>
    rcases nil_or_single months with hm | ⟨m, hm⟩ <;>
    · rw [listParts] at hy hm
      simp only [hy, hm]

end

end Date.YearMonth

end CiteStyle
