-- The literal of pages is a normal form. Dashes and commas are spelled in one way,
-- two pages that are the same become one, and a range with an unknown end keeps its
-- spelling. What was read from a literal has the same literal and the same pages
-- again; only that a single page was written twice is forgotten.
import CiteStyle.Proofs.PageGrammar

namespace CiteStyle.Pages

open Text

/-! ## Ranges that are read -/

namespace Range

/-- A range with the pages that were written, and with the dash if there are two. -/
inductive Spelled : Range → Prop
  | page {page : List Char} (text : PageText page) : Spelled (.ofPage page)
  | ends {first dash last : List Char} (textFirst : PageText first) (textDash : DashText dash)
      (textLast : PageText last) : Spelled (.ofEnds first dash last)

end Range

theorem spelled_of_rangeAt? {cs rest : List Char} {r : Range}
    (h : rangeAt? cs = some (r, rest)) : r.Spelled := by
  unfold rangeAt? at h
  split at h
  · cases h
  · rename_i readFirst
    have textFirst := (text_of_pageAt? readFirst).1
    split at h
    · cases h
      exact .page textFirst
    · rename_i readDash
      split at h
      · cases h
        exact .page textFirst
      · rename_i readLast
        cases h
        exact .ends textFirst (text_of_dashAt? readDash).1 (text_of_pageAt? readLast).1

theorem spelled_of_ranges? {cs : List Char} {rs : List Range} (h : ranges? cs = some rs) :
    rs ≠ [] ∧ ∀ r ∈ rs, r.Spelled := by
  induction cs using ranges?.induct generalizing rs with
  | case1 cs none =>
    rw [ranges?] at h
    split at h <;> simp_all
  | case2 cs r one =>
    obtain rfl : [r] = rs := by simpa [ranges?_of_rangeAt? one] using h
    exact ⟨by simp, by simpa using spelled_of_rangeAt? one⟩
  | case3 cs r c rest more none =>
    rw [ranges?_of_more more, none] at h
    cases h
  | case4 cs r c rest more after comma ih =>
    rw [ranges?_of_more more, comma, Option.bind_some] at h
    obtain ⟨others, readOthers, rfl⟩ := Option.map_eq_some_iff.mp h
    exact ⟨by simp, by simpa using ⟨spelled_of_rangeAt? more, (ih readOthers).2⟩⟩

/-- What is read of a text: ranges, one at least, or the text itself. -/
theorem read_cases (text : String) :
    (∃ rs, ranges? (trimChars text.toList) = some rs ∧ read text = rs ∧ rs ≠ [] ∧
      ∀ r ∈ rs, r.Spelled) ∨ read text = [.ofText text] := by
  unfold read
  cases h : ranges? (trimChars text.toList) with
  | none => exact .inr rfl
  | some rs => exact .inl ⟨rs, rfl, rfl, spelled_of_ranges? h⟩

theorem spelled_or_ofText {text : String} {r : Range} (mem : r ∈ read text) :
    r.Spelled ∨ r = .ofText text := by
  rcases read_cases text with ⟨rs, -, same, -, spelled⟩ | same
  · exact .inl (spelled r (same ▸ mem))
  · exact .inr (List.mem_singleton.mp (same ▸ mem))

/-! ## Normal ranges -/

namespace Range

/-- The literal of a range is an item of the grammar, and is read as this range. -/
def IsNormal (r : Range) : Prop :=
  (∃ e, EntryText e r.literal.toList) ∧
    ∀ rest, EndsEntry rest → rangeAt? (r.literal.toList ++ rest) = some (r, rest)

/-- The same literal and the same pages. -/
def SamePages (r r' : Range) : Prop := r'.literal = r.literal ∧ r'.ends = r.ends

theorem isNormal_ofPage {page : List Char} (text : PageText page) : (ofPage page).IsNormal := by
  have literal : (ofPage page).literal.toList = page := String.toList_ofList
  unfold IsNormal
  rw [literal]
  refine ⟨⟨_, .page text⟩, fun rest follows => ?_⟩
  unfold rangeAt?
  simp [pageAt?_text text follows.stops, follows.noDash]

theorem isNormal_ofEnds {first dash last : List Char} (textFirst : PageText first)
    (textDash : DashText dash) (textLast : PageText last)
    (literal : (ofEnds first dash last).literal.toList = first ++ dash ++ last) :
    (ofEnds first dash last).IsNormal := by
  unfold IsNormal
  rw [literal]
  refine ⟨⟨_, .range textFirst textDash textLast⟩, fun rest follows => ?_⟩
  exact rangeAt?_ofEnds textFirst textDash textLast follows.stops

theorem dashText_hyphen : DashText ['-'] :=
  @DashText.spaced [] ['-'] [] (by decide) (by decide) (by simp [isDash]) (by decide)

theorem literal_ofEnds_unknown {first last : List Char} (dash : List Char)
    (unknown : first = unknownPage ∨ last = unknownPage) :
    (ofEnds first dash last).literal.toList = first ++ dash ++ last := by
  simp [ofEnds, unknown]

theorem literal_ofEnds_known {first last : List Char} (dash : List Char)
    (known : ¬(first = unknownPage ∨ last = unknownPage)) (ne : first ≠ last) :
    (ofEnds first dash last).literal.toList = first ++ ['-'] ++ last := by
  simp [ofEnds, known, ne]

/-- Every range that is read has a normal one with the same literal and the same pages. -/
theorem Spelled.exists_normal {r : Range} (spelled : r.Spelled) :
    ∃ r', r.SamePages r' ∧ r'.IsNormal := by
  cases spelled with
  | page text => exact ⟨_, ⟨rfl, rfl⟩, isNormal_ofPage text⟩
  | @ends first dash last textFirst textDash textLast =>
    by_cases unknown : first = unknownPage ∨ last = unknownPage
    · have literal := literal_ofEnds_unknown dash unknown
      exact ⟨_, ⟨rfl, rfl⟩, isNormal_ofEnds textFirst textDash textLast literal⟩
    · by_cases same : first = last
      · subst same
        have known : first ≠ unknownPage := fun h => unknown (.inl h)
        refine ⟨.ofPage first, ⟨?_, ?_⟩, isNormal_ofPage textFirst⟩
        · simp [ofEnds, ofPage, known]
        · simp [ofEnds, ofPage, known]
      · have literal := literal_ofEnds_known ['-'] unknown same
        refine ⟨.ofEnds first ['-'] last, ⟨?_, ?_⟩,
          isNormal_ofEnds textFirst dashText_hyphen textLast literal⟩
        · rw [← String.toList_inj, literal, literal_ofEnds_known dash unknown same]
        · rw [ends_ofEnds, ends_ofEnds]

end Range

/-! ## Lists -/

theorem literal_cons (r s : Range) (rs : List Range) :
    (literal (r :: s :: rs)).toList = r.literal.toList ++ [',', ' '] ++ (literal (s :: rs)).toList := by
  simp [literal, String.toList_intercalate]

/-- The literal of normal ranges is a list of the grammar, and is read as these ranges. -/
theorem ranges?_literal {rs : List Range} (filled : rs ≠ []) (normal : ∀ r ∈ rs, r.IsNormal) :
    (∃ es, ListText es (literal rs).toList) ∧ ranges? (literal rs).toList = some rs := by
  induction rs with
  | nil => exact absurd rfl filled
  | cons r rs ih =>
    obtain ⟨⟨e, text⟩, read⟩ := normal r List.mem_cons_self
    cases rs with
    | nil =>
      have alone : (literal [r]).toList = r.literal.toList := by simp [literal]
      rw [alone]
      have whole := read [] (.inl rfl)
      rw [List.append_nil] at whole
      exact ⟨⟨[e], .single text⟩, ranges?_of_rangeAt? whole⟩
    | cons s rs =>
      obtain ⟨⟨es, others⟩, readOthers⟩ :=
        ih (by simp) fun r mem => normal r (List.mem_cons_of_mem _ mem)
      rw [literal_cons]
      generalize (literal (s :: rs)).toList = rest at others readOthers
      have comma : CommaText [',', ' '] := @CommaText.spaced [] [' '] (by decide) (by decide)
      refine ⟨⟨e :: es, .more text comma others⟩, ?_⟩
      rw [ranges?_of_comma comma others (read _ (.inr ⟨_, rest, comma, rfl⟩)), readOthers,
        Option.map_some]

theorem exists_normal_list {rs : List Range} (spelled : ∀ r ∈ rs, r.Spelled) :
    ∃ rs', List.Forall₂ Range.SamePages rs rs' ∧ ∀ r ∈ rs', r.IsNormal := by
  induction rs with
  | nil => exact ⟨[], .nil, by simp⟩
  | cons r rs ih =>
    obtain ⟨r', same, normal⟩ := (spelled r List.mem_cons_self).exists_normal
    obtain ⟨rs', sameOthers, normalOthers⟩ := ih fun r mem => spelled r (List.mem_cons_of_mem _ mem)
    exact ⟨r' :: rs', .cons same sameOthers, by simpa using ⟨normal, normalOthers⟩⟩

theorem literal_congr {rs rs' : List Range} (same : List.Forall₂ Range.SamePages rs rs') :
    literal rs' = literal rs := by
  have literals : rs'.map (·.literal) = rs.map (·.literal) := by
    induction same with
    | nil => rfl
    | cons first _ ih => simp [first.1, ih]
  rw [literal, literals, literal]

/-! ## The whole text -/

/-- What is read of the literal has the same literal, as many ranges, and pair by pair the same
first and last pages. -/
theorem read_literal (text : String) :
    let rs := read text
    let again := read (literal rs)
    literal again = literal rs ∧ again.length = rs.length ∧
      List.Forall₂ (fun r r' => r'.first = r.first ∧ r'.last = r.last) rs again := by
  intro rs again
  have same : List.Forall₂ Range.SamePages rs again := by
    rcases read_cases text with ⟨ranges, -, same, filled, spelled⟩ | same
    · obtain ⟨normals, alike, normal⟩ := exists_normal_list spelled
      have filledToo : normals ≠ [] := by
        rintro rfl
        exact filled (List.forall₂_nil_right_iff.mp alike)
      obtain ⟨⟨es, list⟩, readNormals⟩ := ranges?_literal filledToo normal
      have readAgain : again = normals := by
        have spelling : literal rs = literal normals := by
          rw [literal_congr alike]
          exact congrArg literal same
        simp only [again, spelling]
        rw [read, list.trimChars, readNormals, Option.getD_some]
      rw [readAgain, show rs = ranges from same]
      exact alike
    · have readAgain : again = rs := by
        have spelling : literal rs = text := by simp [rs, same, literal, Range.ofText]
        exact congrArg read spelling
      rw [readAgain]
      exact List.forall₂_same.mpr fun r _ => ⟨rfl, rfl⟩
  refine ⟨literal_congr same, same.length_eq.symm, same.imp fun r r' alike => ?_⟩
  simp [Range.first, Range.last, alike.2]

end CiteStyle.Pages
