-- Pages that are no numbers, such as roman numerals. A convention that goes by
-- numbers leaves them alone, unless the last page is shorter than the first and
-- the letters in front of both are the same: then the start of the first page
-- is put in front of the last one, though no digits are missing there. A minimal
-- convention leaves out what both pages share, be it digits or not.
import CiteStyle.Proofs.PageLiterals
import CiteStyle.Proofs.PageRanges

namespace CiteStyle.Pages

open Text

/-! ## Pages that are read -/

/-- Both pages are numbers, behind the same letters. -/
def Numbered (first last : List Char) : Prop :=
  ∃ letters f l, first = letters ++ f ∧ last = letters ++ l ∧ letters.all isAlphabetic ∧
    isDigits f ∧ isDigits l

/-- What every page that is read is like: there is something to it, and it has no sign. -/
def IsPage (page : List Char) : Prop := page ≠ [] ∧ '+' ∉ page

theorem PageText.isPage {page : List Char} (h : PageText page) : IsPage page := by
  refine ⟨h.ne_nil, fun sign => ?_⟩
  rcases h with rfl | ⟨-, all⟩
  · exact absurd sign (by decide)
  · exact absurd (all '+' sign) (by decide)

theorem isPage_of_read {text : String} {r : Range} (mem : r ∈ read text) {first last : String}
    (ends : r.ends = some (first, last)) : IsPage first.toList ∧ IsPage last.toList := by
  unfold read at mem
  rcases h : ranges? (trimChars text.toList) with _ | rs
  · rw [h, Option.getD_none, List.mem_singleton] at mem
    rw [mem] at ends
    contradiction
  · rw [h, Option.getD_some] at mem
    obtain ⟨es, list, reads⟩ := text_of_ranges? h
    obtain ⟨e, he, reads⟩ := exists_reads reads mem
    obtain ⟨textFirst, textLast⟩ := list.pages e he
    have readFirst := reads.first
    have readLast := reads.last
    rw [Range.first, ends, Option.map_some, Option.some.injEq] at readFirst
    rw [Range.last, ends, Option.map_some, Option.some.injEq] at readLast
    subst readFirst readLast
    rw [String.toList_ofList, String.toList_ofList]
    exact ⟨textFirst.isPage, textLast.isPage⟩

theorem mem_read {text : String} {r : Range}
    (h : rangeAt? (trimChars text.toList) = some (r, [])) : r ∈ read text := by
  unfold read
  rw [ranges?_of_rangeAt? h, Option.getD_some]
  exact List.mem_singleton_self r

/-! ## Letters in front -/

theorem letterPrefix_append_drop (page : List Char) :
    letterPrefix page ++ page.drop (letterPrefix page).length = page := by
  unfold letterPrefix
  split
  · rfl
  · exact List.prefix_iff_eq_append.mp (List.takeWhile_prefix isAlphabetic)

theorem letterPrefix_length_lt {page : List Char} (ne : page ≠ []) :
    (letterPrefix page).length < page.length := by
  unfold letterPrefix
  split
  · exact List.length_pos_iff.mpr ne
  · rename_i notAll
    have whole := List.takeWhile_prefix isAlphabetic (l := page)
    rcases Nat.lt_or_ge (page.takeWhile isAlphabetic).length page.length with lt | ge
    · exact lt
    · have := whole.eq_of_length (Nat.le_antisymm whole.length_le ge)
      exact absurd (this ▸ List.all_takeWhile) notAll

theorem letterPrefix_append_digits {letters digits : List Char} (hl : letters.all isAlphabetic)
    (hd : isDigits digits) : letterPrefix (letters ++ digits) = letters := by
  obtain ⟨ne, all⟩ := isDigits_iff.mp hd
  obtain _ | ⟨c, rest⟩ := digits
  · exact absurd rfl ne
  · simp only [List.all_cons, Bool.and_eq_true] at all
    have hc := isAlphabetic_digit all.1
    unfold letterPrefix
    rw [if_neg (by simp [hc]), List.takeWhile_append_of_pos (List.all_eq_true.mp hl),
      List.takeWhile_cons_of_neg (by simp [hc]), List.append_nil]

theorem all_letterPrefix (page : List Char) : (letterPrefix page).all isAlphabetic := by
  unfold letterPrefix
  split
  · rfl
  · exact List.all_takeWhile

theorem numbered_iff {first last : List Char} :
    Numbered first last ↔ letterPrefix first = letterPrefix last ∧
      isDigits (first.drop (letterPrefix first).length) ∧
      isDigits (last.drop (letterPrefix first).length) := by
  constructor
  · rintro ⟨letters, f, l, rfl, rfl, hletters, hf, hl⟩
    rw [letterPrefix_append_digits hletters hf, letterPrefix_append_digits hletters hl,
      List.drop_left, List.drop_left]
    exact ⟨rfl, hf, hl⟩
  · rintro ⟨same, hf, hl⟩
    refine ⟨letterPrefix first, _, _, (letterPrefix_append_drop first).symm, ?_,
      all_letterPrefix first, hf, hl⟩
    rw [same]
    exact (letterPrefix_append_drop last).symm

instance (first last : List Char) : Decidable (Numbered first last) :=
  decidable_of_iff _ numbered_iff.symm

/-! ## What is kept -/

theorem isDigits_of_readNat? {limit n : Nat} {cs : List Char} (h : readNat? limit cs = some n)
    (sign : '+' ∉ cs) : isDigits cs := by
  unfold readNat? at h
  split at h
  · simp at sign
  · by_contra hd
    simp [readDigits?, hd] at h

/-- Pages that are no numbers are not shortened as numbers. -/
theorem shortenNumber_unnumbered (shortens : Nat → Nat → Bool) {first last : List Char}
    (hf : '+' ∉ first) (hl : '+' ∉ last) (un : ¬Numbered first last) :
    shortenNumber shortens first last = last := by
  unfold shortenNumber sharedLetters?
  by_cases same : letterPrefix first = letterPrefix last
  · simp only [if_pos same]
    split
    · rename_i m n readFirst readLast
      have digitsFirst := isDigits_of_readNat? readFirst fun mem => hf (List.mem_of_mem_drop mem)
      have digitsLast := isDigits_of_readNat? readLast fun mem => hl (List.mem_of_mem_drop mem)
      exact absurd (numbered_iff.mpr ⟨same, digitsFirst, digitsLast⟩) un
    · rw [same]
      exact letterPrefix_append_drop last
  · simp only [if_neg same]

/-- What is put in front of the last page makes no number of it. -/
theorem expand_unnumbered {first last : List Char} (lt : last.length < first.length)
    (ne : last ≠ []) (un : ¬Numbered first last) : ¬Numbered first (expand first last) := by
  intro numbered
  refine un ?_
  unfold expand sharedLetters? at numbered
  by_cases same : letterPrefix first = letterPrefix last
  · simp only [if_pos same] at numbered
    obtain ⟨-, digitsFirst, digits⟩ := numbered_iff.mp numbered
    have short := letterPrefix_length_lt ne
    rw [← same] at short
    have long : (letterPrefix first).length ≤
        (first.take (first.length - (last.drop (letterPrefix first).length).length)).length := by
      simp only [List.length_take, List.length_drop]
      omega
    rw [List.drop_append_of_le_length long] at digits
    have all := (isDigits_iff.mp digits).2
    rw [List.all_append, Bool.and_eq_true] at all
    refine numbered_iff.mpr ⟨same, digitsFirst, isDigits_iff.mpr ⟨?_, all.2⟩⟩
    rw [← List.length_pos_iff, List.length_drop]
    omega
  · simp only [if_neg same] at numbered
    exact numbered

theorem expand_eq_self_iff {first last : List Char} (lt : last.length < first.length) :
    expand first last = last ↔ letterPrefix first ≠ letterPrefix last := by
  unfold expand sharedLetters?
  by_cases same : letterPrefix first = letterPrefix last
  · rw [if_pos same]
    refine ⟨fun h => ?_, fun h => absurd same h⟩
    have length := congrArg List.length h
    simp only [List.length_append, List.length_take, List.length_drop] at length
    omega
  · rw [if_neg same]
    exact ⟨fun _ => same, fun _ => rfl⟩

theorem not_mem_expand {first last : List Char} {c : Char} (hf : c ∉ first) (hl : c ∉ last) :
    c ∉ expand first last := by
  unfold expand
  split
  · exact hl
  · intro mem
    rcases List.mem_append.mp mem with mem | mem
    · exact hf (List.mem_of_mem_take mem)
    · exact hl (List.mem_of_mem_drop mem)

/-! ## What is left out -/

/-- The longest start that two pages share. -/
structure SharedStart (first last shared : List Char) : Prop where
  ofFirst : shared <+: first
  ofLast : shared <+: last
  longest : ∀ start, start <+: first → start <+: last → start <+: shared

theorem le_sharedLength {first last : List Char} {k : Nat} (hf : k ≤ first.length)
    (hl : k ≤ last.length) (same : first.take k = last.take k) : k ≤ sharedLength first last := by
  induction k generalizing first last with
  | zero => omega
  | succ k ih =>
    obtain _ | ⟨a, as⟩ := first
    · simp at hf
    obtain _ | ⟨b, bs⟩ := last
    · simp at hl
    simp only [List.take_succ_cons, List.cons.injEq] at same
    simp only [List.length_cons, Nat.add_le_add_iff_right] at hf hl
    have rest := ih hf hl same.2
    unfold sharedLength
    rw [if_pos same.1]
    omega

theorem sharedStart_take (first last : List Char) :
    SharedStart first last (last.take (sharedLength first last)) where
  ofFirst := by
    rw [← take_sharedLength]
    exact List.take_prefix _ first
  ofLast := List.take_prefix _ last
  longest start ofFirst ofLast := by
    have inFirst := List.prefix_iff_eq_take.mp ofFirst
    have inLast := List.prefix_iff_eq_take.mp ofLast
    have short := le_sharedLength ofFirst.length_le ofLast.length_le (inFirst.symm.trans inLast)
    have within := List.take_prefix_take_left short (l := last)
    rwa [← inLast] at within

theorem sharedLength_take (first last : List Char) (n : Nat) :
    sharedLength (first.take n) last = min n (sharedLength first last) := by
  induction n generalizing first last with
  | zero => simp [sharedLength]
  | succ n ih =>
    cases first with
    | nil => simp [sharedLength]
    | cons a as =>
      cases last with
      | nil => simp [sharedLength]
      | cons b bs =>
        rw [List.take_succ_cons, sharedLength, sharedLength]
        split
        · rw [ih, Nat.succ_min_succ]
        · rw [Nat.min_zero]

/-! ## Pages that are the same -/

theorem replaceHyphens_append (before behind : List Char) (delimiter : String) :
    replaceHyphens (String.ofList (before ++ behind)) delimiter =
      replaceHyphens (String.ofList before) delimiter ++
        replaceHyphens (String.ofList behind) delimiter := by
  unfold replaceHyphens replaceChar
  rw [String.toList_ofList, List.flatMap_append, String.ofList_append]
  simp only [String.toList_ofList]

theorem replaceHyphens_page {page : String} (textPage : PageText page.toList)
    (delimiter : String) : replaceHyphens page delimiter = page := by
  have single : ∀ c ∈ page.toList, (if c = '-' then delimiter.toList else [c]) = [c] := by
    intro c mem
    refine if_neg ?_
    rintro rfl
    exact absurd (textPage.apart mem).2.1 (by decide)
  unfold replaceHyphens replaceChar
  rw [List.flatMap_congr single, List.flatMap_singleton', String.ofList_toList]

/-- Of one page that stands at both ends, a range that is read has the page alone, unless the page
is not known and was written twice. -/
theorem literal_samePage {text : String} {r : Range} (mem : r ∈ read text) {page : String}
    (ends : r.ends = some (page, page)) :
    PageText page.toList ∧
      if r.several ∧ page.toList = unknownPage then
        ∃ dash, DashText dash ∧ r.literal = String.ofList (page.toList ++ (dash ++ page.toList))
      else r.literal = page := by
  rcases spelled_or_ofText mem with spelled | rfl
  · cases spelled with
    | page textPage =>
      obtain rfl : String.ofList _ = page := congrArg Prod.fst (Option.some.inj ends)
      rw [String.toList_ofList, if_neg (by simp [Range.ofPage])]
      exact ⟨textPage, rfl⟩
    | @ends first dash last textFirst textDash textLast =>
      rw [ends_ofEnds, Option.some.injEq, Prod.mk.injEq] at ends
      obtain ⟨rfl, same⟩ := ends
      obtain rfl := String.ofList_injective same
      rw [String.toList_ofList]
      refine ⟨textFirst, ?_⟩
      by_cases unknown : last = unknownPage
      · have several : (Range.ofEnds last dash last).several := by simp [Range.ofEnds, unknown]
        rw [if_pos ⟨several, unknown⟩]
        exact ⟨dash, textDash, by simp [Range.ofEnds, unknown]⟩
      · rw [if_neg fun h => unknown h.2]
        simp [Range.ofEnds, unknown]
  · cases ends

namespace RangeFormat

/-- The convention leaves out whatever the pages share, be it digits or not. -/
def isMinimal : RangeFormat → Bool
  | .minimal | .minimalTwo => true
  | _ => false

/-- Of pages that are no numbers, only one that is shorter than the first is changed. -/
theorem lastPage_unnumbered {f : RangeFormat} (kept : ¬f.isMinimal) {first last : List Char}
    (hf : IsPage first) (hl : IsPage last) (un : ¬Numbered first last) :
    f.lastPage first last = if last.length < first.length then expand first last else last := by
  have shorten : ∀ {last : List Char}, '+' ∉ last → ¬Numbered first last →
      f.shorten first last = last := by
    intro last sign un
    cases f with
    | chicago15 => exact shortenNumber_unnumbered chicago15Shortens hf.2 sign un
    | chicago16 => exact shortenNumber_unnumbered chicago16Shortens hf.2 sign un
    | expanded => rfl
    | minimal => exact absurd rfl kept
    | minimalTwo => exact absurd rfl kept
  unfold lastPage
  by_cases longer : first.length < last.length
  · rw [if_pos longer, if_neg (by omega)]
  · rw [if_neg longer]
    by_cases shorter : last.length < first.length
    · rw [if_pos shorter, if_pos shorter]
      exact shorten (not_mem_expand hf.2 hl.2) (expand_unnumbered shorter hl.1 un)
    · rw [if_neg shorter, if_neg shorter]
      exact shorten hl.2 un

/-- A last page that is not longer than the first is completed, and then shortened. -/
theorem lastPage_eq_shorten (f : RangeFormat) {first last : List Char}
    (le : last.length ≤ first.length) :
    f.lastPage first last = f.shorten first (expanded.lastPage first last) := by
  have longer : ¬first.length < last.length := by omega
  unfold lastPage
  simp only [if_neg longer]
  split <;> rfl

/-- The places of the first page that a minimal convention compares: the one that keeps two places
leaves the last two of them out. -/
def compared (f : RangeFormat) (first : List Char) : List Char :=
  match f with
  | .minimalTwo => first.take (first.length - 2)
  | _ => first

/-- A page that stands at both ends of a range is written once, unless it is not known and was
written twice. -/
theorem format_samePage (f : RangeFormat) (delimiter : String) {text : String} {r : Range}
    (mem : r ∈ read text) {page : String} (ends : r.ends = some (page, page)) :
    if r.several ∧ page.toList = unknownPage then
      ∃ dash, DashText dash ∧ r.literal = String.ofList (page.toList ++ (dash ++ page.toList)) ∧
        f.format delimiter r = page ++ replaceHyphens (String.ofList dash) delimiter ++ page
    else f.format delimiter r = page := by
  obtain ⟨textPage, literal⟩ := literal_samePage mem ends
  have alone := replaceHyphens_page textPage delimiter
  have written : f.format delimiter r = replaceHyphens r.literal delimiter := by
    unfold format
    rw [ends]
    exact if_pos rfl
  rw [written]
  split at literal
  · rename_i twice
    obtain ⟨dash, textDash, literal⟩ := literal
    rw [if_pos twice]
    refine ⟨dash, textDash, literal, ?_⟩
    rw [literal, replaceHyphens_append, replaceHyphens_append, String.ofList_toList, alone,
      String.append_assoc]
  · rename_i once
    rw [if_neg once, literal, alone]

/-- A minimal convention leaves out the start of the completed last page that it shares with the
first; and if it keeps two places, then also the zeros behind this start. -/
theorem lastPage_minimal {f : RangeFormat} (minimal : f.isMinimal) {first last : List Char}
    (le : last.length ≤ first.length) :
    let full := expanded.lastPage first last
    ∃ shared zeros, SharedStart (f.compared first) full shared ∧
      full = shared ++ zeros ++ f.lastPage first last ∧
      if f = .minimalTwo then (∀ c ∈ zeros, c = '0') ∧ (f.lastPage first last).head? ≠ some '0'
      else zeros = [] := by
  intro full
  rw [lastPage_eq_shorten f le]
  have shared := sharedStart_take (f.compared first) full
  cases f with
  | chicago15 | chicago16 | expanded => cases minimal
  | minimal =>
    refine ⟨_, [], shared, ?_, rfl⟩
    rw [List.append_nil]
    exact (List.take_append_drop _ full).symm
  | minimalTwo =>
    have short : minimalTwo.shorten first full =
        (full.drop (sharedLength (minimalTwo.compared first) full)).dropWhile (· == '0') := by
      rw [compared, sharedLength_take]
      rfl
    rw [short]
    refine ⟨_, (full.drop (sharedLength (minimalTwo.compared first) full)).takeWhile (· == '0'),
      shared, ?_, ?_, ?_⟩
    · rw [List.append_assoc, List.takeWhile_append_dropWhile, List.take_append_drop]
    · intro c mem
      simpa using List.all_eq_true.mp List.all_takeWhile c mem
    · intro zero
      exact absurd (head?_dropWhile '0' zero) (by decide)

/-- What becomes of pages that are no numbers. A page that stands at both ends is written once,
unless it is not known and was written twice. Of two pages, a last one that is longer than the first
stands as it was written. In a convention that goes by numbers it also stands if it is as long, or
if the letters in front of the pages differ; else the start of the first page comes in front of it.
A minimal convention then leaves out what the pages share, be it digits or not. -/
theorem format_unnumbered (f : RangeFormat) (delimiter : String) {text : String} {r : Range}
    (mem : r ∈ read text) {first last : String} (ends : r.ends = some (first, last))
    (un : ¬Numbered first.toList last.toList) :
    let written := first ++ delimiter ++ last
    let full := expanded.lastPage first.toList last.toList
    (first = last →
      if r.several ∧ first.toList = unknownPage then
        ∃ dash, DashText dash ∧
          r.literal = String.ofList (first.toList ++ (dash ++ last.toList)) ∧
          f.format delimiter r = first ++ replaceHyphens (String.ofList dash) delimiter ++ last
      else f.format delimiter r = first) ∧
    (first ≠ last →
      (first.toList.length < last.toList.length → f.format delimiter r = written) ∧
      (¬f.isMinimal → (f.format delimiter r = written ↔
        first.toList.length ≤ last.toList.length ∨
          letterPrefix first.toList ≠ letterPrefix last.toList)) ∧
      (f.isMinimal → last.toList.length ≤ first.toList.length →
        ∃ shared zeros second, SharedStart (f.compared first.toList) full shared ∧
          full = shared ++ zeros ++ second ∧
          f.format delimiter r = first ++ delimiter ++ String.ofList second ∧
          if f = .minimalTwo then (∀ c ∈ zeros, c = '0') ∧ second.head? ≠ some '0'
          else zeros = [])) := by
  obtain ⟨hf, hl⟩ := isPage_of_read mem ends
  intro written full
  refine ⟨?_, fun ne => ?_⟩
  · rintro rfl
    exact f.format_samePage delimiter mem ends
  have same : f.format delimiter r = written ↔
      f.lastPage first.toList last.toList = last.toList := by
    rw [format_of_ends f delimiter ends ne, String.append_right_inj, ← String.toList_inj,
      String.toList_ofList]
  refine ⟨fun longer => same.mpr ?_, fun kept => same.trans ?_, fun minimal le => ?_⟩
  · unfold lastPage
    rw [if_pos longer]
  · rw [lastPage_unnumbered kept hf hl un]
    by_cases shorter : last.toList.length < first.toList.length
    · rw [if_pos shorter, expand_eq_self_iff shorter]
      exact ⟨.inr, fun h => h.resolve_left (by omega)⟩
    · rw [if_neg shorter]
      exact ⟨fun _ => .inl (by omega), fun _ => rfl⟩
  · obtain ⟨shared, zeros, start, split, rest⟩ := lastPage_minimal minimal le
    exact ⟨shared, zeros, _, start, split, format_of_ends f delimiter ends ne, rest⟩

/-- A page with a letter in front, and one without. -/
def letteredPages : Range := .ofEnds "N110".toList [' ', '-', ' '] "5".toList

theorem format_unnumbered_lettered :
    letteredPages ∈ read "N110 - 5" ∧ ¬Numbered "N110".toList "5".toList ∧
      chicago16.format "–" letteredPages = "N110–5" := by
  have mem : letteredPages ∈ read "N110 - 5" := mem_read (by decide +kernel)
  have un : ¬Numbered "N110".toList "5".toList := by decide +kernel
  have ends : letteredPages.ends = some ("N110", "5") := ends_ofEnds _ _ _
  have written := ((format_unnumbered chicago16 "–" mem ends un).2 (by decide)).2.1 (by decide)
  exact ⟨mem, un, written.mpr (.inr (by decide +kernel))⟩

/-- Pages in roman numerals. -/
def romanPages : Range := .ofEnds "xii".toList ['-'] "xv".toList

/-- Not only numbers are changed: the last of two pages in roman numerals is, too. -/
theorem format_alters_romans :
    ¬∀ (f : RangeFormat) (delimiter text : String) (r : Range) (first last : String),
      r ∈ read text → r.ends = some (first, last) → first ≠ last →
        ¬Numbered first.toList last.toList → f.format delimiter r = first ++ delimiter ++ last := by
  intro kept
  have mem : romanPages ∈ read "xii-xv" := mem_read (by decide +kernel)
  have un : ¬Numbered "xii".toList "xv".toList := by decide +kernel
  have ends : romanPages.ends = some ("xii", "xv") := ends_ofEnds _ _ _
  have same := kept expanded "–" "xii-xv" romanPages "xii" "xv" mem ends (by decide) un
  have altered : expanded.format "–" romanPages = "xii–xxv" := by decide +kernel
  rw [altered] at same
  exact absurd same (by decide)

end RangeFormat

end CiteStyle.Pages
