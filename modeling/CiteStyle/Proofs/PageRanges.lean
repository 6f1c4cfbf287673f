-- No convention for page ranges loses a page. The digits that one leaves out of
-- the last page stand at the same places of the first, so that they can be put
-- back from there.
import CiteStyle.Pages.RangeFormat
import CiteStyle.Proofs.Digits
import CiteStyle.Proofs.PageGrammar

namespace CiteStyle.Pages

open Text

/-! ## Shared places -/

theorem sharedLength_le (first last : List Char) : sharedLength first last ≤ last.length := by
  induction first generalizing last with
  | nil => simp [sharedLength]
  | cons a as ih =>
    obtain _ | ⟨b, bs⟩ := last
    · simp [sharedLength]
    · have h := ih bs
      unfold sharedLength
      split
      · simp only [List.length_cons]
        omega
      · omega

theorem take_sharedLength (first last : List Char) :
    first.take (sharedLength first last) = last.take (sharedLength first last) := by
  induction first generalizing last with
  | nil => simp [sharedLength]
  | cons a as ih =>
    obtain _ | ⟨b, bs⟩ := last
    · simp [sharedLength]
    · unfold sharedLength
      split
      · rename_i hab
        rw [hab, List.take_succ_cons, List.take_succ_cons, ih bs]
      · rfl

/-- A text leaves out places of the last page at which the first has the same, but not all
places. -/
def Abbreviates (first last short : List Char) : Prop :=
  ∃ k, k < last.length ∧ short = last.drop k ∧ first.take k = last.take k

theorem Abbreviates.self (first : List Char) {last : List Char} (h : last ≠ []) :
    Abbreviates first last last :=
  ⟨0, List.length_pos_iff.mpr h, rfl, rfl⟩

theorem Abbreviates.length_le {first last short : List Char} (h : Abbreviates first last short) :
    short.length ≤ last.length := by
  obtain ⟨k, _, rfl, _⟩ := h
  simp only [List.length_drop]
  omega

theorem Abbreviates.eq_of_length {first last short : List Char} (h : Abbreviates first last short)
    (length : short.length = last.length) : short = last := by
  obtain ⟨k, hk, rfl, _⟩ := h
  simp only [List.length_drop] at length
  have : k = 0 := by omega
  rw [this, List.drop_zero]

theorem Abbreviates.isDigits {first last short : List Char} (h : Abbreviates first last short)
    (digits : last.all isDigit) : isDigits short := by
  obtain ⟨k, hk, rfl, _⟩ := h
  refine isDigits_iff.mpr ⟨?_, all_drop digits k⟩
  rw [← List.length_pos_iff, List.length_drop]
  omega

/-! ## Letters -/

theorem letterPrefix_digits {page : List Char} (h : page.all isDigit) : letterPrefix page = [] := by
  unfold letterPrefix
  split
  · rfl
  · obtain _ | ⟨c, rest⟩ := page
    · rfl
    · simp only [List.all_cons, Bool.and_eq_true] at h
      rw [List.takeWhile_cons_of_neg (by simp [isAlphabetic_digit h.1])]

theorem sharedLetters_digits {first last : List Char} (hf : first.all isDigit)
    (hl : last.all isDigit) : sharedLetters? first last = some [] := by
  unfold sharedLetters?
  rw [letterPrefix_digits hf, letterPrefix_digits hl, if_pos rfl]

/-! ## What the conventions leave out -/

theorem ne_nil_of_lt {first last : List Char} (lt : digitsValue first < digitsValue last) :
    last ≠ [] := by
  rintro rfl
  simp [digitsValue] at lt

section Shorten

variable {first last : List Char} (hf : first.all isDigit) (hl : last.all isDigit)
  (length : first.length = last.length) (lt : digitsValue first < digitsValue last)
include length lt

theorem abbreviates_dropShared : Abbreviates first last (dropShared first last) := by
  refine ⟨sharedLength first last, ?_, rfl, take_sharedLength first last⟩
  by_contra hge
  have hle := sharedLength_le first last
  have hall : sharedLength first last = last.length := by omega
  have same := take_sharedLength first last
  rw [hall, List.take_length, ← length, List.take_length] at same
  rw [same] at lt
  omega

include hf hl

/-- Zeros are left out only where the first page has zeros too. -/
theorem abbreviates_dropSharedButTwo : Abbreviates first last (dropSharedButTwo first last) := by
  unfold dropSharedButTwo
  generalize hs : min (first.length - 2) (sharedLength first last) = shared
  have same : first.take shared = last.take shared := by
    have h := congrArg (List.take shared) (take_sharedLength first last)
    rw [List.take_take, List.take_take] at h
    rwa [Nat.min_eq_left (by omega)] at h
  have length' : (first.drop shared).length = (last.drop shared).length := by
    simp only [List.length_drop, length]
  -- After the shared places the order is the same, and it leaves no zero in front of the last
  -- page that the first page does not have as well.
  have lt' := digitsValue_drop_lt length same lt
  obtain ⟨k, hk, hdrop, htake⟩ :=
    exists_dropWhile_zeros (all_drop hf shared) (all_drop hl shared) length' lt'
  refine ⟨shared + k, ?_, ?_, ?_⟩
  · simp only [List.length_drop] at hk
    omega
  · rw [hdrop, List.drop_drop]
  · rw [List.take_add, List.take_add, same, htake]

theorem abbreviates_shortenNumber (shortens : Nat → Nat → Bool) :
    Abbreviates first last (shortenNumber shortens first last) := by
  have whole := Abbreviates.self first (ne_nil_of_lt lt)
  unfold shortenNumber
  rw [sharedLetters_digits hf hl]
  dsimp only
  split
  · split
    · exact abbreviates_dropSharedButTwo hf hl length lt
    · exact whole
  · exact whole

theorem abbreviates_shorten (f : RangeFormat) : Abbreviates first last (f.shorten first last) := by
  cases f with
  | chicago15 => exact abbreviates_shortenNumber hf hl length lt chicago15Shortens
  | chicago16 => exact abbreviates_shortenNumber hf hl length lt chicago16Shortens
  | expanded => exact Abbreviates.self first (ne_nil_of_lt lt)
  | minimal => exact abbreviates_dropShared length lt
  | minimalTwo => exact abbreviates_dropSharedButTwo hf hl length lt

end Shorten

/-! ## Putting them back -/

theorem expand_digits {first last : List Char} (hf : first.all isDigit) (hl : last.all isDigit) :
    expand first last = first.take (first.length - last.length) ++ last := by
  unfold expand
  rw [sharedLetters_digits hf hl]
  rfl

theorem Abbreviates.expand {first last short : List Char} (h : Abbreviates first last short)
    (hf : first.all isDigit) (hl : last.all isDigit) (length : first.length = last.length) :
    expand first short = last := by
  obtain ⟨k, hk, rfl, same⟩ := h
  rw [expand_digits hf (all_drop hl k), length, List.length_drop]
  have hkeep : last.length - (last.length - k) = k := by omega
  rw [hkeep, same, List.take_append_drop]

/-- The last page with all its digits is as long as the first page or longer. A longer one is
written as it is. -/
theorem lastPage_cases {first last full : List Char} (hf : first.all isDigit)
    (hl : last.all isDigit) (hfull : RangeFormat.expanded.lastPage first last = full) :
    full.all isDigit ∧
      (first.length < full.length ∧ (∀ f : RangeFormat, f.lastPage first last = full) ∨
        first.length = full.length ∧
          ∀ f : RangeFormat, f.lastPage first last = f.shorten first full) := by
  subst hfull
  unfold RangeFormat.lastPage
  rcases Nat.lt_trichotomy first.length last.length with h | h | h
  · simp only [if_pos h]
    exact ⟨hl, .inl ⟨h, fun _ => trivial⟩⟩
  · have h1 : ¬first.length < last.length := by omega
    have h2 : ¬last.length < first.length := by omega
    simp only [if_neg h1, if_neg h2]
    exact ⟨hl, .inr ⟨h, fun _ => rfl⟩⟩
  · have h1 : ¬first.length < last.length := by omega
    simp only [if_neg h1, if_pos h, RangeFormat.shorten, expand_digits hf hl]
    refine ⟨?_, .inr ⟨?_, fun _ => trivial⟩⟩
    · rw [List.all_eq_true] at hf hl ⊢
      intro c hc
      rcases List.mem_append.mp hc with hc | hc
      · exact hf c (List.mem_of_mem_take hc)
      · exact hl c hc
    · simp only [List.length_append, List.length_take]
      omega

/-- However the last page is written, it is a page of digits that is not the first, and all its
digits can be put back. -/
theorem lastPage_lossless (f : RangeFormat) {first last full : List Char}
    (hf : first.all isDigit) (hl : last.all isDigit)
    (hfull : RangeFormat.expanded.lastPage first last = full)
    (lt : digitsValue first < digitsValue full) :
    isDigits (f.lastPage first last) ∧ f.lastPage first last ≠ first ∧
      RangeFormat.expanded.lastPage first (f.lastPage first last) = full := by
  obtain ⟨digits, ⟨hlen, written⟩ | ⟨hlen, written⟩⟩ := lastPage_cases hf hl hfull
  · rw [written f]
    refine ⟨?_, ?_, ?_⟩
    · refine isDigits_iff.mpr ⟨?_, digits⟩
      rintro rfl
      simp at hlen
    · rintro rfl
      omega
    · unfold RangeFormat.lastPage
      rw [if_pos hlen]
  · rw [written f]
    have short := abbreviates_shorten hf digits hlen lt f
    have hle := short.length_le
    refine ⟨short.isDigits digits, ?_, ?_⟩
    · intro same
      have whole := short.eq_of_length (by rw [same, hlen])
      rw [← whole, same] at lt
      omega
    · have h1 : ¬first.length < (f.shorten first full).length := by omega
      unfold RangeFormat.lastPage
      rw [if_neg h1]
      split
      · exact short.expand hf digits hlen
      · exact short.eq_of_length (by omega)

/-! ## Reading a range -/

theorem PageText.of_digits {page : List Char} (h : isDigits page) : PageText page := by
  obtain ⟨filled, digits⟩ := isDigits_iff.mp h
  exact .inr ⟨filled, fun c hc => isAlphanumeric_digit (List.all_eq_true.mp digits c hc)⟩

theorem read_digits {first last : List Char} (hf : isDigits first) (hl : isDigits last) :
    read (String.ofList (first ++ '-' :: last)) = [.ofEnds first ['-'] last] := by
  have textFirst := PageText.of_digits hf
  have textLast := PageText.of_digits hl
  have dash : DashText ['-'] :=
    @DashText.spaced [] ['-'] [] (by decide) (by decide) (by simp [isDash]) (by decide)
  have list : ListText [_] (first ++ ['-'] ++ last) := .single (.range textFirst dash textLast)
  have whole := @rangeAt?_ofEnds _ _ _ [] textFirst dash textLast fun _ hc => absurd hc (by simp)
  have text : first ++ '-' :: last = first ++ ['-'] ++ last := by simp
  rw [List.append_nil] at whole
  unfold read
  rw [String.toList_ofList, text, list.trimChars, ranges?_of_rangeAt? whole, Option.getD_some]

/-! ## Writing a range -/

theorem format_of_ends (f : RangeFormat) (delimiter : String) {r : Range} {first last : String}
    (ends : r.ends = some (first, last)) (ne : first ≠ last) :
    f.format delimiter r =
      first ++ delimiter ++ String.ofList (f.lastPage first.toList last.toList) := by
  unfold RangeFormat.format
  rw [ends]
  exact if_neg ne

namespace RangeFormat

/-- No convention loses a page: what is written is read as a single range from the same first page,
and this range written out is the range that was given written out. -/
theorem format_lossless (f : RangeFormat) {r : Range} {first last : String}
    (ends : r.ends = some (first, last)) (hf : isDigits first.toList) (hl : isDigits last.toList)
    (lt : digitsValue first.toList < digitsValue (expanded.lastPage first.toList last.toList)) :
    ∃ again, read (f.format "-" r) = [again] ∧ again.first = some first ∧
      expanded.format "-" again = expanded.format "-" r := by
  have hne : first ≠ last := by
    rintro rfl
    simp [lastPage, shorten] at lt
  obtain ⟨digits, differs, back⟩ :=
    lastPage_lossless f (isDigits_iff.mp hf).2 (isDigits_iff.mp hl).2 rfl lt
  generalize hshort : f.lastPage first.toList last.toList = short at digits differs back
  have hends := ends_ofEnds first.toList ['-'] short
  refine ⟨.ofEnds first.toList ['-'] short, ?_, ?_, ?_⟩
  · have text : first ++ "-" ++ String.ofList short =
        String.ofList (first.toList ++ '-' :: short) := by
      rw [← String.toList_inj]
      simp
    rw [format_of_ends f "-" ends hne, hshort, text, read_digits hf digits]
  · unfold Range.first
    rw [hends, Option.map_some, String.ofList_toList]
  · have hne' : String.ofList first.toList ≠ String.ofList short := by
      intro h
      exact differs (String.ofList_injective h).symm
    rw [format_of_ends expanded "-" hends hne', format_of_ends expanded "-" ends hne,
      String.toList_ofList, String.toList_ofList, back, String.ofList_toList]

/-- The pages from 101 to 108. -/
def aboveHundred : Range := .ofEnds "101".toList ['-'] "108".toList

/-- The zero in the tens is left out with the hundreds, and put back. -/
theorem format_lossless_zero :
    chicago15.format "-" aboveHundred = "101-8" ∧
      ∃ again, read (chicago15.format "-" aboveHundred) = [again] ∧ again.first = some "101" ∧
        expanded.format "-" again = expanded.format "-" aboveHundred := by
  have written : chicago15.format "-" aboveHundred = "101-8" := by decide +kernel
  exact ⟨written, format_lossless chicago15 (ends_ofEnds _ _ _) (by decide) (by decide) (by decide)⟩

end RangeFormat

end CiteStyle.Pages
