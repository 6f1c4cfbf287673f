-- Shortened given names and their words. Behind each word that is not whole there is
-- a period, behind each that is whole there is none, and a hyphen stands in front of
-- a word only where one stood before. So the words of a shortened name are found
-- again as they were left, and there is nothing more to shorten.
import CiteStyle.Name.Initials
import CiteStyle.Proofs.Runs
import Mathlib.Data.List.Forall2

namespace CiteStyle.Name

open Text

/-! ## Finding words -/

theorem givenWords_gap {gap : List Char} (seps : ∀ c ∈ gap, separatesGiven c) :
    givenWords gap = [] := by
  have stop : ∀ c ∈ ([] : List Char).head?, separatesGiven c = false := by simp
  have none : gap.dropWhile separatesGiven = [] := by simpa using dropWhile_run seps stop
  rw [givenWords]
  split
  · rfl
  · simp_all

/-- A word behind a gap, in front of a text that ends it. -/
theorem givenWords_word {gap word after : List Char} (seps : ∀ c ∈ gap, separatesGiven c)
    (filled : word ≠ []) (letters : ∀ c ∈ word, separatesGiven c = false)
    (ends : ∀ c ∈ after.head?, separatesGiven c) :
    givenWords (gap ++ (word ++ after)) =
      ⟨gap.any isHyphen, word, after.head? == some '.'⟩ :: givenWords after := by
  obtain ⟨c, cs, rfl⟩ := List.exists_cons_of_ne_nil filled
  rw [List.forall_mem_cons] at letters
  have stop : ∀ d ∈ (c :: cs ++ after).head?, separatesGiven d = false := by
    intro d hd
    rw [List.cons_append, List.head?_cons, Option.mem_some_iff] at hd
    exact hd ▸ letters.1
  have inWord : ∀ d ∈ cs, (!separatesGiven d) = true := by
    intro d hd
    simp [letters.2 d hd]
  have outside : ∀ d ∈ after.head?, (!separatesGiven d) = false := by
    intro d hd
    simp [ends d hd]
  rw [givenWords]
  split
  · rename_i none
    rw [dropWhile_run seps stop] at none
    simp at none
  · rename_i d rest found
    rw [dropWhile_run seps stop, List.cons_append] at found
    obtain ⟨rfl, rfl⟩ := List.cons.inj found
    rw [takeWhile_run seps stop, takeWhile_run inWord outside, dropWhile_run inWord outside]

theorem mem_givenWords {cs : List Char} {w : GivenWord} (mem : w ∈ givenWords cs) :
    w.text ≠ [] ∧ ∀ c ∈ w.text, separatesGiven c = false := by
  induction cs using givenWords.induct with
  | case1 cs none =>
    rw [givenWords] at mem
    split at mem
    · simp at mem
    · simp_all
  | case2 cs c rest found after ih =>
    rw [givenWords] at mem
    split at mem
    · simp at mem
    · rename_i d rest' found'
      rw [found] at found'
      obtain ⟨rfl, rfl⟩ := List.cons.inj found'
      rcases List.mem_cons.mp mem with rfl | later
      · have first : separatesGiven c = false := head?_dropWhile c (by rw [found]; rfl)
        refine ⟨List.cons_ne_nil _ _, List.forall_mem_cons.mpr ⟨first, fun d hd => ?_⟩⟩
        simpa using List.all_eq_true.mp List.all_takeWhile d hd
      · exact ih later

/-! ## Words of shortened names -/

namespace ShortWord

/-- A word that stands in a shortened name: there is a letter in it and no separator, and if it is
whole, it is more than an initial. -/
structure Proper (w : ShortWord) : Prop where
  filled : w.text ≠ []
  letters : ∀ c ∈ w.text, separatesGiven c = false
  long : w.whole → 2 ≤ w.text.length

/-- How a word of a shortened name is found again: with a period behind it unless it is whole. -/
def found (w : ShortWord) : GivenWord := ⟨w.hyphened, w.text, !w.whole⟩

end ShortWord

theorem GivenWord.proper_shorten {w : GivenWord} (filled : w.text ≠ [])
    (letters : ∀ c ∈ w.text, separatesGiven c = false) (keepWords : Bool) :
    (w.shorten keepWords).Proper := by
  unfold shorten
  split
  · exact ⟨filled, letters, by simp⟩
  · rename_i long
    split
    · simp only [Bool.or_eq_true, decide_eq_true_eq, not_or] at long
      refine ⟨filled, letters, fun _ => ?_⟩
      dsimp only
      omega
    · exact ⟨by simpa using filled, fun c mem => letters c (List.mem_of_mem_take mem), by simp⟩

/-- A word that is whole is found whole again, and any other is an initial or an abbreviation. -/
theorem ShortWord.Proper.shorten_found {w : ShortWord} (proper : w.Proper) {keepWords : Bool}
    (kept : w.whole → keepWords) : w.found.shorten keepWords = w := by
  obtain ⟨hyphened, text, whole⟩ := w
  unfold GivenWord.shorten found
  cases whole with
  | false => simp
  | true =>
    have long := proper.long rfl
    have short : ¬text.length ≤ 1 := by
      simp only at long
      omega
    simp [short, kept rfl]

theorem GivenWord.whole_shorten {w : GivenWord} {keepWords : Bool}
    (whole : (w.shorten keepWords).whole) : keepWords := by
  unfold shorten at whole
  split at whole
  · simp at whole
  · split at whole
    · assumption
    · simp at whole

theorem GivenWord.hyphened_shorten (w : GivenWord) (keepWords : Bool) :
    (w.shorten keepWords).hyphened = w.hyphened := by
  unfold shorten
  split
  · rfl
  · split <;> rfl

/-- A word is kept, or cut to its first letter. -/
theorem GivenWord.text_shorten (w : GivenWord) (keepWords : Bool) :
    (w.shorten keepWords).text = if keepWords || w.dotted then w.text else w.text.take 1 := by
  unfold shorten
  by_cases dotted : w.dotted
  · simp [dotted]
  · cases keepWords with
    | true => split <;> simp
    | false =>
      split
      · rename_i short
        simp only [dotted, Bool.or_false, decide_eq_true_eq] at short
        simp [dotted, List.take_of_length_le short]
      · simp [dotted]

/-- The first word of a shortened name is written the same with a hyphen in front and without. -/
theorem joinShort_first (mark : List Char) (w : ShortWord) (hyphened : Bool)
    (rest : List ShortWord) :
    joinShort mark ({ w with hyphened } :: rest) = joinShort mark (w :: rest) := by
  cases rest <;> rfl

/-! ## Joints -/

section Joints

variable {blanks : List Char} (blank : ∀ c ∈ blanks, isBlank c)
include blank

theorem dropEndWhile_period : dropEndWhile isBlank ('.' :: blanks) = ['.'] := by
  have period : ∀ c ∈ ['.'].getLast?, isBlank c = false := by
    intro c last
    obtain rfl : '.' = c := Option.some.inj last
    rfl
  exact dropEndWhile_run blank period

/-- The period behind a word that is not whole comes first, and then what asks for the next word. -/
theorem joint_eq (w next : ShortWord) :
    w.joint ('.' :: blanks) next = (if w.whole then [] else ['.']) ++
      if next.hyphened then ['-'] else if w.whole || next.whole then [' '] else blanks := by
  unfold ShortWord.joint
  rw [dropEndWhile_period blank]
  by_cases hyphened : next.hyphened
  · simp [hyphened]
  · by_cases whole : w.whole
    · simp [hyphened, whole]
    · by_cases next_whole : next.whole <;> simp [hyphened, whole, next_whole]

theorem separatesGiven_blanks : ∀ c ∈ blanks, separatesGiven c ∧ isHyphen c = false := by
  intro c mem
  have hb := blank c mem
  refine ⟨by simp [separatesGiven, hb], Bool.eq_false_iff.mpr fun hyphen => ?_⟩
  simp only [isHyphen, Bool.or_eq_true, beq_iff_eq] at hyphen
  rcases hyphen with rfl | rfl <;> contradiction

theorem separatesGiven_joint (w next : ShortWord) :
    ∀ c ∈ w.joint ('.' :: blanks) next, separatesGiven c := by
  have inBlanks := separatesGiven_blanks blank
  rw [joint_eq blank]
  intro c mem
  rcases List.mem_append.mp mem with mem | mem
  · split at mem
    · simp at mem
    · obtain rfl := List.mem_singleton.mp mem
      rfl
  · split at mem
    · obtain rfl := List.mem_singleton.mp mem
      rfl
    · split at mem
      · obtain rfl := List.mem_singleton.mp mem
        rfl
      · exact (inBlanks c mem).1

/-- A hyphen stands between two words if the second of them has one in front. -/
theorem hyphen_joint (w next : ShortWord) :
    (w.joint ('.' :: blanks) next).any isHyphen = next.hyphened := by
  have inBlanks := separatesGiven_blanks blank
  have period : (if w.whole then [] else ['.']).any isHyphen = false := by
    split <;> rfl
  rw [joint_eq blank, List.any_append, period, Bool.false_or]
  by_cases hyphened : next.hyphened
  · simp [hyphened, isHyphen]
  · have others : (if w.whole || next.whole then [' '] else blanks).any isHyphen = false := by
      split
      · rfl
      · exact List.any_eq_false.mpr fun c mem => by simp [(inBlanks c mem).2]
    rw [if_neg hyphened, others, Bool.eq_false_iff.mpr hyphened]

/-- Right behind a word there is a separator, which is a period unless the word is whole. -/
theorem head_joint (w next : ShortWord) (rest : List Char) :
    ∃ c more, w.joint ('.' :: blanks) next ++ rest = c :: more ∧ separatesGiven c ∧
      (c == '.') = !w.whole := by
  rw [joint_eq blank]
  by_cases whole : w.whole
  · by_cases hyphened : next.hyphened
    · exact ⟨'-', rest, by simp [whole, hyphened], rfl, by simp [whole]⟩
    · exact ⟨' ', rest, by simp [whole, hyphened], rfl, by simp [whole]⟩
  · refine ⟨'.', _, by rw [if_neg whole, List.singleton_append, List.cons_append], rfl, ?_⟩
    simp [whole]

/-- The words of a shortened name behind a gap. -/
theorem givenWords_joinShort {gap : List Char} (seps : ∀ c ∈ gap, separatesGiven c)
    {w : ShortWord} {rest : List ShortWord} (proper : ∀ v ∈ w :: rest, v.Proper) :
    givenWords (gap ++ joinShort ('.' :: blanks) (w :: rest)) =
      { w.found with hyphened := gap.any isHyphen } :: rest.map ShortWord.found := by
  induction rest generalizing gap w with
  | nil =>
    obtain ⟨filled, letters, -⟩ := proper w List.mem_cons_self
    have ends : ∀ c ∈ (if w.whole then [] else ['.']), separatesGiven c := by
      split
      · simp
      · simp [separatesGiven]
    rw [joinShort, dropEndWhile_period blank, givenWords_word seps filled letters, givenWords_gap ends]
    · by_cases whole : w.whole <;> simp [ShortWord.found, whole]
    · intro c mem
      exact ends c (List.mem_of_mem_head? mem)
  | cons next rest ih =>
    rw [List.forall_mem_cons] at proper
    obtain ⟨c, more, starts, ends, period⟩ :=
      head_joint blank w next (joinShort ('.' :: blanks) (next :: rest))
    rw [joinShort, List.append_assoc, givenWords_word seps proper.1.filled proper.1.letters, starts]
    · rw [← starts, ih (separatesGiven_joint blank w next) proper.2, hyphen_joint blank]
      simp [starts, period, ShortWord.found]
    · simp [starts, ends]

end Joints

/-! ## Shortening once and again -/

section Initials

variable (given : String) {mark : String} {blanks : List Char} (keepWords : Bool)
  (stop : mark.toList = '.' :: blanks) (blank : ∀ c ∈ blanks, isBlank c)
include stop blank

/-- The words of a shortened name are those of the name, shortened. No hyphen stands in front of
the first. -/
theorem givenWords_initials :
    givenWords (initials given mark keepWords).toList =
      match (givenWords given.toList).map (·.shorten keepWords) with
      | [] => []
      | w :: rest => { w.found with hyphened := false } :: rest.map ShortWord.found := by
  have proper : ∀ w ∈ (givenWords given.toList).map (·.shorten keepWords), w.Proper := by
    intro w mem
    obtain ⟨u, inside, rfl⟩ := List.mem_map.mp mem
    obtain ⟨filled, letters⟩ := mem_givenWords inside
    exact u.proper_shorten filled letters keepWords
  rw [initials, String.toList_ofList, stop]
  generalize (givenWords given.toList).map (·.shorten keepWords) = words at proper
  cases words with
  | nil => exact givenWords_gap (by simp [joinShort])
  | cons w rest =>
    have noGap : ∀ c ∈ [], separatesGiven c := by simp
    exact givenWords_joinShort blank noGap proper

theorem initials_initials :
    initials (initials given mark keepWords) mark keepWords = initials given mark keepWords := by
  have proper : ∀ w ∈ (givenWords given.toList).map (·.shorten keepWords),
      w.Proper ∧ (w.whole → keepWords) := by
    intro w mem
    obtain ⟨u, inside, rfl⟩ := List.mem_map.mp mem
    obtain ⟨filled, letters⟩ := mem_givenWords inside
    exact ⟨u.proper_shorten filled letters keepWords, GivenWord.whole_shorten⟩
  have again := givenWords_initials given keepWords stop blank
  unfold initials at again ⊢
  rw [again]
  generalize (givenWords given.toList).map (·.shorten keepWords) = words at proper
  cases words with
  | nil => rfl
  | cons w rest =>
    rw [List.forall_mem_cons] at proper
    obtain ⟨⟨⟨filled, letters, long⟩, kept⟩, others⟩ := proper
    -- The first word comes back without the hyphen in front of it, which is not written anyway.
    have unhyphened : ShortWord.Proper { w with hyphened := false } := ⟨filled, letters, long⟩
    have first : GivenWord.shorten keepWords { w.found with hyphened := false } =
        { w with hyphened := false } := unhyphened.shorten_found kept
    have same : (rest.map ShortWord.found).map (·.shorten keepWords) = rest := by
      rw [List.map_map]
      refine (List.map_congr_left fun v mem => ?_).trans (List.map_id rest)
      exact (others v mem).1.shorten_found (others v mem).2
    dsimp only
    rw [List.map_cons, first, same, joinShort_first]

/-- A given name and its initials have the same number of words in the same order, and in front of
every word but the first the same hyphens. Each word is kept as it is if words are kept or a period
stands behind it, and otherwise cut to its first letter. In the initials there is nothing more to
shorten. -/
theorem words_initials :
    List.Forall₂
        (fun u v : GivenWord => v.text = if keepWords || u.dotted then u.text else u.text.take 1)
        (givenWords given.toList) (givenWords (initials given mark keepWords).toList) ∧
      (givenWords (initials given mark keepWords).toList).tail.map GivenWord.hyphened =
        (givenWords given.toList).tail.map GivenWord.hyphened ∧
      initials (initials given mark keepWords) mark keepWords = initials given mark keepWords := by
  have found := givenWords_initials given keepWords stop blank
  refine ⟨?_, ?_, initials_initials given keepWords stop blank⟩
  · rw [found]
    generalize givenWords given.toList = words
    cases words with
    | nil => exact .nil
    | cons u us =>
      refine .cons (u.text_shorten keepWords) ?_
      rw [List.map_map, List.forall₂_map_right_iff, List.forall₂_same]
      exact fun v _ => v.text_shorten keepWords
  · rw [found]
    generalize givenWords given.toList = words
    cases words with
    | nil => rfl
    | cons u us =>
      simp only [List.map_cons, List.tail_cons, List.map_map]
      exact List.map_congr_left fun v _ => v.hyphened_shorten keepWords

end Initials

/-- An initial, an abbreviation and whole words, with white space and hyphens of all kinds. -/
def mixedName : String := " -J.  Cpt. Jean– Luc Picard"

theorem words_initials_mixed :
    ". ".toList = '.' :: [' '] ∧ (∀ c ∈ [' '], isBlank c) ∧
      initials mixedName ". " false = "J. Cpt. J.-L. P." ∧
      List.Forall₂ (fun u v : GivenWord => v.text = if u.dotted then u.text else u.text.take 1)
        (givenWords mixedName.toList) (givenWords "J. Cpt. J.-L. P.".toList) ∧
      (givenWords "J. Cpt. J.-L. P.".toList).tail.map GivenWord.hyphened =
        (givenWords mixedName.toList).tail.map GivenWord.hyphened ∧
      initials "J. Cpt. J.-L. P." ". " false = "J. Cpt. J.-L. P." := by
  have stop : ". ".toList = '.' :: [' '] := rfl
  have blank : ∀ c ∈ [' '], isBlank c := List.forall_mem_singleton.mpr rfl
  have short : initials mixedName ". " false = "J. Cpt. J.-L. P." := by decide +kernel
  obtain ⟨texts, hyphens, again⟩ := words_initials mixedName false stop blank
  rw [short] at texts hyphens again
  exact ⟨stop, blank, short, texts, hyphens, again⟩

end CiteStyle.Name
