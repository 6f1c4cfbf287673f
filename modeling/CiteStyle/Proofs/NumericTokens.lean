-- Numeric values, their language and their tokens. A value is read in one go, and always with
-- the longest number; nothing is lost by that, since no number can go on behind another one.
-- The scan for tokens takes the longest numbers too but skips whatever it does not know. Both
-- agree, since a scan that has spelled all but the white space has skipped nothing else.
import CiteStyle.Numeric
import CiteStyle.Proofs.Digits
import CiteStyle.Proofs.Runs
import Mathlib.Computability.Language
import Mathlib.Data.List.TakeWhile

namespace CiteStyle.Numeric

open Text
open scoped Computability

/-! ## Tokens that take turns -/

/-- The characters of a token. -/
def Token.chars : Token → List Char
  | .number text => text.toList
  | .separator mark => [mark]

/-- Numbers and separators take turns, and a number comes first and last. -/
inductive Alternating : List Token → Prop
  | single (text : String) : Alternating [.number text]
  | more (text : String) (mark : Char) {ts : List Token} :
      Alternating ts → Alternating (.number text :: .separator mark :: ts)

theorem alternating_separator_iff (text : String) (mark : Char) (ts : List Token) :
    Alternating (.number text :: .separator mark :: ts) ↔ Alternating ts := by
  constructor
  · intro h
    cases h with
    | more _ _ rest => exact rest
  · exact .more text mark

/-- The text of the first number does not matter. -/
theorem Alternating.changeFirst {old : String} {ts : List Token}
    (h : Alternating (.number old :: ts)) (new : String) : Alternating (.number new :: ts) := by
  cases h with
  | single => exact .single new
  | more _ mark rest => exact .more new mark rest

/-! ## One step of the scan -/

/-- White space is neither a part of a number nor a separator. -/
theorem apart_of_blank {c : Char} (h : isBlank c) :
    isPlainLetter c = false ∧ isDigit c = false ∧ isSeparator c = false := by
  have all : (blanks.map Char.ofNat).all fun c =>
      !isPlainLetter c && !isDigit c && !isSeparator c := by decide
  simpa [and_assoc] using of_blank all h

theorem isBlank_separator {c : Char} (h : isSeparator c) : isBlank c = false := by
  refine Bool.eq_false_iff.mpr fun blank => ?_
  rw [(apart_of_blank blank).2.2] at h
  contradiction

/-- A number is what it is found at the start of, and there is no white space in it. -/
theorem numberAt?_eq_some {cs number rest : List Char} (h : numberAt? cs = some (number, rest)) :
    cs = number ++ rest ∧ ∀ c ∈ number, isBlank c = false := by
  simp only [numberAt?] at h
  split at h
  · contradiction
  · simp only [Option.some.injEq, Prod.mk.injEq] at h
    obtain ⟨rfl, rfl⟩ := h
    refine ⟨by simp only [List.append_assoc, List.takeWhile_append_dropWhile], fun c mem => ?_⟩
    refine Bool.eq_false_iff.mpr fun blank => ?_
    obtain ⟨noLetter, noDigit, -⟩ := apart_of_blank blank
    simp only [List.mem_append] at mem
    rcases mem with (mem | mem) | mem
    · simpa [noLetter] using List.all_eq_true.mp List.all_takeWhile c mem
    · simpa [noDigit] using List.all_eq_true.mp List.all_takeWhile c mem
    · simpa [noLetter] using List.all_eq_true.mp List.all_takeWhile c mem

/-- Where neither a letter nor a digit stands, no number starts. -/
theorem numberAt?_eq_none {c : Char} (noLetter : isPlainLetter c = false)
    (noDigit : isDigit c = false) (rest : List Char) : numberAt? (c :: rest) = none := by
  simp [numberAt?, noLetter, noDigit]

theorem numberAt?_blank {c : Char} (h : isBlank c) (rest : List Char) :
    numberAt? (c :: rest) = none :=
  numberAt?_eq_none (apart_of_blank h).1 (apart_of_blank h).2.1 rest

theorem apart_of_separator {c : Char} (h : isSeparator c) :
    isPlainLetter c = false ∧ isDigit c = false := by
  unfold isSeparator at h
  simp only [Bool.or_eq_true, beq_iff_eq] at h
  rcases h with (rfl | rfl) | rfl <;> decide

theorem numberAt?_separator {c : Char} (h : isSeparator c) (rest : List Char) :
    numberAt? (c :: rest) = none :=
  numberAt?_eq_none (apart_of_separator h).1 (apart_of_separator h).2 rest

theorem tokensOf_nil : tokensOf [] = [] := by
  rw [tokensOf]
  rfl

theorem tokensOf_number {cs number rest : List Char} (h : numberAt? cs = some (number, rest)) :
    tokensOf cs = .number (String.ofList number) :: tokensOf rest := by
  rw [tokensOf]
  split <;> simp_all

theorem tokensOf_none {c : Char} {rest : List Char} (h : numberAt? (c :: rest) = none) :
    tokensOf (c :: rest) =
      if isSeparator c then .separator c :: tokensOf rest else tokensOf rest := by
  rw [tokensOf]
  split <;> simp_all

theorem tokensOf_separator {c : Char} (h : isSeparator c) (rest : List Char) :
    tokensOf (c :: rest) = .separator c :: tokensOf rest := by
  rw [tokensOf_none (numberAt?_separator h rest), if_pos h]

/-! ## Scans that skip white space only -/

/-- The characters of a text that are not white space. -/
def shown (cs : List Char) : List Char := cs.filter (!isBlank ·)

/-- The tokens of a text have all its characters but the white space. -/
def Spelled (cs : List Char) : Prop := (tokensOf cs).flatMap Token.chars = shown cs

theorem shown_number {number : List Char} (h : ∀ c ∈ number, isBlank c = false)
    (rest : List Char) : shown (number ++ rest) = number ++ shown rest := by
  unfold shown
  rw [List.filter_append, List.filter_eq_self.mpr (by simpa using h)]

theorem shown_blank {c : Char} (h : isBlank c) (rest : List Char) :
    shown (c :: rest) = shown rest := by
  simp [shown, h]

theorem shown_other {c : Char} (h : isBlank c = false) (rest : List Char) :
    shown (c :: rest) = c :: shown rest := by
  simp [shown, h]

theorem spelled_nil : Spelled [] := by
  rw [Spelled, tokensOf_nil]
  rfl

theorem spelled_number {cs number rest : List Char} (h : numberAt? cs = some (number, rest)) :
    Spelled cs ↔ Spelled rest := by
  obtain ⟨rfl, noBlank⟩ := numberAt?_eq_some h
  unfold Spelled
  rw [tokensOf_number h, shown_number noBlank, List.flatMap_cons, Token.chars,
    String.toList_ofList, List.append_cancel_left_eq]

theorem spelled_separator {c : Char} (h : isSeparator c) (rest : List Char) :
    Spelled (c :: rest) ↔ Spelled rest := by
  unfold Spelled
  rw [tokensOf_separator h, shown_other (isBlank_separator h), List.flatMap_cons, Token.chars,
    List.singleton_append, List.cons_inj_right]

theorem tokensOf_blank {c : Char} (h : isBlank c) (rest : List Char) :
    tokensOf (c :: rest) = tokensOf rest := by
  rw [tokensOf_none (numberAt?_blank h rest), if_neg (by simp [(apart_of_blank h).2.2])]

theorem tokensOf_dropWhile (cs : List Char) : tokensOf (cs.dropWhile isBlank) = tokensOf cs := by
  induction cs with
  | nil => rfl
  | cons c rest ih =>
    cases blank : isBlank c with
    | true => rw [List.dropWhile_cons_of_pos blank, ih, tokensOf_blank blank]
    | false => rw [List.dropWhile_cons_of_neg (by simp [blank])]

theorem spelled_dropWhile (cs : List Char) : Spelled (cs.dropWhile isBlank) ↔ Spelled cs := by
  unfold Spelled
  rw [tokensOf_dropWhile]
  induction cs with
  | nil => rfl
  | cons c rest ih =>
    cases blank : isBlank c with
    | true => rw [List.dropWhile_cons_of_pos blank, shown_blank blank, tokensOf_blank blank, ih]
    | false => rw [List.dropWhile_cons_of_neg (by simp [blank])]

/-- The scan writes nothing that is not in the text. -/
theorem length_tokens_le (cs : List Char) :
    ((tokensOf cs).flatMap Token.chars).length ≤ (shown cs).length := by
  induction cs using tokensOf.induct with
  | case1 cs number rest h ih =>
    obtain ⟨rfl, noBlank⟩ := numberAt?_eq_some h
    rw [tokensOf_number h, shown_number noBlank, List.flatMap_cons, Token.chars,
      String.toList_ofList, List.length_append, List.length_append]
    omega
  | case2 h => simp [tokensOf_nil]
  | case3 c rest h separates ih =>
    rw [tokensOf_separator separates, shown_other (isBlank_separator separates), List.flatMap_cons,
      Token.chars, List.singleton_append, List.length_cons, List.length_cons]
    omega
  | case4 c rest h other ih =>
    rw [tokensOf_none h, if_neg other]
    have le : (shown rest).length ≤ (shown (c :: rest)).length :=
      ((List.sublist_cons_self c rest).filter _).length_le
    omega

/-- A character that is skipped and is not white space is missed. -/
theorem not_spelled {c : Char} {rest : List Char} (noBlank : isBlank c = false)
    (noNumber : numberAt? (c :: rest) = none) (noSeparator : isSeparator c = false) :
    ¬Spelled (c :: rest) := by
  intro spelled
  have le := length_tokens_le rest
  unfold Spelled at spelled
  rw [tokensOf_none noNumber, if_neg (by simp [noSeparator]), shown_other noBlank] at spelled
  rw [spelled, List.length_cons] at le
  omega

/-! ## Numeric values -/

/-- A text that is spelled, with tokens that take turns, starts with a number behind its white
space. -/
theorem exists_number {cs : List Char} (spelled : Spelled cs) (turns : Alternating (tokensOf cs)) :
    ∃ number after, numberAt? (cs.dropWhile isBlank) = some (number, after) := by
  rw [← spelled_dropWhile] at spelled
  rw [← tokensOf_dropWhile] at turns
  have outside : ∀ c ∈ (cs.dropWhile isBlank).head?, isBlank c = false := head?_dropWhile
  generalize cs.dropWhile isBlank = ds at spelled turns outside
  cases ds with
  | nil =>
    rw [tokensOf_nil] at turns
    contradiction
  | cons c rest =>
    cases found : numberAt? (c :: rest) with
    | some pair => exact ⟨pair.1, pair.2, rfl⟩
    | none =>
      cases separates : isSeparator c with
      | true =>
        rw [tokensOf_separator separates] at turns
        contradiction
      | false => exact absurd spelled (not_spelled (outside c rfl) found separates)

/-- What may follow a number: it is spelled, and its tokens take turns with the number. -/
def GoesOn (cs : List Char) : Prop :=
  Spelled cs ∧ ∀ text, Alternating (.number text :: tokensOf cs)

/-- A number and what may follow it are spelled by tokens that take turns. -/
theorem exists_number_iff (cs : List Char) :
    (∃ number after, numberAt? (cs.dropWhile isBlank) = some (number, after) ∧ GoesOn after) ↔
      Spelled cs ∧ Alternating (tokensOf cs) := by
  constructor
  · rintro ⟨number, after, found, spelled, turns⟩
    rw [← spelled_dropWhile, ← tokensOf_dropWhile, spelled_number found, tokensOf_number found]
    exact ⟨spelled, turns _⟩
  · rintro ⟨spelled, turns⟩
    obtain ⟨number, after, found⟩ := exists_number spelled turns
    rw [← spelled_dropWhile, spelled_number found] at spelled
    rw [← tokensOf_dropWhile, tokensOf_number found] at turns
    exact ⟨number, after, found, spelled, fun text => turns.changeFirst text⟩

theorem goesOn_separator {c : Char} (separates : isSeparator c) (rest : List Char) :
    GoesOn (c :: rest) ↔ Spelled rest ∧ Alternating (tokensOf rest) := by
  unfold GoesOn
  rw [spelled_separator separates, tokensOf_separator separates]
  simp only [alternating_separator_iff, forall_const]

theorem not_goesOn {c : Char} {rest : List Char} (noBlank : isBlank c = false)
    (noSeparator : isSeparator c = false) : ¬GoesOn (c :: rest) := by
  rintro ⟨spelled, turns⟩
  cases found : numberAt? (c :: rest) with
  | some pair =>
    have turns := turns ""
    rw [tokensOf_number found] at turns
    contradiction
  | none => exact not_spelled noBlank found noSeparator spelled

theorem goesOn_dropWhile (cs : List Char) : GoesOn (cs.dropWhile isBlank) ↔ GoesOn cs := by
  unfold GoesOn
  rw [spelled_dropWhile, tokensOf_dropWhile]

theorem goesOn_nil : GoesOn [] := by
  refine ⟨spelled_nil, fun text => ?_⟩
  rw [tokensOf_nil]
  exact .single text

theorem continuesList_blank {cs : List Char} (none : cs.dropWhile isBlank = []) :
    continuesList cs := by
  rw [continuesList]
  split <;> simp_all

theorem continuesList_cons {cs rest : List Char} {c : Char}
    (first : cs.dropWhile isBlank = c :: rest) :
    continuesList cs =
      (isSeparator c && (numberAt? (rest.dropWhile isBlank)).any (continuesList ·.2)) := by
  rw [continuesList]
  split
  · simp_all
  · rename_i same
    rw [first, List.cons.injEq] at same
    obtain ⟨rfl, rfl⟩ := same
    split <;> simp_all

/-- What may follow a number is found step by step: it is all white space, or it goes on with a
separator and another number. -/
theorem continuesList_iff_of {P : List Char → Prop}
    (blank : ∀ {cs}, cs.dropWhile isBlank = [] → P cs)
    (step : ∀ {cs c rest}, cs.dropWhile isBlank = c :: rest →
      (P cs ↔ isSeparator c ∧ ∃ number after,
        numberAt? (rest.dropWhile isBlank) = some (number, after) ∧ P after))
    (cs : List Char) : continuesList cs ↔ P cs := by
  induction cs using continuesList.induct with
  | case1 cs none => exact iff_of_true (continuesList_blank none) (blank none)
  | case2 cs c rest first ih =>
    rw [continuesList_cons first, step first, Bool.and_eq_true, Option.any_eq_true]
    refine and_congr_right fun _ => ⟨?_, ?_⟩
    · rintro ⟨⟨number, after⟩, found, goesOn⟩
      exact ⟨number, after, found, (ih number after found).mp goesOn⟩
    · rintro ⟨number, after, found, goesOn⟩
      exact ⟨(number, after), found, (ih number after found).mpr goesOn⟩

theorem isNumeric_iff_exists (value : String) :
    isNumeric value ↔
      ∃ number after, numberAt? (value.toList.dropWhile isBlank) = some (number, after) ∧
        continuesList after := by
  unfold isNumeric
  split
  · rename_i number after found
    simp [found]
  · rename_i none
    simp [none]

theorem continuesList_iff (cs : List Char) : continuesList cs ↔ GoesOn cs := by
  refine continuesList_iff_of (fun {cs} none => ?_) (fun {cs c rest} first => ?_) cs
  · rw [← goesOn_dropWhile, none]
    exact goesOn_nil
  · have noBlank : isBlank c = false := head?_dropWhile c (by rw [first]; rfl)
    rw [← goesOn_dropWhile, first]
    cases separates : isSeparator c with
    | false => exact iff_of_false (not_goesOn noBlank separates) (by simp)
    | true =>
      rw [goesOn_separator separates, ← exists_number_iff]
      exact (and_iff_right rfl).symm

/-- A value is numeric exactly if its numbers and separators take turns, with a number first and
last, and have all characters of the value but the white space. -/
theorem isNumeric_iff_alternating (value : String) :
    isNumeric value ↔
      Alternating (tokens value) ∧
        (tokens value).flatMap Token.chars = value.toList.filter (!isBlank ·) := by
  rw [isNumeric_iff_exists]
  simp only [continuesList_iff]
  rw [exists_number_iff, and_comm]
  rfl

/-! ## The language of numeric values -/

/-- One character of a class. -/
def oneOf (p : Char → Bool) : Language Char := {cs | ∃ c, p c ∧ cs = [c]}

/-- White space, or nothing. -/
def gaps : Language Char := (oneOf isBlank)∗

/-- One digit or more, with letters in front and behind. -/
def numbers : Language Char :=
  (oneOf isPlainLetter)∗ * (oneOf isDigit * (oneOf isDigit)∗) * (oneOf isPlainLetter)∗

/-- What may follow a number: further numbers, each behind a separator. -/
def continuations : Language Char := (gaps * oneOf isSeparator * gaps * numbers)∗ * gaps

/-- Numbers with one separator between neighbours, and white space around each of them. -/
def numericValues : Language Char := gaps * numbers * continuations

theorem mem_kstar_oneOf {p : Char → Bool} {cs : List Char} :
    cs ∈ (oneOf p)∗ ↔ ∀ c ∈ cs, p c := by
  rw [Language.mem_kstar]
  constructor
  · rintro ⟨pieces, rfl, single⟩ c mem
    obtain ⟨piece, listed, inside⟩ := List.mem_flatten.mp mem
    obtain ⟨d, kept, rfl⟩ := single piece listed
    rwa [List.mem_singleton.mp inside]
  · intro all
    refine ⟨cs.map fun c => [c], ?_, fun piece listed => ?_⟩
    · rw [← List.flatMap_def, List.flatMap_singleton']
    · obtain ⟨c, mem, rfl⟩ := List.mem_map.mp listed
      exact ⟨c, all c mem, rfl⟩

theorem mem_gaps {cs : List Char} : cs ∈ gaps ↔ ∀ c ∈ cs, isBlank c := mem_kstar_oneOf

theorem takeWhile_mem_gaps (cs : List Char) : cs.takeWhile isBlank ∈ gaps :=
  mem_gaps.mpr (List.all_eq_true.mp List.all_takeWhile)

theorem mem_numbers {cs : List Char} :
    cs ∈ numbers ↔ ∃ front digits back, cs = front ++ (digits ++ back) ∧
      (∀ c ∈ front, isPlainLetter c) ∧ digits ≠ [] ∧ (∀ c ∈ digits, isDigit c) ∧
      ∀ c ∈ back, isPlainLetter c := by
  simp only [numbers, Language.mem_mul, mem_kstar_oneOf]
  constructor
  · rintro ⟨_, ⟨front, letters, _, ⟨_, ⟨d, digit, rfl⟩, ds, digits, rfl⟩, rfl⟩, back, others, rfl⟩
    refine ⟨front, d :: ds, back, by simp, letters, by simp, ?_, others⟩
    exact List.forall_mem_cons.mpr ⟨digit, digits⟩
  · rintro ⟨front, digits, back, rfl, letters, filled, all, others⟩
    obtain ⟨d, ds, rfl⟩ := List.exists_cons_of_ne_nil filled
    obtain ⟨digit, all⟩ := List.forall_mem_cons.mp all
    refine ⟨front ++ d :: ds, ⟨front, letters, d :: ds, ?_, rfl⟩, back, others, by simp⟩
    exact ⟨[d], ⟨d, digit, rfl⟩, ds, all, rfl⟩

theorem isPlainLetter_digit {c : Char} (digit : isDigit c) : isPlainLetter c = false := by
  have all : digits.all (!isPlainLetter ·) := by decide
  simpa using of_digit all digit

theorem isDigit_plainLetter {c : Char} (letter : isPlainLetter c) : isDigit c = false :=
  Bool.eq_false_iff.mpr fun digit => absurd letter (by simp [isPlainLetter_digit digit])

theorem mem_numbers_of_numberAt? {cs number rest : List Char}
    (found : numberAt? cs = some (number, rest)) : number ∈ numbers := by
  simp only [numberAt?] at found
  split at found
  · contradiction
  · rename_i filled
    obtain ⟨rfl, -⟩ := Prod.mk.inj (Option.some.inj found)
    refine mem_numbers.mpr ⟨_, _, _, List.append_assoc .., ?_, by simpa using filled, ?_, ?_⟩
    all_goals exact List.all_eq_true.mp List.all_takeWhile

/-- A number is found whole, if neither a letter nor a digit stands behind it. -/
theorem numberAt?_of_mem {number rest : List Char} (mem : number ∈ numbers)
    (apart : ∀ c ∈ rest.head?, isPlainLetter c = false ∧ isDigit c = false) :
    numberAt? (number ++ rest) = some (number, rest) := by
  obtain ⟨front, digits, back, rfl, letters, filled, all, others⟩ := mem_numbers.mp mem
  have behindFront : ∀ c ∈ (digits ++ (back ++ rest)).head?, isPlainLetter c = false :=
    fun c first => isPlainLetter_digit (all c (mem_of_head?_append filled first))
  have behindDigits : ∀ c ∈ (back ++ rest).head?, isDigit c = false := fun c first =>
    (mem_or_of_head?_append first).elim (fun inside => isDigit_plainLetter (others c inside))
      fun first => (apart c first).2
  have behindBack : ∀ c ∈ rest.head?, isPlainLetter c = false := fun c first => (apart c first).1
  rw [List.append_assoc, List.append_assoc]
  unfold numberAt?
  simp only [takeWhile_run letters behindFront, dropWhile_run letters behindFront,
    takeWhile_run all behindDigits, dropWhile_run all behindDigits,
    takeWhile_run others behindBack, dropWhile_run others behindBack]
  simp [filled]

theorem head_number {number : List Char} (mem : number ∈ numbers) (rest : List Char) :
    ∀ c ∈ (number ++ rest).head?, isBlank c = false := by
  have alone : numberAt? (number ++ []) = some (number, []) := numberAt?_of_mem mem (by simp)
  obtain ⟨-, noBlank⟩ := numberAt?_eq_some alone
  have filled : number ≠ [] := by
    rintro rfl
    obtain ⟨front, digits, back, empty, -, filled, -, -⟩ := mem_numbers.mp mem
    simp [filled] at empty
  exact fun c first => noBlank c (mem_of_head?_append filled first)

/-- Behind a number there is only white space, or a separator and a numeric value again. -/
theorem mem_continuations {cs : List Char} :
    cs ∈ continuations ↔ cs ∈ gaps ∨ ∃ gap ∈ gaps, ∃ mark, isSeparator mark ∧
      ∃ rest ∈ numericValues, cs = gap ++ mark :: rest := by
  have unfolded : continuations = gaps + gaps * (oneOf isSeparator * numericValues) := by
    rw [continuations, ← Language.one_add_self_mul_kstar_eq_kstar, add_mul, one_mul]
    simp only [numericValues, continuations, mul_assoc]
  rw [unfolded, Language.mem_add]
  refine or_congr_right ⟨?_, ?_⟩
  · rintro ⟨gap, blank, _, ⟨_, ⟨mark, separates, rfl⟩, rest, value, rfl⟩, rfl⟩
    exact ⟨gap, blank, mark, separates, rest, value, rfl⟩
  · rintro ⟨gap, blank, mark, separates, rest, value, rfl⟩
    exact ⟨gap, blank, mark :: rest, ⟨[mark], ⟨mark, separates, rfl⟩, rest, value, rfl⟩, rfl⟩

/-- Neither a letter nor a digit stands behind a number, so nothing shorter could be read. -/
theorem apart_of_continuation {cs : List Char} (mem : cs ∈ continuations) :
    ∀ c ∈ cs.head?, isPlainLetter c = false ∧ isDigit c = false := by
  intro c first
  rcases mem_continuations.mp mem with blank | ⟨gap, blank, mark, separates, rest, -, rfl⟩
  · have mem := mem_gaps.mp blank c (List.mem_of_mem_head? first)
    exact ⟨(apart_of_blank mem).1, (apart_of_blank mem).2.1⟩
  · rcases mem_or_of_head?_append first with inside | first
    · have mem := mem_gaps.mp blank c inside
      exact ⟨(apart_of_blank mem).1, (apart_of_blank mem).2.1⟩
    · cases Option.mem_some_iff.mp first
      exact apart_of_separator separates

/-- A numeric value is white space, the number found behind it, and what may follow the number. -/
theorem mem_numericValues {cs : List Char} :
    cs ∈ numericValues ↔
      ∃ number after, numberAt? (cs.dropWhile isBlank) = some (number, after) ∧
        after ∈ continuations := by
  rw [numericValues, mul_assoc]
  constructor
  · rintro ⟨gap, blank, _, ⟨number, mem, after, goesOn, rfl⟩, rfl⟩
    refine ⟨number, after, ?_, goesOn⟩
    change numberAt? ((gap ++ (number ++ after)).dropWhile isBlank) = some (number, after)
    rw [dropWhile_run (mem_gaps.mp blank) (head_number mem after)]
    exact numberAt?_of_mem mem (apart_of_continuation goesOn)
  · rintro ⟨number, after, found, goesOn⟩
    have behind : cs.dropWhile isBlank ∈ numbers * continuations := by
      rw [(numberAt?_eq_some found).1]
      exact Language.append_mem_mul (mem_numbers_of_numberAt? found) goesOn
    rw [← List.takeWhile_append_dropWhile (p := isBlank) (l := cs)]
    exact Language.append_mem_mul (takeWhile_mem_gaps cs) behind

theorem continuesList_iff_mem (cs : List Char) : continuesList cs ↔ cs ∈ continuations := by
  refine continuesList_iff_of (fun {cs} none => ?_) (fun {cs c rest} first => ?_) cs
  · exact mem_continuations.mpr (.inl (mem_gaps.mpr (List.dropWhile_eq_nil_iff.mp none)))
  · rw [mem_continuations, ← mem_numericValues]
    constructor
    · rintro (blank | ⟨gap, blank, mark, separates, after, value, rfl⟩)
      · rw [List.dropWhile_eq_nil_iff.mpr (mem_gaps.mp blank)] at first
        contradiction
      · have noBlank : ∀ c ∈ (mark :: after).head?, isBlank c = false := by
          rintro c ⟨⟩
          exact isBlank_separator separates
        rw [dropWhile_run (mem_gaps.mp blank) noBlank] at first
        cases first
        exact ⟨separates, value⟩
    · rintro ⟨separates, value⟩
      refine .inr ⟨_, takeWhile_mem_gaps cs, c, separates, rest, value, ?_⟩
      rw [← first, List.takeWhile_append_dropWhile]

/-- A value is numeric exactly if it is a word of the language of numeric values. -/
theorem isNumeric_iff_mem (value : String) : isNumeric value ↔ value.toList ∈ numericValues := by
  rw [isNumeric_iff_exists, mem_numericValues]
  simp only [continuesList_iff_mem]

end CiteStyle.Numeric
