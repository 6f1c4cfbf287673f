-- Numeric text: values such as 12, 12a, 10-12 or 1, 3 & 5. A value is cut
-- into numbers and separators, and it counts as numeric when it holds nothing
-- else but white space, with one separator between neighbouring numbers.
import CiteStyle.Text.Character
import CiteStyle.Text.Integer

namespace CiteStyle.Numeric

open Text

/-! ## Characters of a number -/

/-- An ASCII letter. -/
def isPlainLetter (c : Char) : Bool := ('a' ≤ c && c ≤ 'z') || ('A' ≤ c && c ≤ 'Z')

/-- A character that joins two numbers. -/
def isSeparator (c : Char) : Bool := c == ',' || c == '-' || c == '&'

/-- The number at the start of a text, and what follows it: letters, one digit
or more, letters, each run as long as it can be. -/
def numberAt? (cs : List Char) : Option (List Char × List Char) :=
  let letters := cs.takeWhile isPlainLetter
  let afterLetters := cs.dropWhile isPlainLetter
  let digits := afterLetters.takeWhile isDigit
  let afterDigits := afterLetters.dropWhile isDigit
  if digits.isEmpty then none
  else some (letters ++ digits ++ afterDigits.takeWhile isPlainLetter,
    afterDigits.dropWhile isPlainLetter)

theorem length_dropWhile_le (p : α → Bool) (cs : List α) :
    (cs.dropWhile p).length ≤ cs.length :=
  (List.dropWhile_sublist p).length_le

theorem length_lt_of_numberAt? {cs number rest : List Char}
    (h : numberAt? cs = some (number, rest)) : rest.length < cs.length := by
  simp only [numberAt?] at h
  split at h
  · contradiction
  · next hd =>
    simp only [Option.some.injEq, Prod.mk.injEq] at h
    obtain ⟨_, rfl⟩ := h
    have h1 := length_dropWhile_le isPlainLetter
      ((cs.dropWhile isPlainLetter).dropWhile isDigit)
    have h2 := length_dropWhile_le isPlainLetter cs
    have h3 := congrArg List.length
      (List.takeWhile_append_dropWhile (p := isDigit) (l := cs.dropWhile isPlainLetter))
    rw [List.length_append] at h3
    have h4 : 0 < ((cs.dropWhile isPlainLetter).takeWhile isDigit).length := by
      rw [List.length_pos_iff]
      simpa using hd
    omega

/-! ## Tokens -/

/-- A run of a numeric value. -/
inductive Token where
  | number (text : String)
  | separator (mark : Char)
  deriving DecidableEq, Repr

/-- The numbers and separators of a text, in order; all else is skipped. -/
def tokensOf (cs : List Char) : List Token :=
  match _h : numberAt? cs with
  | some (number, rest) => .number (String.ofList number) :: tokensOf rest
  | none =>
    match cs with
    | [] => []
    | c :: rest => if isSeparator c then .separator c :: tokensOf rest else tokensOf rest
termination_by cs.length
decreasing_by
  · exact length_lt_of_numberAt? _h
  all_goals simp

/-- The numbers and separators of a value. -/
def tokens (value : String) : List Token := tokensOf value.toList

/-- How many numbers a value holds. -/
def count (value : String) : Nat :=
  (tokens value).countP fun
    | .number _ => true
    | .separator _ => false

/-! ## Numeric values -/

/-- Whether what follows a number is again and again a separator and a number,
up to the end of the text. -/
def continuesList (cs : List Char) : Bool :=
  match _hc : cs.dropWhile isBlank with
  | [] => true
  | c :: rest =>
    isSeparator c &&
      match _h : numberAt? (rest.dropWhile isBlank) with
      | some (_, after) => continuesList after
      | none => false
termination_by cs.length
decreasing_by
  have h1 := length_lt_of_numberAt? _h
  have h2 := length_dropWhile_le isBlank rest
  have h3 := length_dropWhile_le isBlank cs
  simp_all
  omega

/-- A value that is a number, or a list of numbers joined by separators. -/
def isNumeric (value : String) : Bool :=
  match numberAt? (value.toList.dropWhile isBlank) with
  | some (_, rest) => continuesList rest
  | none => false

end CiteStyle.Numeric
