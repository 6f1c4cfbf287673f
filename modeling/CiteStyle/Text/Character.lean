-- Classes of characters. The classes of core know ASCII only; those here
-- cover every code point, by the tables of the Unicode standard.
import CiteStyle.Text.LetterTable
import CiteStyle.Text.CaseTable

namespace CiteStyle.Text

/-! ## Look-up in a sorted table -/

/-- Whether one of the ranges holds `n`. The ranges are sorted, so the search
ends at the first one that starts above `n`. -/
def inRanges : List (Nat × Nat) → Nat → Bool
  | [], _ => false
  | (low, high) :: rest, n => if n < low then false else n ≤ high || inRanges rest n

/-- Where a sorted list of runs sends `n`, if a run holds it. -/
def runTarget? : List CaseRun → Nat → Option Nat
  | [], _ => none
  | run :: rest, n =>
    if n < run.first then none
    else if n ≤ run.last then
      if (n - run.first) % run.step = 0 then some (run.target + (n - run.first)) else none
    else runTarget? rest n

/-! ## Classes -/

/-- White space in the sense of the Unicode property White_Space. -/
def isBlank (c : Char) : Bool :=
  let n := c.toNat
  (9 ≤ n && n ≤ 13) || n == 32 || n == 133 || n == 160 || n == 5760
    || (8192 ≤ n && n ≤ 8202) || n == 8232 || n == 8233 || n == 8239 || n == 8287 || n == 12288

/-- A space or a tab. -/
def isSpaceOrTab (c : Char) : Bool := c == ' ' || c == '\t'

/-- The white space of plain ASCII text: space, tab and the two line ends. -/
def isPlainBlank (c : Char) : Bool := c == ' ' || c == '\t' || c == '\r' || c == '\n'

/-- A character with the property Alphabetic. -/
def isAlphabetic (c : Char) : Bool := inRanges alphabeticRanges c.toNat

/-- A character of general category N. -/
def isNumber (c : Char) : Bool := inRanges numberRanges c.toNat

/-- An alphabetic character or a number. -/
def isAlphanumeric (c : Char) : Bool := isAlphabetic c || isNumber c

/-- A letter or a number, with which a word may start. -/
def startsWord (c : Char) : Bool := inRanges wordStartRanges c.toNat

/-- A mark on another character. -/
def isMark (c : Char) : Bool := inRanges markRanges c.toNat

/-- A character with the property Uppercase. -/
def isUppercase (c : Char) : Bool := inRanges uppercaseRanges c.toNat

/-- A character with the property Lowercase. -/
def isLowercase (c : Char) : Bool := inRanges lowercaseRanges c.toNat

/-- A character with the property Cased. -/
def isCased (c : Char) : Bool := inRanges casedRanges c.toNat

/-- A character that the search for a neighbouring cased letter skips. -/
def isCaseIgnorable (c : Char) : Bool := inRanges caseIgnorableRanges c.toNat

end CiteStyle.Text
