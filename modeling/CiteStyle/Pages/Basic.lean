-- Pages of a work: single pages and page ranges, as a record lists them.
import CiteStyle.Text.Integer

namespace CiteStyle.Pages

open Text

/-- A page or a range of pages. -/
structure Range where
  /-- The range in its normal spelling, or as it was written. -/
  literal : String
  /-- The first and the last page, if the text could be read. -/
  ends : Option (String × String)
  /-- The number of pages, if both ends are numbers in order. -/
  size : Option Nat
  /-- Two pages were written, be they the same. -/
  several : Bool
  deriving DecidableEq, Repr

namespace Range

/-- The first page. -/
def first (r : Range) : Option String := r.ends.map (·.1)

/-- The last page. -/
def last (r : Range) : Option String := r.ends.map (·.2)

/-- A text that could not be read as pages. -/
def ofText (text : String) : Range := ⟨text, none, none, false⟩

end Range

/-! ## All ranges of a record -/

/-- The normal spelling of some ranges. -/
def literal (rs : List Range) : String := String.intercalate ", " (rs.map (·.literal))

/-- The first page of a range that starts with a number, with that number. -/
def Range.numberedStart? (r : Range) : Option (Nat × String) := do
  let first ← r.first
  let n ← readNat? maxUnsigned32 first.toList
  return (n, first)

/-- The pair with the least number; of several the one that comes first. -/
def leastStart? : List (Nat × String) → Option (Nat × String)
  | [] => none
  | start :: rest =>
    match leastStart? rest with
    | some other => if other.1 < start.1 then some other else some start
    | none => some start

/-- The lowest first page that is a number, or else the first page written. -/
def first (rs : List Range) : Option String :=
  match leastStart? (rs.filterMap Range.numberedStart?) with
  | some (_, page) => some page
  | none => rs.head?.bind Range.first

/-- How many pages some ranges have together, if each has a known size and the sum
fits 32 bits. -/
def sizeFrom (total : Nat) : List Range → Option Nat
  | [] => some total
  | r :: rest => do
    let size ← r.size
    if total + size ≤ maxUnsigned32 then sizeFrom (total + size) rest else none

/-- How many pages some ranges have together. -/
def size (rs : List Range) : Option Nat := sizeFrom 0 rs

/-- More than one page is meant. -/
def several (rs : List Range) : Bool := rs.length > 1 || rs.any (·.several)

end CiteStyle.Pages
