-- Scanners: patterns that read from the start of a text. A scanner lists all
-- ways to read, the preferred one first, so that a longer pattern may go on
-- from any of them.
import CiteStyle.Text.Case
import CiteStyle.Text.Integer

namespace CiteStyle.DateText

open Text

/-- A pattern: for a text, the ways to read from its start in order of preference, each
with what it yields and what it leaves. -/
abbrev Scan (α : Type) := List Char → List (α × List Char)

namespace Scan

/-! ## Combining -/

/-- Read nothing. -/
def done (a : α) : Scan α := fun cs => [(a, cs)]

/-- Read one pattern, and then another that may depend on what the first one yields. -/
def andThen (p : Scan α) (q : α → Scan β) : Scan β := fun cs =>
  (p cs).flatMap fun (a, rest) => q a rest

/-- Read one pattern or another; the first is preferred. -/
def orElse (p q : Scan α) : Scan α := fun cs => p cs ++ q cs

/-- Read a pattern if it is there. -/
def optional (p : Scan α) : Scan (Option α) := fun cs =>
  (p cs).map (fun (a, rest) => (some a, rest)) ++ [(none, cs)]

/-- Read one of several patterns, an earlier one preferred. -/
def oneOf (ps : List (Scan α)) : Scan α := fun cs => ps.flatMap fun p => p cs

/-- Read a pattern and change what it yields. -/
def map (f : α → β) (p : Scan α) : Scan β := fun cs =>
  (p cs).map fun (a, rest) => (f a, rest)

/-! ## Characters -/

/-- Read one given character. -/
def char (c : Char) : Scan Unit := fun cs =>
  match cs with
  | d :: rest => if d = c then [((), rest)] else []
  | [] => []

/-- Read a word, whatever its case. It yields the text as it stands. -/
def word : List Char → Scan (List Char)
  | [], cs => [([], cs)]
  | _ :: _, [] => []
  | w :: ws, c :: cs =>
    if sameFolded w c then (word ws cs).map fun (text, rest) => (c :: text, rest) else []

/-- Read all characters of a class that stand at the start, at least `least`. -/
def whole (p : Char → Bool) (least : Nat) : Scan (List Char) := fun cs =>
  let text := cs.takeWhile p
  if least ≤ text.length then [(text, cs.dropWhile p)] else []

/-- Read characters of a class, from `least` to `most`, more being preferred. -/
def span (p : Char → Bool) (least most : Nat) : Scan (List Char) := fun cs =>
  let longest := ((cs.take most).takeWhile p).length
  ((List.range (longest + 1 - least)).reverse.map (· + least)).map fun n =>
    (cs.take n, cs.drop n)

/-- Read white space, at least `least` characters, more being preferred. -/
def blanks (least : Nat) : Scan Unit := fun cs =>
  map (fun _ => ()) (span isBlank least cs.length) cs

/-! ## Searching -/

/-- What a pattern yields at the first place of a text where it can be read. -/
def find? (p : Scan α) : List Char → Option α
  | [] => (p []).head?.map (·.1)
  | c :: rest =>
    match p (c :: rest) with
    | (a, _) :: _ => some a
    | [] => find? p rest

end Scan

end CiteStyle.DateText
