-- JSON text that is read as YAML. Every scalar may then stand for its text, and
-- the text itself is bound to some rules that JSON does not have.
import CiteStyle.Json.Fields
import CiteStyle.Json.Reader

namespace CiteStyle.Json

/-! ## What the text may hold -/

/-- A character that may stand in YAML text. -/
def isPrintable (c : Char) : Bool :=
  let n := c.toNat
  c == '\t' || c == '\n' || c == '\r' || (0x20 ≤ n && n ≤ 0x7E) || n == 0x85
    || (0xA0 ≤ n && n ≤ 0xFFFD) || 0x10000 ≤ n

/-- A line end that may stand in a JSON string. -/
def isStringBreak (c : Char) : Bool := c == '\u0085' || c == '\u2028' || c == '\u2029'

/-- A line end of YAML text. -/
def endsLine (c : Char) : Bool := c == '\n' || c == '\r' || isStringBreak c

/-- An escape of half a surrogate pair stands somewhere in a text. -/
def escapesHalf : List Char → Bool
  | '\\' :: 'u' :: a :: b :: c :: d :: rest =>
    (unit? a b c d).any (fun n => 0xD800 ≤ n && n ≤ 0xDFFF) || escapesHalf rest
  | '\\' :: _ :: rest => escapesHalf rest
  | _ :: rest => escapesHalf rest
  | [] => false

/-- Every name stands on one line with its colon, and starts at most 1024 characters in front of
it. `quoted` says that the text goes on inside a string, `length` how long ago the last string
began, and `oneLine` that its line goes on. -/
def namesFit (quoted : Bool) (length : Nat) (oneLine : Bool) : List Char → Bool
  | [] => true
  | '\\' :: _ :: rest => namesFit quoted (length + 2) oneLine rest
  | '"' :: rest =>
    if quoted then namesFit false (length + 1) oneLine rest else namesFit true 1 true rest
  | c :: rest =>
    (quoted || c != ':' || (length ≤ 1024 && oneLine))
      && namesFit quoted (length + 1) (oneLine && !endsLine c) rest

/-- No tab stands in front of the value, or behind it in a line of its own. -/
def tabsFit (cs : List Char) : Bool :=
  let behind := (cs.reverse.takeWhile isGap).reverse
  !(cs.takeWhile isGap).contains '\t' && !(behind.dropWhile (!endsLine ·)).contains '\t'

/-- A text that may be YAML, given that it is JSON. Characters beyond the first plane have to
stand for themselves. -/
def isPresentable (cs : List Char) : Bool :=
  cs.all isPrintable && !escapesHalf cs && namesFit false 0 true cs && tabsFit cs

/-! ## What the text says -/

/-- A line end as it is written in a JSON string. -/
def writtenBreak (c : Char) : List Char := if c = '\u0085' then ['\\', 'n'] else [c]

/-- What a stretch of spaces and line ends in a string stands for. Spaces next to a line end do
not count. A next-line character is a newline; the first one is a space if it is the only line
end, and nothing otherwise. -/
def foldGap (gap : List Char) : List Char :=
  match gap.filter isStringBreak with
  | [] => gap
  | ['\u0085'] => [' ']
  | '\u0085' :: others => others.flatMap writtenBreak
  | breaks => breaks.flatMap writtenBreak

/-- A character of which line ends and the space around them consist. -/
def isFoldable (c : Char) : Bool := c == ' ' || isStringBreak c

/-- The text with the line ends in its strings folded. -/
def foldBreaks (cs : List Char) : List Char :=
  (cs.splitBy fun a b => isFoldable a == isFoldable b).flatMap fun run =>
    if run.all isFoldable then foldGap run else run

/-- A number that is too large is a text. -/
def numberOrText (n : Numeral) : Json := if n.value?.isSome then .number n else .text n.written

/-- The value that a text writes, if it is JSON text and YAML text. An empty text is an object
without fields. -/
def readYaml? (text : String) : Option Json :=
  let cs := text.toList
  if cs.all fun c => c == ' ' || endsLine c then some (.object [])
  else if isPresentable cs then
    (read? (String.ofList (foldBreaks cs))).map (mapNumbers numberOrText)
  else none

end CiteStyle.Json
