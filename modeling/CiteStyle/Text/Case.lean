-- Lower case, upper case and case folding of text. A capital sigma becomes
-- a final sigma at the end of a word, and a character may become several.
import CiteStyle.Text.Character

namespace CiteStyle.Text

/-! ## One character -/

/-- The lower case of one character, without regard to its neighbours. -/
def lowerChar (c : Char) : List Char :=
  if c = 'İ' then ['i', Char.ofNat 0x307]
  else match runTarget? lowerRuns c.toNat with
    | some n => [Char.ofNat n]
    | none => [c]

/-- The upper case of one character. -/
def upperChar (c : Char) : List Char :=
  match upperExpansions.lookup c.toNat with
  | some ns => ns.map Char.ofNat
  | none => match runTarget? upperRuns c.toNat with
    | some n => [Char.ofNat n]
    | none => [c]

/-- The character that stands for all characters that differ from `c` in case
only. -/
def foldChar (c : Char) : Char :=
  match runTarget? foldRuns c.toNat with
  | some n => Char.ofNat n
  | none => c

/-- Two characters are the same but for their case. -/
def sameFolded (a b : Char) : Bool := a == b || foldChar a == foldChar b

/-! ## Text -/

/-- Whether a text, read on from some place, meets a cased letter before
anything that ends a word. -/
def meetsCased (cs : List Char) : Bool :=
  match cs.dropWhile isCaseIgnorable with
  | [] => false
  | c :: _ => isCased c

/-- The lower case of `cs`, where `before` is the text in front of it, last
character first. -/
def lowerFrom (before : List Char) : List Char → List Char
  | [] => []
  | c :: rest =>
    let lowered :=
      if c = 'Σ' then [if meetsCased before && !meetsCased rest then 'ς' else 'σ']
      else lowerChar c
    lowered ++ lowerFrom (c :: before) rest

/-- The lower case of a text. -/
def lower (s : String) : String := String.ofList (lowerFrom [] s.toList)

/-- The upper case of a text. -/
def upper (s : String) : String := String.ofList (s.toList.flatMap upperChar)

end CiteStyle.Text
