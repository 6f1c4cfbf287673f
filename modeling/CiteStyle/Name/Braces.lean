-- Brace groups in text. A group runs from an opening brace to the first
-- closing brace that no backslash precedes; a brace that never closes is
-- plain text.
import CiteStyle.Text.Character

namespace CiteStyle.Braces

/-! ## One group -/

/-- The inside of a group and the text after it, read from behind the opening brace. -/
def close? : List Char → Option (List Char × List Char)
  | [] => none
  | '\\' :: c :: rest => (close? rest).map fun (inside, after) => ('\\' :: c :: inside, after)
  | '\x7d' :: rest => some ([], rest)
  | c :: rest => (close? rest).map fun (inside, after) => (c :: inside, after)

/-- The text of a group: a backslash gives way to the character behind it. -/
def unescape : List Char → List Char
  | [] => []
  | '\\' :: c :: rest => c :: unescape rest
  | c :: rest => c :: unescape rest

/-- A group and the text after it, if the text starts with one. -/
def groupAt? : List Char → Option (List Char × List Char)
  | '\x7b' :: rest => close? rest
  | _ => none

theorem length_lt_of_close? {cs inside after : List Char} (h : close? cs = some (inside, after)) :
    after.length < cs.length := by
  fun_induction close? cs generalizing inside with
  | case1 => contradiction
  | case2 c rest ih =>
    simp only [Option.map_eq_some_iff, Prod.mk.injEq, Prod.exists] at h
    obtain ⟨_, _, hr, _, rfl⟩ := h
    have := ih hr
    simp only [List.length_cons]
    omega
  | case3 rest =>
    simp only [Option.some.injEq, Prod.mk.injEq] at h
    obtain ⟨_, rfl⟩ := h
    simp
  | case4 c rest _ _ ih =>
    simp only [Option.map_eq_some_iff, Prod.mk.injEq, Prod.exists] at h
    obtain ⟨_, _, hr, _, rfl⟩ := h
    have := ih hr
    simp only [List.length_cons]
    omega

theorem length_lt_of_groupAt? {cs inside after : List Char}
    (h : groupAt? cs = some (inside, after)) : after.length < cs.length := by
  unfold groupAt? at h
  split at h
  · have := length_lt_of_close? h
    simp only [List.length_cons]
    omega
  · contradiction

/-! ## Text between groups -/

/-- A piece of a text: plain, or the inside of a brace group. -/
inductive Piece where
  | plain (text : List Char)
  | group (inside : List Char)
  deriving DecidableEq, Repr

/-- The pieces of a text from left to right, where `taken` is the plain text in front.
Plain pieces and groups take turns, and a plain piece comes first and last. -/
def piecesFrom (taken : List Char) (cs : List Char) : List Piece :=
  match cs with
  | [] => [.plain taken]
  | c :: rest =>
    match _h : groupAt? (c :: rest) with
    | some (inside, after) => .plain taken :: .group inside :: piecesFrom [] after
    | none => piecesFrom (taken ++ [c]) rest
termination_by cs.length
decreasing_by
  · exact length_lt_of_groupAt? _h
  · simp

/-- The pieces of a text. -/
def pieces (cs : List Char) : List Piece := piecesFrom [] cs

/-- The text that a piece stands for, where `change` is applied to plain text. -/
def Piece.text (change : List Char → List Char) : Piece → List Char
  | .plain text => change text
  | .group inside => '\x7b' :: (inside ++ ['\x7d'])

/-- Apply `change` to the text outside of brace groups, and keep the groups. -/
def mapOutside (change : String → String) (text : String) : String :=
  String.ofList ((pieces text.toList).flatMap
    (Piece.text fun cs => (change (String.ofList cs)).toList))

end CiteStyle.Braces
