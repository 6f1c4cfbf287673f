-- How brace groups divide a text. What is plain and what is a group is fixed by where opening
-- braces close: the first one that does starts the first group, and the scan goes on behind the
-- group. So there is one way only to divide a text, and a change of the text outside of groups
-- is the change of each plain piece, between groups that stay as they are.
import CiteStyle.Proofs.OutsideGroups

namespace CiteStyle.Braces

variable {cs plain behind inside after : List Char} {ps : List Piece}

/-! ## Plain text -/

/-- No opening brace in a plain text closes, there or in the text behind. -/
def PlainBefore (plain behind : List Char) : Prop :=
  ∀ front back, plain = front ++ '\x7b' :: back →
    ∀ inside after, Inside inside → back ++ behind ≠ inside ++ '\x7d' :: after

theorem plainBefore_nil (behind : List Char) : PlainBefore [] behind := by
  rintro front back split
  cases front <;> cases split

theorem PlainBefore.tail {c : Char} (h : PlainBefore (c :: plain) behind) :
    PlainBefore plain behind := by
  rintro front back rfl
  exact h (c :: front) back rfl

/-- No group starts where plain text starts. -/
theorem PlainBefore.groupAt? {c : Char} (h : PlainBefore (c :: plain) behind) :
    groupAt? (c :: (plain ++ behind)) = none := by
  rw [Option.eq_none_iff_forall_ne_some]
  rintro ⟨inside, after⟩ found
  obtain ⟨inner, text⟩ := groupAt?_eq_some_iff.mp found
  obtain ⟨rfl, same⟩ := List.cons.inj text
  exact h [] plain rfl inside after inner same

/-- A character at which no group starts is one more character of the plain text. -/
theorem PlainBefore.concat {c : Char} {rest : List Char} (h : PlainBefore plain (c :: rest))
    (noGroup : Braces.groupAt? (c :: rest) = none) : PlainBefore (plain ++ [c]) rest := by
  intro front back split inside after inner closes
  rcases List.eq_nil_or_concat back with rfl | ⟨back, last, rfl⟩
  · -- The brace is the character itself.
    obtain ⟨-, brace⟩ := List.append_inj' split rfl
    obtain rfl : c = '\x7b' := List.singleton_inj.mp brace
    rw [List.nil_append] at closes
    rw [groupAt?_eq_some_iff.mpr ⟨inner, congrArg _ closes⟩] at noGroup
    cases noGroup
  · rw [List.concat_eq_append, ← List.cons_append, ← List.append_assoc] at split
    obtain ⟨within, same⟩ := List.append_inj' split rfl
    obtain rfl : c = last := List.singleton_inj.mp same
    refine h front back within inside after inner ?_
    simpa using closes

/-! ## The pieces of a text -/

/-- A text divided into plain pieces and groups in turns. A group runs from an opening brace to
the first closing brace that nothing takes along, and no opening brace in front of it closes. -/
inductive Divided : List Char → List Piece → Prop
  | last {plain : List Char} (noGroup : PlainBefore plain []) : Divided plain [.plain plain]
  | group {plain inside after : List Char} {ps : List Piece}
      (noGroup : PlainBefore plain ('\x7b' :: (inside ++ '\x7d' :: after))) (inner : Inside inside)
      (others : Divided after ps) :
      Divided (plain ++ '\x7b' :: (inside ++ '\x7d' :: after)) (.plain plain :: .group inside :: ps)

theorem PlainBefore.divided {taken : List Char} (h : PlainBefore taken cs) :
    Divided (taken ++ cs) (piecesFrom taken cs) := by
  induction cs using piece_induction generalizing taken with
  | nil =>
    rw [List.append_nil, piecesFrom]
    exact .last h
  | group inside after inner ih =>
    rw [piecesFrom_group inner]
    exact .group h inner (ih (plainBefore_nil after))
  | plain c rest noGroup ih =>
    rw [piecesFrom_plain noGroup, List.append_cons]
    exact ih (h.concat noGroup)

/-- The scan takes plain text as it is. -/
theorem PlainBefore.piecesFrom (h : PlainBefore plain behind) (taken : List Char) :
    piecesFrom taken (plain ++ behind) = Braces.piecesFrom (taken ++ plain) behind := by
  induction plain generalizing taken with
  | nil => simp
  | cons c plain ih =>
    rw [List.cons_append, piecesFrom_plain h.groupAt?, ih h.tail, List.append_assoc,
      List.singleton_append]

/-- A text can be divided in one way, and the scan finds it. -/
theorem divided_iff : Divided cs ps ↔ ps = pieces cs := by
  constructor
  · intro h
    induction h with
    | @last plain noGroup =>
      have taken := noGroup.piecesFrom []
      rw [List.append_nil, List.nil_append, Braces.piecesFrom] at taken
      exact taken.symm
    | group noGroup inner _ ih =>
      rw [pieces, noGroup.piecesFrom [], List.nil_append, piecesFrom_group inner, ih]
  · rintro rfl
    exact (plainBefore_nil cs).divided

/-! ## Changes outside of groups -/

/-- The text of a piece, with plain text changed and the braces of a group around its inside. -/
def Piece.changed (change : String → String) : Piece → String
  | .plain text => change (String.ofList text)
  | .group inside => "\x7b" ++ String.ofList inside ++ "\x7d"

theorem toList_changed (change : String → String) (piece : Piece) :
    (piece.changed change).toList =
      piece.text fun cs => (change (String.ofList cs)).toList := by
  cases piece with
  | plain text => rfl
  | group inside => simp [Piece.text, Piece.changed]

theorem mapOutside_eq_join (change : String → String) (text : String) :
    mapOutside change text = String.join ((pieces text.toList).map (Piece.changed change)) := by
  rw [← String.toList_inj, String.toList_join, mapOutside, String.toList_ofList, List.flatMap_map]
  simp only [toList_changed]

/-- The pieces that a text is divided into spell the text. -/
theorem Divided.join (h : Divided cs ps) :
    String.join (ps.map (Piece.changed id)) = String.ofList cs := by
  rw [← String.toList_inj, String.toList_join, List.flatMap_map, String.toList_ofList]
  simp only [toList_changed, id, String.toList_ofList]
  induction h with
  | last => simp [Piece.text]
  | group _ _ _ ih =>
    rw [List.flatMap_cons, List.flatMap_cons, ih]
    simp [Piece.text]

/-- Every text is divided into plain pieces and brace groups in one way. Whatever the change of
the text outside of groups, the result is the changed plain pieces with the groups between them,
and a change that does nothing leaves the text as it is. -/
theorem mapOutside_divided (text : String) :
    ∃ ps : List Piece, (∀ qs, Divided text.toList qs ↔ qs = ps) ∧
      (∀ change : String → String,
        mapOutside change text = String.join (ps.map (Piece.changed change))) ∧
      mapOutside id text = text := by
  have divided : Divided text.toList (pieces text.toList) := divided_iff.mpr rfl
  refine ⟨pieces text.toList, fun _ => divided_iff, (mapOutside_eq_join · text), ?_⟩
  rw [mapOutside_eq_join, divided.join, String.ofList_toList]

/-- A backslash takes a closing brace along, and an opening brace that never closes is plain. -/
example : pieces "a\x7bb\\\x7dc\x7d \x7bd".toList =
    [.plain "a".toList, .group "b\\\x7dc".toList, .plain " \x7bd".toList] := by
  decide +kernel

end CiteStyle.Braces
