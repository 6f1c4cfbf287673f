-- The text outside of brace groups. It is what is left between the groups, so a change
-- of its characters that neither makes nor removes a brace or a backslash leaves every
-- group where it is, and an opening brace that never closes stays one.
import CiteStyle.Proofs.BraceGroups

namespace CiteStyle.Braces

variable {f : Char → Char} {cs inside after : List Char}

/-! ## Pieces -/

theorem piecesFrom_group (inner : Inside inside) (taken after : List Char) :
    piecesFrom taken ('\x7b' :: (inside ++ '\x7d' :: after)) =
      .plain taken :: .group inside :: pieces after := by
  have found : groupAt? ('\x7b' :: (inside ++ '\x7d' :: after)) = some (inside, after) :=
    groupAt?_eq_some_iff.mpr ⟨inner, rfl⟩
  rw [piecesFrom]
  split <;> simp_all [pieces]

theorem piecesFrom_plain {c : Char} {rest : List Char} (plain : groupAt? (c :: rest) = none)
    (taken : List Char) : piecesFrom taken (c :: rest) = piecesFrom (taken ++ [c]) rest := by
  rw [piecesFrom]
  split <;> simp_all

/-- What holds of a text if it holds of what follows its first group or plain character. -/
@[elab_as_elim]
theorem piece_induction {motive : List Char → Prop} (nil : motive [])
    (group : ∀ inside after, Inside inside → motive after →
      motive ('\x7b' :: (inside ++ '\x7d' :: after)))
    (plain : ∀ c rest, groupAt? (c :: rest) = none → motive rest → motive (c :: rest))
    (cs : List Char) : motive cs := by
  refine piecesFrom.induct (fun _ cs => motive cs) (fun _ => nil) ?_ ?_ [] cs
  · intro _ c rest inside after found ih
    obtain ⟨inner, text⟩ := groupAt?_eq_some_iff.mp found
    exact text ▸ group inside after inner ih
  · exact fun _ c rest none ih => plain c rest none ih

variable {g : Piece → List Char}

/-- What is written of plain text is written one character after the other. -/
def Additive (g : Piece → List Char) : Prop :=
  ∀ xs ys, g (.plain (xs ++ ys)) = g (.plain xs) ++ g (.plain ys)

/-- Plain text that was taken already stands in front. -/
theorem Additive.flatMap_piecesFrom (additive : Additive g) (front taken cs : List Char) :
    (piecesFrom (front ++ taken) cs).flatMap g =
      g (.plain front) ++ (piecesFrom taken cs).flatMap g := by
  induction cs using piece_induction generalizing taken with
  | nil => simp [piecesFrom, additive front taken]
  | group inside after inner _ =>
    simp [piecesFrom_group inner, additive front taken, List.append_assoc]
  | plain c rest none ih =>
    rw [piecesFrom_plain none, piecesFrom_plain none, List.append_assoc, ih]

theorem Additive.flatMap_plain (additive : Additive g) {c : Char} {rest : List Char}
    (plain : groupAt? (c :: rest) = none) :
    (pieces (c :: rest)).flatMap g = g (.plain [c]) ++ (pieces rest).flatMap g := by
  rw [pieces, piecesFrom_plain plain]
  exact additive.flatMap_piecesFrom [c] [] rest

theorem Additive.flatMap_nil (additive : Additive g) : (pieces []).flatMap g = [] := by
  have twice := additive [] []
  rw [List.append_nil, List.self_eq_append_right] at twice
  simp [pieces, piecesFrom, twice]

theorem Additive.flatMap_group (additive : Additive g) (inner : Inside inside)
    (after : List Char) :
    (pieces ('\x7b' :: (inside ++ '\x7d' :: after))).flatMap g =
      g (.group inside) ++ (pieces after).flatMap g := by
  have none := additive.flatMap_nil
  rw [pieces, piecesFrom, List.flatMap_singleton] at none
  rw [pieces, piecesFrom_group inner, List.flatMap_cons, List.flatMap_cons, none, List.nil_append]

/-! ## The characters outside -/

/-- What a piece has outside of groups. -/
def Piece.plainText : Piece → List Char
  | .plain text => text
  | .group _ => []

/-- The characters of a text outside of groups. -/
def outside (cs : List Char) : List Char := (pieces cs).flatMap Piece.plainText

theorem additive_plainText : Additive Piece.plainText := fun _ _ => rfl

theorem outside_nil : outside [] = [] := additive_plainText.flatMap_nil

theorem outside_group (inner : Inside inside) (after : List Char) :
    outside ('\x7b' :: (inside ++ '\x7d' :: after)) = outside after :=
  additive_plainText.flatMap_group inner after

theorem outside_plain {c : Char} {rest : List Char} (plain : groupAt? (c :: rest) = none) :
    outside (c :: rest) = c :: outside rest :=
  additive_plainText.flatMap_plain plain

/-- Only an opening brace can start a group. -/
theorem groupAt?_of_ne {c : Char} (noBrace : c ≠ '\x7b') (rest : List Char) :
    groupAt? (c :: rest) = none := by
  unfold groupAt?
  split
  · simp_all
  · rfl

/-! ## Changes of characters -/

/-- Change every character outside of groups. -/
def mapPlain (f : Char → Char) (cs : List Char) : List Char :=
  (pieces cs).flatMap (Piece.text (·.map f))

theorem mapOutside_map (f : Char → Char) (text : String) :
    mapOutside (·.map f) text = String.ofList (mapPlain f text.toList) := by
  simp [mapOutside, mapPlain, String.toList_map]

theorem additive_text (f : Char → Char) : Additive (Piece.text (·.map f)) :=
  fun _ _ => List.map_append

theorem mapPlain_nil : mapPlain f [] = [] := (additive_text f).flatMap_nil

theorem mapPlain_group (inner : Inside inside) (after : List Char) :
    mapPlain f ('\x7b' :: (inside ++ '\x7d' :: after)) =
      '\x7b' :: (inside ++ '\x7d' :: mapPlain f after) := by
  have equation := (additive_text f).flatMap_group inner after
  rw [Piece.text, List.cons_append, List.append_assoc, List.singleton_append] at equation
  exact equation

theorem mapPlain_plain {c : Char} {rest : List Char} (plain : groupAt? (c :: rest) = none) :
    mapPlain f (c :: rest) = f c :: mapPlain f rest :=
  (additive_text f).flatMap_plain plain

/-- A change that neither makes nor removes a character that groups are told by. -/
def KeepsMarks (f : Char → Char) : Prop :=
  ∀ mark ∈ ['\\', '\x7b', '\x7d'], ∀ c, f c = mark ↔ c = mark

theorem KeepsMarks.close?_map (keeps : KeepsMarks f) (unclosed : close? cs = none) :
    close? (cs.map f) = none := by
  have escape := keeps '\\' (by decide)
  have closing := keeps '\x7d' (by decide)
  fun_induction close? cs with
  | case1 => rfl
  | case2 c rest ih =>
    rw [Option.map_eq_none_iff] at unclosed
    rw [List.map_cons, List.map_cons, (escape '\\').mpr rfl, close?, ih unclosed]
    rfl
  | case3 => contradiction
  | case4 c rest notEscape notClosing ih =>
    rw [Option.map_eq_none_iff] at unclosed
    by_cases last : c = '\\'
    · -- A backslash at the end takes nothing along.
      subst last
      obtain _ | ⟨d, rest⟩ := rest
      · rw [List.map_singleton, (escape '\\').mpr rfl]
        rfl
      · exact absurd rfl (notEscape d rest rfl)
    · have next := ih unclosed
      rw [List.map_cons, close?_plain (mt (escape c).mp last) (mt (closing c).mp notClosing), next]
      rfl

/-- If a group is not closed, then neither is one that an opening brace inside would start. -/
theorem close?_behind {front rest : List Char} (unclosed : close? (front ++ '\x7b' :: rest) = none) :
    close? rest = none := by
  induction front using close?.induct with
  | case1 =>
    rwa [List.nil_append, close?_plain (by decide) (by decide), Option.map_eq_none_iff] at unclosed
  | case2 c front ih =>
    rw [List.cons_append, List.cons_append, close?, Option.map_eq_none_iff] at unclosed
    exact ih unclosed
  | case3 front => simp [close?] at unclosed
  | case4 c front notEscape notClosing ih =>
    rw [List.cons_append] at unclosed
    by_cases last : c = '\\'
    · -- A backslash at the end of what is in front takes the opening brace along.
      subst last
      obtain _ | ⟨d, front⟩ := front
      · rwa [List.nil_append, close?, Option.map_eq_none_iff] at unclosed
      · exact absurd rfl (notEscape d front rfl)
    · rw [close?_plain last notClosing, Option.map_eq_none_iff] at unclosed
      exact ih unclosed

/-- A text in which no opening brace is closed is plain. -/
theorem mapPlain_of_unclosed
    (unclosed : ∀ front rest, cs = front ++ '\x7b' :: rest → close? rest = none) :
    mapPlain f cs = cs.map f := by
  induction cs with
  | nil => exact mapPlain_nil
  | cons c rest ih =>
    have plain : groupAt? (c :: rest) = none := by
      by_cases brace : c = '\x7b'
      · exact brace ▸ unclosed [] rest (brace ▸ rfl)
      · exact groupAt?_of_ne brace rest
    have others := ih fun front more same => unclosed (c :: front) more (same ▸ rfl)
    rw [mapPlain_plain plain, List.map_cons, others]

/-- An opening brace that never closes does not close after the change either. -/
theorem KeepsMarks.groupAt?_mapPlain (keeps : KeepsMarks f) {c : Char} {rest : List Char}
    (plain : groupAt? (c :: rest) = none) : groupAt? (f c :: mapPlain f rest) = none := by
  have opening := keeps '\x7b' (by decide)
  by_cases brace : c = '\x7b'
  · subst brace
    rw [mapPlain_of_unclosed fun front more same => close?_behind (same ▸ plain : close? _ = none),
      (opening '\x7b').mpr rfl]
    exact keeps.close?_map plain
  · exact groupAt?_of_ne (mt (opening c).mp brace) _

/-! ## More text behind -/

/-- Only a closing brace at the end can close a group. -/
theorem close?_concat {d : Char} (notClosing : d ≠ '\x7d') (unclosed : close? cs = none) :
    close? (cs ++ [d]) = none := by
  rw [Option.eq_none_iff_forall_ne_some]
  rintro ⟨inside, after⟩ found
  obtain ⟨inner, text⟩ := close?_eq_some_iff.mp found
  obtain rfl | ⟨after, last, rfl⟩ := List.eq_nil_or_concat after
  · have same := (List.append_inj' text rfl).2
    exact notClosing (List.singleton_inj.mp same)
  · have longer : cs ++ [d] = (inside ++ '\x7d' :: after) ++ [last] := by simpa using text
    have within := (List.append_inj' longer rfl).1
    rw [close?_eq_some_iff.mpr ⟨inner, within⟩] at unclosed
    contradiction

theorem groupAt?_concat {c d : Char} {rest : List Char} (notClosing : d ≠ '\x7d')
    (plain : groupAt? (c :: rest) = none) : groupAt? (c :: (rest ++ [d])) = none := by
  by_cases brace : c = '\x7b'
  · subst brace
    exact close?_concat notClosing plain
  · exact groupAt?_of_ne brace _

theorem outside_concat {d : Char} (notClosing : d ≠ '\x7d') (cs : List Char) :
    outside (cs ++ [d]) = outside cs ++ [d] := by
  induction cs using piece_induction with
  | nil =>
    have plain : groupAt? [d] = none := by
      by_cases brace : d = '\x7b'
      · exact brace ▸ rfl
      · exact groupAt?_of_ne brace []
    rw [List.nil_append, outside_plain plain, outside_nil, List.nil_append]
  | group inside after inner ih =>
    rw [outside_group inner, ← ih, List.cons_append, List.append_assoc, List.cons_append,
      outside_group inner]
  | plain c rest none ih =>
    rw [List.cons_append, outside_plain none, outside_plain (groupAt?_concat notClosing none), ih,
      List.cons_append]

end CiteStyle.Braces
