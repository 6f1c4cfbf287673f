-- What stands in a brace group. A backslash takes the character behind it along, and
-- the first closing brace that is not taken along ends the group. So an opening brace
-- inside starts no group of its own, and with backslashes every text can be put in
-- braces.
import CiteStyle.Name.Braces

namespace CiteStyle.Braces

/-! ## The inside of a group -/

/-- A text that may stand between the braces of a group: behind every backslash there is a
character, and every closing brace is behind a backslash that is not itself behind one. -/
inductive Inside : List Char → Prop
  | nil : Inside []
  | escaped (c : Char) {cs : List Char} : Inside cs → Inside ('\\' :: c :: cs)
  | plain {c : Char} {cs : List Char} (notEscape : c ≠ '\\') (notClosing : c ≠ '\x7d') :
      Inside cs → Inside (c :: cs)

theorem close?_plain {c : Char} (notEscape : c ≠ '\\') (notClosing : c ≠ '\x7d')
    (rest : List Char) :
    close? (c :: rest) = (close? rest).map fun (inside, after) => (c :: inside, after) := by
  rw [close?.eq_def]
  split <;> simp_all

theorem Inside.close? {inside : List Char} (h : Inside inside) (after : List Char) :
    close? (inside ++ '\x7d' :: after) = some (inside, after) := by
  induction h with
  | nil => rfl
  | escaped c _ ih => simp [Braces.close?, ih]
  | plain notEscape notClosing _ ih =>
    rw [List.cons_append, close?_plain notEscape notClosing, ih]
    rfl

theorem inside_of_close? {cs inside after : List Char} (h : close? cs = some (inside, after)) :
    Inside inside ∧ cs = inside ++ '\x7d' :: after := by
  fun_induction Braces.close? cs generalizing inside with
  | case1 => contradiction
  | case2 c rest ih =>
    simp only [Option.map_eq_some_iff, Prod.mk.injEq, Prod.exists] at h
    obtain ⟨_, _, found, rfl, rfl⟩ := h
    obtain ⟨inner, rfl⟩ := ih found
    exact ⟨.escaped c inner, rfl⟩
  | case3 rest =>
    simp only [Option.some.injEq, Prod.mk.injEq] at h
    obtain ⟨rfl, rfl⟩ := h
    exact ⟨.nil, rfl⟩
  | case4 c rest notEscape notClosing ih =>
    simp only [Option.map_eq_some_iff, Prod.mk.injEq, Prod.exists] at h
    obtain ⟨within, behind, found, rfl, rfl⟩ := h
    obtain ⟨inner, rfl⟩ := ih found
    refine ⟨.plain ?_ notClosing inner, rfl⟩
    -- The closing brace is behind it, so a backslash would have taken a character along.
    rintro rfl
    obtain ⟨d, more, next⟩ := List.exists_cons_of_ne_nil (List.append_ne_nil_of_right_ne_nil within
      (List.cons_ne_nil '\x7d' behind))
    exact notEscape d more rfl next

theorem close?_eq_some_iff {cs inside after : List Char} :
    close? cs = some (inside, after) ↔ Inside inside ∧ cs = inside ++ '\x7d' :: after := by
  constructor
  · exact inside_of_close?
  · rintro ⟨inner, rfl⟩
    exact inner.close? after

/-- A group starts a text if an opening brace does, and a text for the inside of a group and a
closing brace follow it. -/
theorem groupAt?_eq_some_iff {cs inside after : List Char} :
    groupAt? cs = some (inside, after) ↔
      Inside inside ∧ cs = '\x7b' :: (inside ++ '\x7d' :: after) := by
  unfold groupAt?
  split
  · rw [close?_eq_some_iff, List.cons.injEq, and_iff_right rfl]
  · rename_i other
    refine iff_of_false (by simp) ?_
    rintro ⟨-, rfl⟩
    exact other _ rfl

/-! ## Texts without backslashes -/

theorem inside_iff_of_noEscape {cs : List Char} (noEscape : '\\' ∉ cs) :
    Inside cs ↔ '\x7d' ∉ cs := by
  induction cs with
  | nil => simp [Inside.nil]
  | cons c cs ih =>
    rw [List.mem_cons, not_or] at noEscape ⊢
    constructor
    · intro inner
      cases inner with
      | escaped d inner => exact absurd rfl noEscape.1
      | plain _ notClosing inner => exact ⟨Ne.symm notClosing, (ih noEscape.2).mp inner⟩
    · rintro ⟨notClosing, others⟩
      exact .plain (Ne.symm noEscape.1) (Ne.symm notClosing) ((ih noEscape.2).mpr others)

theorem unescape_plain {c : Char} (notEscape : c ≠ '\\') (rest : List Char) :
    unescape (c :: rest) = c :: unescape rest := by
  rw [unescape.eq_def]
  split <;> simp_all

theorem unescape_of_noEscape {cs : List Char} (noEscape : '\\' ∉ cs) : unescape cs = cs := by
  induction cs with
  | nil => rfl
  | cons c cs ih =>
    rw [List.mem_cons, not_or] at noEscape
    rw [unescape_plain (Ne.symm noEscape.1), ih noEscape.2]

/-! ## Escaping -/

/-- A character as it is written in a group. -/
def escapeChar (c : Char) : List Char := if c = '\\' ∨ c = '\x7d' then ['\\', c] else [c]

/-- A text as it is written in a group. -/
def escape (cs : List Char) : List Char := cs.flatMap escapeChar

theorem inside_escape (cs : List Char) : Inside (escape cs) := by
  induction cs with
  | nil => exact .nil
  | cons c cs ih =>
    unfold escape at *
    rw [List.flatMap_cons, escapeChar]
    split
    · exact .escaped c ih
    · rename_i other
      rw [not_or] at other
      exact .plain other.1 other.2 ih

theorem unescape_escape (cs : List Char) : unescape (escape cs) = cs := by
  induction cs with
  | nil => rfl
  | cons c cs ih =>
    unfold escape at *
    rw [List.flatMap_cons, escapeChar]
    split
    · rw [List.cons_append, List.singleton_append, unescape, ih]
    · rename_i other
      rw [not_or] at other
      rw [List.singleton_append, unescape_plain other.1, ih]

end CiteStyle.Braces
