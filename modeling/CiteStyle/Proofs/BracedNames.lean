-- Names in braces. A name that is one group is the text of the group, and with escaping
-- every text is the text of a group. Without escaping, the first closing brace ends the
-- group, also one that an opening brace in front of it calls for, and what follows it
-- is read as words.
import CiteStyle.Proofs.NameWords

namespace CiteStyle.Name

open Text

/-! ## Texts in braces -/

/-- A text in braces. -/
def braced (text : String) : String := "\x7b" ++ text ++ "\x7d"

/-- Texts in braces with the word and between them. -/
def bracedList (texts : List String) : String := String.intercalate " and " (texts.map braced)

/-- The text of a group from what stands between its braces. -/
def groupText (text : String) : String := String.ofList (Braces.unescape text.toList)

/-- A text as it is written between the braces of a group. -/
def escaped (text : String) : String := String.ofList (Braces.escape text.toList)

/-- The braces of a text belong together: there are as many of each kind, and no front part of the
text closes more than it opens. -/
structure Balanced (text : String) : Prop where
  same : text.toList.count '\x7b' = text.toList.count '\x7d'
  opened : ∀ front ∈ text.toList.inits, front.count '\x7d' ≤ front.count '\x7b'

instance (text : String) : Decidable (Balanced text) :=
  decidable_of_iff
    (text.toList.count '\x7b' = text.toList.count '\x7d' ∧
      ∀ front ∈ text.toList.inits, front.count '\x7d' ≤ front.count '\x7b')
    ⟨fun ⟨same, opened⟩ => ⟨same, opened⟩, fun h => ⟨h.same, h.opened⟩⟩

theorem toList_braced (text : String) :
    (braced text).toList = '\x7b' :: (text.toList ++ ['\x7d']) := by
  simp [braced]

theorem groupText_of_noEscape {text : String} (noEscape : '\\' ∉ text.toList) :
    groupText text = text := by
  rw [groupText, Braces.unescape_of_noEscape noEscape, String.ofList_toList]

theorem groupText_escaped (text : String) : groupText (escaped text) = text := by
  rw [groupText, escaped, String.toList_ofList, Braces.unescape_escape, String.ofList_toList]

/-! ## What is kept -/

theorem reads_braced {text : String} (inner : Braces.Inside text.toList) :
    Reads tokensOf? (braced text).toList [.braced (groupText text)] := by
  intro rest
  have whole : (braced text).toList ++ rest = '\x7b' :: (text.toList ++ '\x7d' :: rest) := by
    simp [toList_braced]
  rw [whole, tokensOf?_group inner]
  rfl

/-- Groups with the word and between them are as many literal names. -/
theorem readList_inside {texts : List String} (filled : texts ≠ [])
    (inner : ∀ t ∈ texts, Braces.Inside t.toList) :
    readList (bracedList texts) = texts.map fun t => .ofLiteral (groupText t) := by
  have each : List.Forall₂ (Spells tokensOf? isWordChar)
      ((texts.map braced).map String.toList) (texts.map fun t => [.braced (groupText t)]) := by
    rw [List.map_map, List.forall₂_map_left_iff, List.forall₂_map_right_iff, List.forall₂_same]
    exact fun t mem => (reads_braced (inner t mem)).spells
  have spells := spells_intercalate separates_and each
  have read : list? (bracedList texts) =
      some (texts.map fun t => .ofLiteral (groupText t)) := by
    rw [list?_eq_some_iff]
    refine ⟨texts.map fun t => [.braced (groupText t)], ?_, by simpa using filled, by simp, ?_⟩
    · rw [← tokensOf?_eq_some_iff, bracedList, String.toList_intercalate]
      exact spells.read_eq tokensOf?_nil
    · rw [List.forall₂_map_left_iff, List.forall₂_map_right_iff, List.forall₂_same]
      exact fun t _ => .group _
  rw [readList, read, Option.getD_some]

/-- Texts that are escaped are kept, whatever they are. -/
theorem readList_escaped {texts : List String} (filled : texts ≠ []) :
    readList (bracedList (texts.map escaped)) = texts.map .ofLiteral := by
  have inner : ∀ t ∈ texts.map escaped, Braces.Inside t.toList := by
    intro t mem
    obtain ⟨u, -, rfl⟩ := List.mem_map.mp mem
    rw [escaped, String.toList_ofList]
    exact Braces.inside_escape u.toList
  rw [readList_inside (by simpa using filled) inner, List.map_map]
  exact List.map_congr_left fun t _ => congrArg Name.ofLiteral (groupText_escaped t)

/-! ## What is taken apart -/

theorem group_of_literal {ts : List Token} {n : Name} {text : String} (made : MadeOf ts n)
    (literal : n = .ofLiteral text) : ts = [.braced text] := by
  have kept := congrArg Name.literal literal
  cases made with
  | group text' =>
    obtain rfl := Option.some.inj kept
    rfl
  | _ => contradiction

/-- The first closing brace ends a group, whatever was opened in front of it. So a text with a
closing brace is not the text of the group that its braces start. -/
theorem noClosing_of_group {text : String} (noEscape : '\\' ∉ text.toList) {rest : List Char}
    {ts : List Token}
    (tokens : tokensOf? ((braced text).toList ++ rest) = some (.braced text :: ts)) :
    '\x7d' ∉ text.toList := by
  intro closing
  obtain ⟨front, behind, split, first⟩ := List.eq_append_cons_of_mem closing
  have plain : '\\' ∉ front := fun mem => noEscape (by simp [split, mem])
  have inner := (Braces.inside_iff_of_noEscape plain).mpr first
  have whole : (braced text).toList ++ rest =
      '\x7b' :: (front ++ '\x7d' :: (behind ++ '\x7d' :: rest)) := by
    simp [toList_braced, split]
  rw [whole, tokensOf?_group inner, Braces.unescape_of_noEscape plain,
    Option.map_eq_some_iff] at tokens
  obtain ⟨others, -, same⟩ := tokens
  have short : String.ofList front = text := Token.braced.inj (List.cons.inj same).1
  rw [← short, String.toList_ofList] at split
  simpa using congrArg List.length split

/-- Tokens that keep every text of a list as a group are read only if no text has a closing
brace. -/
theorem noClosing_of_groups {texts : List String} (noEscape : ∀ t ∈ texts, '\\' ∉ t.toList)
    (tokens : tokensOf? (bracedList texts).toList =
      some ([.word "and"].intercalate (texts.map ([.braced ·])))) :
    ∀ t ∈ texts, '\x7d' ∉ t.toList := by
  induction texts with
  | nil => simp
  | cons t texts ih =>
    rw [List.forall_mem_cons] at noEscape ⊢
    cases texts with
    | nil =>
      have alone : tokensOf? ((braced t).toList ++ []) = some [.braced t] := by
        simpa [bracedList] using tokens
      exact ⟨noClosing_of_group noEscape.1 alone, by simp⟩
    | cons u texts =>
      have whole : (bracedList (t :: u :: texts)).toList =
          (braced t).toList ++ ([' ', 'a', 'n', 'd', ' '] ++ (bracedList (u :: texts)).toList) := by
        simp [bracedList, String.toList_intercalate]
      have kept : [Token.word "and"].intercalate ((t :: u :: texts).map ([.braced ·])) =
          .braced t :: .word "and" :: [Token.word "and"].intercalate ((u :: texts).map ([.braced ·])) := by
        simp
      rw [whole, kept] at tokens
      have notClosing := noClosing_of_group noEscape.1 tokens
      refine ⟨notClosing, ih noEscape.2 ?_⟩
      have inner := (Braces.inside_iff_of_noEscape noEscape.1).mpr notClosing
      rw [reads_braced inner, separates_and.reads, groupText_of_noEscape noEscape.1] at tokens
      simpa using tokens

/-- Texts without backslashes in braces, with the word and between them, are kept as they are
exactly if none of them has a closing brace; if its braces belong together, a text then has no
brace at all. -/
theorem readList_braced {texts : List String} (filled : texts ≠ [])
    (noEscape : ∀ t ∈ texts, '\\' ∉ t.toList) :
    readList (bracedList texts) = texts.map .ofLiteral ↔ ∀ t ∈ texts, '\x7d' ∉ t.toList := by
  constructor
  · intro kept
    unfold readList at kept
    cases list : list? (bracedList texts) with
    | none =>
      -- The whole would be its only text, and that is shorter by the braces.
      rw [list, Option.getD_none, eq_comm, List.map_eq_singleton_iff] at kept
      obtain ⟨t, rfl, same⟩ := kept
      have whole := congrArg Name.literal same
      simp only [Name.ofLiteral, bracedList, List.map_cons, List.map_nil,
        String.intercalate_singleton, Option.some.injEq] at whole
      have lengths := congrArg (·.toList.length) whole
      simp only [toList_braced, List.length_cons, List.length_append] at lengths
      omega
    | some names =>
      obtain ⟨parts, tokens, -, -, made⟩ := list?_eq_some_iff.mp list
      obtain rfl : names = texts.map .ofLiteral := by simpa [list] using kept
      have groups : parts = texts.map ([.braced ·]) := by
        rw [List.forall₂_map_right_iff] at made
        rw [← List.forall₂_eq_eq_eq, List.forall₂_map_right_iff]
        exact made.imp fun ts t of => group_of_literal of rfl
      rw [groups, ← tokensOf?_eq_some_iff] at tokens
      exact noClosing_of_groups noEscape tokens
  · intro notClosing
    have inner : ∀ t ∈ texts, Braces.Inside t.toList := fun t mem =>
      (Braces.inside_iff_of_noEscape (noEscape t mem)).mpr (notClosing t mem)
    rw [readList_inside filled inner]
    refine List.map_congr_left fun t mem => ?_
    rw [groupText_of_noEscape (noEscape t mem)]

def literals : List String := ["Barnes and Noble, Inc.", "Jane Smith"]

theorem readList_braced_literals :
    literals ≠ [] ∧ (∀ t ∈ literals, '\\' ∉ t.toList) ∧
      (readList (bracedList literals) = literals.map .ofLiteral ↔
        ∀ t ∈ literals, '\x7d' ∉ t.toList) := by
  have noEscape : ∀ t ∈ literals, '\\' ∉ t.toList := by decide
  exact ⟨by decide, noEscape, readList_braced (by decide) noEscape⟩

/-- Not every text whose braces belong together is kept in braces: a closing brace inside ends the
group, and the rest is a family name. -/
theorem readList_splits_group :
    ¬∀ text, Balanced text → '\\' ∉ text.toList →
      readList (braced text) = [.ofLiteral text] := by
  intro kept
  have same := kept "The \x7bNASA\x7d Group" (by decide) (by decide)
  have split : readList (braced "The \x7bNASA\x7d Group") =
      [{ given := some "The \x7bNASA", family := some "Group\x7d" }] := by
    decide +kernel
  rw [split] at same
  contradiction

end CiteStyle.Name
