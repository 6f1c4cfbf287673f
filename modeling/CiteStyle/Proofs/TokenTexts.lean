-- Texts and the tokens that are read from them. A reader takes words as long as
-- they go on, so a text that ends with a word gives its tokens only in front of
-- what ends the word, and a text that ends with a mark gives them in front of
-- everything.
import CiteStyle.Proofs.Runs
import Mathlib.Data.List.Forall2

namespace CiteStyle.Text

section Readers

variable {τ : Type} (read : List Char → Option (List τ)) (inWord : Char → Bool)

/-- What follows does not go on with the word in front of it. -/
def EndsWord (rest : List Char) : Prop := ∀ c ∈ rest.head?, inWord c = false

/-- A text is read as some tokens, whatever follows it. -/
def Reads (cs : List Char) (ts : List τ) : Prop :=
  ∀ rest, read (cs ++ rest) = (read rest).map (ts ++ ·)

/-- A text is read as some tokens, if what follows it ends the word at its end. -/
def Spells (cs : List Char) (ts : List τ) : Prop :=
  ∀ rest, EndsWord inWord rest → read (cs ++ rest) = (read rest).map (ts ++ ·)

/-- A mark is read as some tokens, and ends the word in front of it. -/
structure Separates (mark : List Char) (ts : List τ) : Prop where
  endsWord : ∀ rest, EndsWord inWord (mark ++ rest)
  reads : Reads read mark ts

end Readers

variable {τ : Type} {read : List Char → Option (List τ)} {inWord : Char → Bool}
  {cs ds : List Char} {ts us : List τ}

theorem endsWord_cons {c : Char} (h : inWord c = false) (rest : List Char) :
    EndsWord inWord (c :: rest) := by
  intro d hd
  rw [List.head?_cons, Option.mem_some_iff] at hd
  exact hd ▸ h

theorem endsWord_nil : EndsWord inWord [] := fun _ hc => absurd hc (by simp)

/-- A reader that takes the longest run of characters of words takes a word up to its end. -/
theorem spells_run (word : List Char → τ)
    (step : ∀ c rest, inWord c → read (c :: rest) =
      (read (rest.dropWhile inWord)).map (word (c :: rest.takeWhile inWord) :: ·))
    (filled : cs ≠ []) (chars : ∀ c ∈ cs, inWord c) : Spells read inWord cs [word cs] := by
  intro rest ends
  obtain ⟨c, others, rfl⟩ := List.exists_cons_of_ne_nil filled
  rw [List.forall_mem_cons] at chars
  rw [List.cons_append, step c _ chars.1, takeWhile_run chars.2 ends, dropWhile_run chars.2 ends]
  rfl

/-! ## One text after the other -/

theorem reads_nil : Reads read [] [] := fun rest => by simp

theorem Reads.append (h : Reads read cs ts) (h' : Reads read ds us) :
    Reads read (cs ++ ds) (ts ++ us) := by
  intro rest
  rw [List.append_assoc, h, h', Option.map_map]
  simp only [Function.comp_def, List.append_assoc]

theorem Reads.spells (h : Reads read cs ts) : Spells read inWord cs ts := fun rest _ => h rest

/-- A word in front of a mark is read to its end, whatever follows the mark. -/
theorem Spells.append_mark (h : Spells read inWord cs ts) (mark : Separates read inWord ds us) :
    Reads read (cs ++ ds) (ts ++ us) := by
  intro rest
  rw [List.append_assoc, h _ (mark.endsWord rest), mark.reads, Option.map_map]
  simp only [Function.comp_def, List.append_assoc]

theorem Separates.append (mark : Separates read inWord cs ts) (h : Reads read ds us) :
    Separates read inWord (cs ++ ds) (ts ++ us) where
  endsWord rest := by
    rw [List.append_assoc]
    exact mark.endsWord _
  reads := mark.reads.append h

theorem Spells.append (h : Spells read inWord cs ts) (h' : Spells read inWord ds us)
    (ends : ∀ rest, EndsWord inWord rest → EndsWord inWord (ds ++ rest)) :
    Spells read inWord (cs ++ ds) (ts ++ us) := by
  intro rest hrest
  rw [List.append_assoc, h _ (ends rest hrest), h' rest hrest, Option.map_map]
  simp only [Function.comp_def, List.append_assoc]

theorem Reads.append_spells (h : Reads read cs ts) (h' : Spells read inWord ds us) :
    Spells read inWord (cs ++ ds) (ts ++ us) := by
  intro rest hrest
  rw [List.append_assoc, h, h' rest hrest, Option.map_map]
  simp only [Function.comp_def, List.append_assoc]

/-- What a whole text is read as, if the reader takes no text for no tokens. -/
theorem Spells.read_eq (h : Spells read inWord cs ts) (none : read [] = some []) :
    read cs = some ts := by
  have alone := h [] endsWord_nil
  rw [List.append_nil, none, Option.map_some, List.append_nil] at alone
  exact alone

/-- Texts with a mark between them are read as their tokens, with those of the mark between
them. -/
theorem spells_intercalate {mark : List Char} {marks : List τ}
    (sep : Separates read inWord mark marks) {texts : List (List Char)} {tss : List (List τ)}
    (h : List.Forall₂ (Spells read inWord) texts tss) :
    Spells read inWord (mark.intercalate texts) (marks.intercalate tss) := by
  induction h with
  | nil => exact reads_nil.spells
  | cons first others ih =>
    cases others with
    | nil => simpa using first
    | cons second others =>
      rw [List.intercalate_cons_cons, List.intercalate_cons_cons]
      exact (first.append_mark sep).append_spells ih

end CiteStyle.Text
