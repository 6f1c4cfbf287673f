-- Title case, word by word. A word is a longest run that starts with a letter or a digit, and
-- nothing but the first character of a word is ever changed. In upper case this character starts
-- a word again and has a capital, so that the title has the same words in the same places, and
-- to make a title of it changes nothing more.
import CiteStyle.Proofs.Capitals

namespace CiteStyle.TextCase

open Text

variable {cs : List Char}

/-! ## Words and what stands between them -/

/-- A stretch of a text: a character between words, or a word. -/
inductive Stretch where
  | between (c : Char)
  | word (first : Char) (rest : List Char)
  deriving DecidableEq, Repr

/-- A text in words, with the characters between them. A word starts with a letter or a digit
wherever none is under way, and goes on as long as characters of words follow. -/
inductive InWords : List Char → List Stretch → Prop
  | nil : InWords [] []
  | between {c : Char} {cs : List Char} {ss : List Stretch} (outside : startsWord c = false)
      (others : InWords cs ss) : InWords (c :: cs) (.between c :: ss)
  | word {first : Char} {rest cs : List Char} {ss : List Stretch} (starts : startsWord first)
      (within : ∀ c ∈ rest, continuesWord c) (longest : ∀ c ∈ cs.head?, continuesWord c = false)
      (others : InWords cs ss) : InWords (first :: (rest ++ cs)) (.word first rest :: ss)

/-- The stretches of a text. -/
def stretches (cs : List Char) : List Stretch :=
  match cs with
  | [] => []
  | c :: rest =>
    if startsWord c then
      .word c (rest.takeWhile continuesWord) :: stretches (rest.dropWhile continuesWord)
    else .between c :: stretches rest
termination_by cs.length
decreasing_by
  · have := (List.dropWhile_sublist continuesWord (l := rest)).length_le
    simp
    omega
  · simp

theorem inWords_stretches (cs : List Char) : InWords cs (stretches cs) := by
  induction cs using stretches.induct with
  | case1 =>
    rw [stretches]
    exact .nil
  | case2 c rest starts ih =>
    rw [stretches, if_pos starts]
    have within : ∀ d ∈ rest.takeWhile continuesWord, continuesWord d :=
      List.all_eq_true.mp List.all_takeWhile
    have word := InWords.word starts within head?_dropWhile ih
    rwa [List.takeWhile_append_dropWhile] at word
  | case3 c rest outside ih =>
    rw [stretches, if_neg outside]
    exact .between (Bool.eq_false_iff.mpr outside) ih

theorem inWords_iff {ss : List Stretch} : InWords cs ss ↔ ss = stretches cs := by
  constructor
  · intro h
    induction h with
    | nil => rw [stretches]
    | between outside _ ih => rw [stretches, if_neg (Bool.eq_false_iff.mp outside), ih]
    | word starts within longest _ ih =>
      rw [stretches, if_pos starts, takeWhile_run within longest, dropWhile_run within longest, ih]
  · rintro rfl
    exact inWords_stretches cs

/-! ## Titles -/

/-- What a title has for the first character of a word; `opening` says that no word came before.
A word with a capital is kept, and so is a word that titles write small, unless it opens one. -/
def wordHead (opening : Bool) (first : Char) (rest : List Char) : List Char :=
  if (first :: rest).any isUppercase ||
      (!opening && stopWords.contains (String.ofList (first :: rest))) then [first]
  else upperChar first

/-- The text of some stretches in a title. All but the first characters of words is kept. -/
def titled (opening : Bool) : List Stretch → List Char
  | [] => []
  | .between c :: ss => c :: titled opening ss
  | .word first rest :: ss => wordHead opening first rest ++ (rest ++ titled false ss)

theorem titleWord_cons (opening : Bool) (first : Char) (rest : List Char) :
    titleWord opening (first :: rest) = wordHead opening first rest ++ rest := by
  unfold titleWord wordHead
  cases (first :: rest).any isUppercase <;>
    cases opening <;> cases stopWords.contains (String.ofList (first :: rest)) <;> rfl

theorem titleFrom_eq_titled (opening : Bool) (cs : List Char) :
    titleFrom opening cs = titled opening (stretches cs) := by
  fun_induction titleFrom opening cs with
  | case1 => rw [stretches, titled]
  | case2 opening c rest starts ih =>
    rw [stretches, if_pos starts, titled, titleWord_cons, ih, List.append_assoc]
  | case3 opening c rest outside ih => rw [stretches, if_neg outside, titled, ih]

/-! ## Titles of titles -/

/-- The first character of a word in a title starts a word, and stays when the word is put in a
title again. -/
theorem wordHead_again {first : Char} (starts : startsWord first) (capitalizes : Capitalizes first)
    (opening : Bool) (rest : List Char) :
    ∃ d ds, wordHead opening first rest = d :: ds ∧ startsWord d ∧ (∀ e ∈ ds, continuesWord e) ∧
      wordHead opening d (ds ++ rest) = [d] := by
  by_cases kept : wordHead opening first rest = [first]
  · exact ⟨first, [], kept, starts, by simp, kept⟩
  · have changed : wordHead opening first rest = upperChar first := by
      unfold wordHead at kept ⊢
      split at kept
      · exact absurd rfl kept
      · rw [if_neg ‹_›]
    obtain ⟨d, head, begins⟩ := capitalizes.starts
    obtain ⟨ds, upper⟩ := List.head?_eq_some_iff.mp head
    have continues : ∀ e ∈ ds, continuesWord e := by
      have tail := capitalizes.continues
      rwa [upper] at tail
    -- A word that is changed is given a capital.
    have capital : ∃ e ∈ d :: ds, isUppercase e := by
      rw [← upper]
      exact capitalizes.capital.resolve_right fun same => kept (changed.trans same)
    have capitals : (d :: (ds ++ rest)).any isUppercase := by
      obtain ⟨e, mem, is⟩ := capital
      exact List.any_eq_true.mpr ⟨e, List.mem_append_left rest mem, is⟩
    refine ⟨d, ds, changed.trans upper, begins, continues, ?_⟩
    rw [wordHead, capitals, Bool.true_or, if_pos rfl]

/-- What does not go on with a word in a text does not do so in the title. -/
theorem InWords.head?_titled {ss : List Stretch} (h : InWords cs ss) (opening : Bool)
    (ends : ∀ c ∈ cs.head?, continuesWord c = false) :
    ∀ c ∈ (titled opening ss).head?, continuesWord c = false := by
  cases h with
  | nil => simp [titled]
  | between => exact ends
  | @word first _ _ _ starts =>
    have goesOn : continuesWord first := by simp [continuesWord, starts]
    rw [ends first rfl] at goesOn
    cases goesOn

/-- A title has its words where the text has them, and is its own title. -/
theorem InWords.titled_again {ss : List Stretch} (h : InWords cs ss)
    (capitalizes : ∀ first rest, .word first rest ∈ ss → Capitalizes first) (opening : Bool) :
    ∃ again, InWords (titled opening ss) again ∧ titled opening again = titled opening ss := by
  induction h generalizing opening with
  | nil => exact ⟨[], .nil, rfl⟩
  | @between c cs ss outside _ ih =>
    obtain ⟨again, words, same⟩ :=
      ih (fun first rest mem => capitalizes first rest (List.mem_cons_of_mem _ mem)) opening
    refine ⟨.between c :: again, .between outside words, ?_⟩
    rw [titled, titled, same]
  | @word first rest cs ss starts within longest others ih =>
    obtain ⟨again, words, same⟩ :=
      ih (fun first rest mem => capitalizes first rest (List.mem_cons_of_mem _ mem)) false
    obtain ⟨d, ds, head, begins, continues, stays⟩ :=
      wordHead_again starts (capitalizes first rest List.mem_cons_self) opening rest
    have whole : ∀ c ∈ ds ++ rest, continuesWord c := by
      rw [List.forall_mem_append]
      exact ⟨continues, within⟩
    refine ⟨.word d (ds ++ rest) :: again, ?_, ?_⟩
    · have word := InWords.word begins whole (others.head?_titled false longest) words
      rwa [titled, head, List.cons_append, ← List.append_assoc]
    · rw [titled, titled, stays, head, same]
      simp

/-- A text has its words in one way, and its title changes nothing but their first characters: not
that of a word with a capital, nor that of a word which is written small, unless it is the first
one. If the first characters have capitals that start words, then the title is its own title; of
all letters and digits, two have none. -/
theorem title_words (text : String) :
    ∃ ss, (∀ others, InWords text.toList others ↔ others = ss) ∧
      apply .title true text = String.ofList (titled true ss) ∧
      ((∀ first rest, .word first rest ∈ ss → Capitalizes first) →
        apply .title true (apply .title true text) = apply .title true text) ∧
      ∀ c, startsWord c → (Capitalizes c ↔ c ∉ lateCapitals) := by
  have title : ∀ cs, apply .title true (String.ofList cs) =
      String.ofList (titled true (stretches cs)) := by
    intro cs
    simp [apply, titleFrom_eq_titled]
  have first := title text.toList
  rw [String.ofList_toList] at first
  refine ⟨stretches text.toList, fun _ => inWords_iff, first, fun capitalizes => ?_,
    fun _ => capitalizes_iff⟩
  obtain ⟨again, words, same⟩ := (inWords_stretches text.toList).titled_again capitalizes true
  rw [first, title, ← inWords_iff.mp words, same]

/-- A ligature becomes two letters, of which one is a capital. -/
theorem title_words_ligature :
    apply .title true "in ﬁne in a" = "In FIne in a" ∧
      apply .title true "In FIne in a" = "In FIne in a" := by
  obtain ⟨ss, unique, -, again, capitals⟩ := title_words "in ﬁne in a"
  have title : apply .title true "in ﬁne in a" = "In FIne in a" := by decide +kernel
  have words : [.word 'i' ['n'], .between ' ', .word 'ﬁ' ['n', 'e'], .between ' ',
      .word 'i' ['n'], .between ' ', .word 'a' []] = ss :=
    (unique _).mp (inWords_iff.mpr (by decide +kernel))
  have capitalizes : ∀ first rest, .word first rest ∈ ss → Capitalizes first := by
    intro first rest mem
    have listed : first ∈ ['i', 'ﬁ', 'a'] := by
      simp only [← words, List.mem_cons, Stretch.word.injEq, reduceCtorEq] at mem
      grind
    have starts : ['i', 'ﬁ', 'a'].all startsWord := by decide +kernel
    have early : ['i', 'ﬁ', 'a'].all (· ∉ lateCapitals) := by decide +kernel
    rw [List.all_eq_true] at starts early
    exact (capitals first (starts first listed)).mpr (of_decide_eq_true (early first listed))
  have stays := again capitalizes
  rw [title] at stays
  exact ⟨title, stays⟩

/-- The capital of the letter in front is no letter for a title, so that a word starts behind it. -/
example : apply .title true "ꟓa" = "꟒a" ∧ apply .title true "꟒a" = "꟒A" := by decide +kernel

end CiteStyle.TextCase
