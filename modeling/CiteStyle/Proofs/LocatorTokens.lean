-- A locator loses nothing but its labels. The texts of its parts, one behind the
-- other, are read as the tokens of the locator without the labels, and without
-- the commas and semicolons at the end of the last part. A list of numbers and
-- any other text are spelled by rules of their own; under both, a word is never
-- next to the word in front of it, and every mark is read as itself.
import CiteStyle.Locator
import CiteStyle.Proofs.Runs
import CiteStyle.Proofs.TokenTexts

namespace CiteStyle.Locator

open Text

/-! ## Tokens without labels -/

/-- A word that is known as a label. -/
def Token.isLabel : Token → Bool
  | .word text => (Label.ofWord? text).isSome
  | _ => false

/-- Tokens without the labels and without the commas and semicolons that end the last part. A
label is the first token or comes right after a comma or a semicolon, and something follows it;
`first` says that the next token is in such a place. -/
def unlabelled (first : Bool) : List Token → List Token
  | [] => []
  | t :: rest =>
    if first && t.isLabel && !rest.isEmpty then unlabelled false rest
    else if (t :: rest).all Token.endsPart then []
    else t :: unlabelled t.endsPart rest

theorem unlabelled_sublist (first : Bool) (ts : List Token) : (unlabelled first ts).Sublist ts := by
  induction ts generalizing first with
  | nil => exact .slnil
  | cons t ts ih =>
    rw [unlabelled]
    split
    · exact (ih _).cons t
    · split
      · exact List.nil_sublist _
      · exact (ih _).cons_cons t

theorem unlabelled_of_ends {first : Bool} {ts : List Token} (h : ts.all Token.endsPart) :
    unlabelled first ts = [] := by
  cases ts with
  | nil => rfl
  | cons t ts =>
    have noLabel : t.isLabel = false := by
      cases t <;> first | rfl | simp [Token.endsPart] at h
    simp [unlabelled, noLabel, h]

theorem leadingLabel?_eq_some {ts after : List Token} {label : Label}
    (h : leadingLabel? ts = some (label, after)) :
    ∃ t, t.isLabel ∧ after ≠ [] ∧ ts = t :: after := by
  unfold leadingLabel? at h
  split at h
  · rename_i text next rest
    rw [Option.map_eq_some_iff] at h
    obtain ⟨found, known, same⟩ := h
    obtain ⟨-, rfl⟩ := Prod.mk.inj same
    exact ⟨.word text, by simp [Token.isLabel, known], List.cons_ne_nil _ _, rfl⟩
  · contradiction

theorem unlabelled_of_label {ts after : List Token} {label : Label}
    (h : leadingLabel? ts = some (label, after)) : unlabelled true ts = unlabelled false after := by
  obtain ⟨t, known, filled, rfl⟩ := leadingLabel?_eq_some h
  simp [unlabelled, known, filled]

theorem unlabelled_of_none {ts : List Token} (h : leadingLabel? ts = none) (first : Bool) :
    unlabelled first ts = unlabelled false ts := by
  rcases ts with _ | ⟨t, _ | ⟨next, rest⟩⟩
  · rfl
  · simp [unlabelled]
  · cases t with
    | word text =>
      rw [leadingLabel?, Option.map_eq_none_iff] at h
      simp [unlabelled, Token.isLabel, h]
    | _ => simp [unlabelled, Token.isLabel]

/-! ## The tokens of segments -/

/-- Segments and their tokens in order, where every segment but the last ends with a comma or a
semicolon. -/
inductive Cut : List Segment → List Token → Prop
  | last {s : Segment} (ending : s.ending = none) : Cut [s] s.tokens
  | cons {s : Segment} {mark : Token} {rest : List Segment} {ts : List Token}
      (ending : s.ending = some mark) (ends : mark.endsPart) (others : Cut rest ts) :
      Cut (s :: rest) (s.tokens ++ mark :: ts)

theorem segmentsFrom_cut {label : Option Label} {next : Label} {taken rest after : List Token}
    {t : Token} (h : leadingLabel? rest = some (next, after)) (ends : t.endsPart) :
    segmentsFrom label taken (t :: rest) =
      ⟨label, taken, some t⟩ :: segmentsFrom (some next) [] after := by
  rw [segmentsFrom]
  split <;> simp_all

theorem segmentsFrom_take {label : Option Label} {taken rest : List Token} {t : Token}
    (h : t.endsPart → leadingLabel? rest = none) :
    segmentsFrom label taken (t :: rest) = segmentsFrom label (taken ++ [t]) rest := by
  rw [segmentsFrom]
  split <;> simp_all

theorem segmentsFrom_ne_nil (label : Option Label) (taken ts : List Token) :
    segmentsFrom label taken ts ≠ [] := by
  induction label, taken, ts using segmentsFrom.induct with
  | case1 => simp [segmentsFrom]
  | case2 label taken t rest next after h ends => simp [segmentsFrom_cut h ends]
  | case3 label taken t rest next after h noEnd ih => rwa [segmentsFrom_take (absurd · noEnd)]
  | case4 label taken t rest h ih => rwa [segmentsFrom_take fun _ => h]

/-- What is kept of the tokens that a segment has so far and of those after it. -/
def kept (taken ts : List Token) : List Token :=
  if ts.all Token.endsPart then dropEndWhile Token.endsPart taken else taken ++ unlabelled false ts

theorem kept_nil (ts : List Token) : kept [] ts = unlabelled false ts := by
  unfold kept
  split
  · rw [unlabelled_of_ends ‹_›]
    rfl
  · rfl

/-- In front of a label, nothing is lost at the end. -/
theorem kept_cut {taken rest after : List Token} {label : Label} {t : Token}
    (h : leadingLabel? rest = some (label, after)) :
    kept taken (t :: rest) = taken ++ t :: unlabelled t.endsPart rest := by
  obtain ⟨t', known, -, rfl⟩ := leadingLabel?_eq_some h
  have noEnd : t'.endsPart = false := by
    cases t' <;> first | rfl | contradiction
  simp [kept, unlabelled, noEnd]

theorem kept_take {taken rest : List Token} {t : Token}
    (h : t.endsPart → leadingLabel? rest = none) :
    kept taken (t :: rest) = kept (taken ++ [t]) rest := by
  have next : unlabelled t.endsPart rest = unlabelled false rest := by
    cases ends : t.endsPart with
    | false => rfl
    | true => exact unlabelled_of_none (h ends) true
  unfold kept
  rw [unlabelled, next, List.all_cons]
  by_cases ends : t.endsPart <;> by_cases others : rest.all Token.endsPart
  · simp [ends, others, dropEndWhile]
  · simp [ends, others]
  · simp [ends, others, dropEndWhile, unlabelled_of_ends others]
  · simp [ends, others]

/-- The last segment loses the commas and semicolons at its end, and no other token is lost
behind the label of the first one. -/
theorem cut_segmentsFrom (label : Option Label) (taken ts : List Token) :
    Cut (trimLast (segmentsFrom label taken ts)) (kept taken ts) := by
  induction label, taken, ts using segmentsFrom.induct with
  | case1 label taken =>
    rw [segmentsFrom]
    exact .last rfl
  | case2 label taken t rest next after h ends ih =>
    -- Segments follow, so it is not this one that loses its end.
    obtain ⟨s, others, hsegs⟩ :=
      List.exists_cons_of_ne_nil (segmentsFrom_ne_nil (some next) [] after)
    rw [kept_nil, ← unlabelled_of_label h] at ih
    rw [segmentsFrom_cut h ends, kept_cut h, ends]
    rw [hsegs] at ih ⊢
    exact .cons rfl ends ih
  | case3 label taken t rest next after h noEnd ih =>
    have take : t.endsPart → leadingLabel? rest = none := (absurd · noEnd)
    rwa [segmentsFrom_take take, kept_take take]
  | case4 label taken t rest h ih =>
    have take : t.endsPart → leadingLabel? rest = none := fun _ => h
    rwa [segmentsFrom_take take, kept_take take]

theorem cut_segments (ts : List Token) : Cut (trimLast (segments ts)) (unlabelled true ts) := by
  unfold segments
  split
  · rw [unlabelled_of_label ‹_›, ← kept_nil]
    exact cut_segmentsFrom _ _ _
  · rw [unlabelled_of_none ‹_›, ← kept_nil]
    exact cut_segmentsFrom _ _ _

/-! ## Words and marks -/

/-- A token that a text can be read as: a word has characters, and all of them may stand in a
word. -/
def Token.IsProper : Token → Prop
  | .word text => text ≠ "" ∧ ∀ c ∈ text.toList, isWordChar c
  | _ => True

theorem isProper_of_mark? {c : Char} {t : Token} (h : mark? c = some t) : t.IsProper := by
  unfold mark? at h
  split_ifs at h <;> cases h <;> exact trivial

theorem tokensOf?_blank {c : Char} (plain : isPlainBlank c) (rest : List Char) :
    tokensOf? (c :: rest) = tokensOf? rest := by
  rw [tokensOf?, if_pos plain]

theorem isProper_of_tokensOf? {cs : List Char} {ts : List Token} (h : tokensOf? cs = some ts) :
    ∀ t ∈ ts, t.IsProper := by
  induction cs using tokensOf?.induct generalizing ts with
  | case1 =>
    rw [tokensOf?, Option.some.injEq] at h
    simp [← h]
  | case2 c rest plain ih =>
    rw [tokensOf?_blank plain] at h
    exact ih h
  | case3 c rest plain mark found ih =>
    rw [tokensOf?, if_neg plain, found, Option.map_eq_some_iff] at h
    obtain ⟨others, read, rfl⟩ := h
    exact List.forall_mem_cons.mpr ⟨isProper_of_mark? found, ih read⟩
  | case4 c rest plain noMark blank =>
    rw [tokensOf?, if_neg plain, noMark, if_pos blank] at h
    contradiction
  | case5 c rest plain noMark blank ih =>
    rw [tokensOf?, if_neg plain, noMark, if_neg blank, Option.map_eq_some_iff] at h
    obtain ⟨others, read, rfl⟩ := h
    refine List.forall_mem_cons.mpr ⟨⟨by simp, ?_⟩, ih read⟩
    rw [String.toList_ofList]
    intro d hd
    rcases List.mem_cons.mp hd with rfl | hd
    · simp [isWordChar, noMark, blank]
    · exact List.all_eq_true.mp List.all_takeWhile d hd

theorem tokensOf?_nil : tokensOf? [] = some [] := by rw [tokensOf?]

theorem separates_space : Separates tokensOf? isWordChar [' '] [] where
  endsWord := endsWord_cons (by decide)
  reads rest := by
    rw [List.cons_append, tokensOf?_blank (by decide)]
    simp

theorem isPlainBlank_mark {c : Char} {t : Token} (h : mark? c = some t) :
    isPlainBlank c = false := by
  by_contra plain
  simp only [isPlainBlank, Bool.not_eq_false, Bool.or_eq_true, beq_iff_eq] at plain
  rcases plain with ((rfl | rfl) | rfl) | rfl <;> contradiction

theorem separates_mark {c : Char} {t : Token} (h : mark? c = some t) :
    Separates tokensOf? isWordChar [c] [t] where
  endsWord := endsWord_cons (by simp [isWordChar, h])
  reads rest := by
    rw [List.cons_append, tokensOf?]
    simp [isPlainBlank_mark h, h]

/-- A mark with a space behind it. -/
theorem separates_behind {c : Char} {t : Token} (h : mark? c = some t) :
    Separates tokensOf? isWordChar [c, ' '] [t] :=
  (separates_mark h).append separates_space.reads

/-- A mark with a space on both sides. -/
theorem separates_between {c : Char} {t : Token} (h : mark? c = some t) :
    Separates tokensOf? isWordChar [' ', c, ' '] [t] :=
  separates_space.append (separates_behind h).reads

theorem tokensOf?_wordChar (c : Char) (rest : List Char) (h : isWordChar c) :
    tokensOf? (c :: rest) = (tokensOf? (rest.dropWhile isWordChar)).map
      (.word (String.ofList (c :: rest.takeWhile isWordChar)) :: ·) := by
  simp only [isWordChar, Bool.and_eq_true, Bool.not_eq_true', Option.isNone_iff_eq_none] at h
  obtain ⟨noBlank, noMark⟩ := h
  rw [tokensOf?, noMark]
  simp only [isPlainBlank_eq_false noBlank, noBlank, if_false, Bool.false_eq_true]

theorem spells_word {word : String} (h : (Token.word word).IsProper) :
    Spells tokensOf? isWordChar word.toList [.word word] := by
  have run := spells_run (Token.word <| String.ofList ·) tokensOf?_wordChar (by simpa using h.1) h.2
  rwa [String.ofList_toList] at run

/-! ## The two spellings -/

theorem itemsFrom?_cons {seen n : Nat} {due : Bool} {t : Token} {ts : List Token}
    (h : itemsFrom? seen due (t :: ts) = some n) :
    (t.isItem ∧ due ∧ itemsFrom? (seen + 1) false ts = some n) ∨
      (¬t.isItem ∧ t.joins ∧ itemsFrom? seen true ts = some n) := by
  rw [itemsFrom?] at h
  split_ifs at h with item isDue joins
  · exact .inl ⟨item, isDue, h⟩
  · exact .inr ⟨item, joins, h⟩

/-- In a list, the text after an item does not go on with its word. -/
theorem endsWord_listText {seen n : Nat} {ts : List Token} {rest : List Char}
    (h : itemsFrom? seen false ts = some n) (ends : EndsWord isWordChar rest) :
    EndsWord isWordChar (listTextFrom false ts ++ rest) := by
  obtain _ | ⟨t, ts⟩ := ts
  · exact ends
  · rcases itemsFrom?_cons h with ⟨-, due, -⟩ | ⟨-, joins, -⟩
    · contradiction
    · cases t with
      | word text =>
        rw [Token.joins, beq_iff_eq] at joins
        rw [listTextFrom, if_pos joins]
        exact endsWord_cons (by decide) _
      | _ => exact endsWord_cons (by decide) _

/-- The space in front of a joining word is left out only behind another space, so the tokens are
the same with it and without it. -/
theorem spells_listText {seen n : Nat} {due : Bool} {ts : List Token}
    (proper : ∀ t ∈ ts, t.IsProper) (h : itemsFrom? seen due ts = some n) (spaced : Bool) :
    Spells tokensOf? isWordChar (listTextFrom spaced ts) ts := by
  induction ts generalizing seen due spaced with
  | nil => exact reads_nil.spells
  | cons t ts ih =>
    rw [List.forall_mem_cons] at proper
    obtain ⟨first, others⟩ := proper
    rcases itemsFrom?_cons h with ⟨item, -, list⟩ | ⟨-, joins, list⟩
    · cases t with
      | word text =>
        have noAnd : text ≠ "and" := by
          rintro rfl
          contradiction
        rw [listTextFrom, if_neg noAnd]
        exact (spells_word first).append (ih others list false) fun _ => endsWord_listText list
      | _ => contradiction
    · have next := ih others list
      cases t with
      | comma => exact (separates_behind rfl).reads.append_spells (next true)
      | semicolon => exact (separates_behind rfl).reads.append_spells (next true)
      | ampersand => exact (separates_between rfl).reads.append_spells (next true)
      | dash => exact (separates_mark rfl).reads.append_spells (next false)
      | word text =>
        rw [Token.joins, beq_iff_eq] at joins
        subst joins
        have and : Reads tokensOf? "and ".toList [.word "and"] :=
          (spells_word first).append_mark separates_space
        have front : Reads tokensOf? (if spaced then [] else [' ']) [] := by
          cases spaced
          · exact separates_space.reads
          · exact reads_nil
        rw [listTextFrom, if_pos rfl]
        exact (front.append and).append_spells (next true)

/-- In a text that is no list, a space or a mark stands behind a word. -/
theorem endsWord_plainText (ts : List Token) {rest : List Char}
    (ends : EndsWord isWordChar rest) : EndsWord isWordChar (plainTextFrom true ts ++ rest) := by
  rcases ts with _ | ⟨_ | _, ts⟩
  · exact ends
  all_goals exact endsWord_cons (by decide) _

theorem spells_plainText {ts : List Token} (proper : ∀ t ∈ ts, t.IsProper) (due : Bool) :
    Spells tokensOf? isWordChar (plainTextFrom due ts) ts := by
  induction ts generalizing due with
  | nil => exact reads_nil.spells
  | cons t ts ih =>
    rw [List.forall_mem_cons] at proper
    obtain ⟨first, others⟩ := proper
    have next := ih others
    cases t with
    | comma => exact (separates_mark rfl).reads.append_spells (next true)
    | semicolon => exact (separates_mark rfl).reads.append_spells (next true)
    | ampersand => exact (separates_between rfl).reads.append_spells (next false)
    | dash => exact (separates_mark rfl).reads.append_spells (next false)
    | word text =>
      have front : Reads tokensOf? (if due then [' '] else []) [] := by
        cases due
        · exact reads_nil
        · exact separates_space.reads
      have word : Spells tokensOf? isWordChar (text.toList ++ plainTextFrom true ts)
          (.word text :: ts) :=
        (spells_word first).append (next true) fun _ => endsWord_plainText ts
      rw [plainTextFrom, List.append_assoc]
      exact front.append_spells word

/-! ## The texts of segments and parts -/

/-- The tokens of a segment, in whichever spelling, in front of the mark that ends it. -/
theorem Segment.exists_body (s : Segment) (proper : ∀ t ∈ s.tokens, t.IsProper) :
    ∃ body, Spells tokensOf? isWordChar body s.tokens ∧
      s.toPart.text.toList = body ++ endingText s.ending := by
  refine ⟨_, ?_, String.toList_ofList⟩
  cases h : items? s.tokens with
  | none => exact spells_plainText proper false
  | some n => exact spells_listText proper h false

theorem separates_ending {t : Token} (h : t.endsPart) :
    Separates tokensOf? isWordChar (endingText (some t)) [t] := by
  cases t with
  | comma => exact separates_behind rfl
  | semicolon => exact separates_behind rfl
  | _ => contradiction

theorem Cut.spells {segs : List Segment} {ts : List Token} (h : Cut segs ts)
    (proper : ∀ t ∈ ts, t.IsProper) :
    Spells tokensOf? isWordChar (segs.flatMap fun s => s.toPart.text.toList) ts := by
  induction h with
  | @last s ending =>
    obtain ⟨body, spells, text⟩ := s.exists_body proper
    rw [List.flatMap_singleton, text, ending]
    simpa [endingText] using spells
  | @cons s mark rest ts ending ends _ ih =>
    simp only [List.forall_mem_append, List.forall_mem_cons] at proper
    obtain ⟨own, -, others⟩ := proper
    obtain ⟨body, spells, text⟩ := s.exists_body own
    rw [List.flatMap_cons, text, ending, List.append_cons]
    exact (spells.append_mark (separates_ending ends)).append_spells (ih others)

theorem join_joinSame (current : Part) (rest : List Part) :
    String.join ((joinSame current rest).map (·.text)) =
      String.join ((current :: rest).map (·.text)) := by
  induction rest generalizing current with
  | nil => rfl
  | cons next rest ih =>
    rw [joinSame]
    split
    · simp [ih, String.append_assoc]
    · simp [ih]

/-- Neighbours that are joined keep their texts in order. -/
theorem join_parts {value : String} {ts : List Token} (read : tokensOf? value.toList = some ts)
    (filled : ts ≠ []) :
    String.join ((parts value).map (·.text)) =
      String.join ((trimLast (segments ts)).map fun s => s.toPart.text) := by
  unfold parts
  rw [read]
  split
  · contradiction
  · simp_all
  · rename_i same
    rw [Option.some.injEq] at same
    subst same
    split
    · rename_i none
      rw [List.map_eq_nil_iff] at none
      rw [none]
      rfl
    · rename_i first rest same
      rw [join_joinSame, ← same, List.map_map]
      rfl

/-- A text that can be read loses nothing but its labels and the commas and semicolons at the end
of its last part: the texts of all parts, one behind the other, are read as the other tokens, in
their order. -/
theorem tokensOf?_parts {value : String} {ts : List Token} (read : tokensOf? value.toList = some ts)
    (filled : ts ≠ []) :
    tokensOf? (String.join ((parts value).map (·.text))).toList = some (unlabelled true ts) := by
  have proper : ∀ t ∈ unlabelled true ts, t.IsProper := fun t ht =>
    isProper_of_tokensOf? read t ((unlabelled_sublist true ts).subset ht)
  have spells := (cut_segments ts).spells proper
  rw [join_parts read filled, String.toList_join, List.flatMap_map]
  exact spells.read_eq tokensOf?_nil

/-- A locator with labels, a label that is only a word, both spellings, equal labels that are joined
and separators at the end. -/
def mixedLocator : String := "ch. 5 foo, sec. 1-5 , Sec. p., 3;,"

def mixedTokens : List Token :=
  [.word "ch.", .word "5", .word "foo", .comma, .word "sec.", .word "1", .dash, .word "5", .comma,
    .word "Sec.", .word "p.", .comma, .word "3", .semicolon, .comma]

theorem tokensOf?_parts_mixed :
    tokensOf? mixedLocator.toList = some mixedTokens ∧ mixedTokens ≠ [] ∧
      tokensOf? (String.join ((parts mixedLocator).map (·.text))).toList =
        some [.word "5", .word "foo", .comma, .word "1", .dash, .word "5", .comma, .word "p.", .comma,
          .word "3"] := by
  have read : tokensOf? mixedLocator.toList = some mixedTokens := by decide +kernel
  have kept : unlabelled true mixedTokens =
      [.word "5", .word "foo", .comma, .word "1", .dash, .word "5", .comma, .word "p.", .comma,
        .word "3"] := by
    decide +kernel
  exact ⟨read, by decide, kept ▸ tokensOf?_parts read (by decide)⟩

end CiteStyle.Locator
