-- Names that are written in one of the three forms are read back. The text is a
-- list of lists: words with spaces between them, the parts of a name with
-- commas between them, names with the word and between them. Each level is
-- taken apart at its own marks, which no word of the levels below contains.
import CiteStyle.Name.Reader
import CiteStyle.Proofs.Runs
import CiteStyle.Proofs.TokenTexts

namespace CiteStyle.Name

open Text

/-! ## Written forms -/

/-- A word of a name: no white space, no comma and no brace is in it, and it is not the word that
stands between names. -/
structure IsWord (word : String) : Prop where
  filled : word ≠ ""
  plain : ∀ c ∈ word.toList, isBlank c = false ∧ c ≠ ',' ∧ c ≠ '\x7b' ∧ c ≠ '\x7d'
  notAnd : word ≠ "and"

/-- A word that starts with a letter in lower case. -/
def StartsLower (word : String) : Prop := ∃ c ∈ word.toList.head?, isLowercase c

instance (word : String) : Decidable (IsWord word) :=
  decidable_of_iff
    (word ≠ "" ∧
      (word.toList.all fun c => !isBlank c && c != ',' && c != '\x7b' && c != '\x7d') ∧
      word ≠ "and")
    ⟨fun ⟨filled, plain, notAnd⟩ => ⟨filled, by simpa [and_assoc] using plain, notAnd⟩,
      fun h => ⟨h.filled, by simpa [and_assoc] using h.plain, h.notAnd⟩⟩

instance (word : String) : Decidable (StartsLower word) :=
  decidable_of_iff (word.toList.head?.any isLowercase) (Option.any_eq_true _ _)

/-- Words with single spaces between them. -/
def phrase (words : List String) : String := String.intercalate " " words

/-- Words with single spaces between them; without words there is nothing. -/
def phrase? (words : List String) : Option String := if words = [] then none else some (phrase words)

/-- The words of a name: those of the given part, of the particle, of the family part and of the
suffix. -/
structure Parts where
  given : List String := []
  particle : List String := []
  family : List String
  ending : List String := []

/-- The name that has some parts. -/
def Parts.name (p : Parts) : Name where
  family := phrase? p.family
  given := phrase? p.given
  nonDroppingParticle := phrase? p.particle
  ending := phrase? p.ending

/-- The particle starts and ends with a word in lower case, and no word of the family part is in
lower case. -/
structure Parts.Proper (p : Parts) : Prop where
  words : ∀ w ∈ p.given ++ p.particle ++ p.family ++ p.ending, IsWord w
  firstLower : ∀ w ∈ p.particle.head?, StartsLower w
  lastLower : ∀ w ∈ p.particle.getLast?, StartsLower w
  family : ∀ w ∈ p.family, ¬StartsLower w
  filled : p.family ≠ []

instance (p : Parts) : Decidable p.Proper :=
  decidable_of_iff
    ((∀ w ∈ p.given ++ p.particle ++ p.family ++ p.ending, IsWord w) ∧
      (∀ w ∈ p.particle.head?, StartsLower w) ∧ (∀ w ∈ p.particle.getLast?, StartsLower w) ∧
      (∀ w ∈ p.family, ¬StartsLower w) ∧ p.family ≠ [])
    ⟨fun ⟨words, first, last, family, filled⟩ => ⟨words, first, last, family, filled⟩,
      fun h => ⟨h.words, h.firstLower, h.lastLower, h.family, h.filled⟩⟩

/-- The three ways to write a name: in natural order, with the family part in front, and with the
family part in front and a suffix behind it. -/
inductive Written : Parts → String → Prop
  | natural {p : Parts} (noEnding : p.ending = []) (given : ∀ w ∈ p.given, ¬StartsLower w)
      (single : p.particle = [] → p.family.length = 1) :
      Written p (phrase (p.given ++ p.particle ++ p.family))
  | inverted {p : Parts} (noEnding : p.ending = []) (given : p.given ≠ [])
      (noSuffix : ∀ w, p.given = [w] → lower w ∉ suffixes) :
      Written p (phrase (p.particle ++ p.family) ++ ", " ++ phrase p.given)
  | invertedEnding {p : Parts} (ending : p.ending ≠ []) (given : p.given ≠ []) :
      Written p (phrase (p.particle ++ p.family) ++ ", " ++ phrase p.ending ++ ", "
        ++ phrase p.given)

/-! ## Words and marks -/

theorem tokensOf?_nil : tokensOf? [] = some [] := by rw [tokensOf?]

theorem separates_space : Separates tokensOf? isWordChar [' '] [] where
  endsWord := endsWord_cons (by decide)
  reads rest := by
    rw [List.cons_append, tokensOf?]
    simp [show isPlainBlank ' ' by decide]

theorem separates_comma : Separates tokensOf? isWordChar [',', ' '] [.comma] where
  endsWord _ := endsWord_cons (by decide) _
  reads rest := by
    rw [List.cons_append, tokensOf?, separates_space.reads]
    simp [show isPlainBlank ',' = false by decide]

theorem tokensOf?_wordChar (c : Char) (rest : List Char) (h : isWordChar c) :
    tokensOf? (c :: rest) = (tokensOf? (rest.dropWhile isWordChar)).map
      (.word (String.ofList (c :: rest.takeWhile isWordChar)) :: ·) := by
  have plain := h
  simp only [isWordChar, Bool.and_eq_true, Bool.not_eq_true', bne_iff_ne] at plain
  obtain ⟨⟨noBlank, noComma⟩, noBrace⟩ := plain
  have noGroup : Braces.groupAt? (c :: rest) = none := by
    unfold Braces.groupAt?
    split
    · simp_all
    · rfl
  rw [tokensOf?]
  simp only [isPlainBlank_eq_false noBlank, noComma, h, if_false, if_true, Bool.false_eq_true]
  split
  · simp_all
  · rfl

theorem spells_word {word : String} (filled : word ≠ "") (chars : ∀ c ∈ word.toList, isWordChar c) :
    Spells tokensOf? isWordChar word.toList [.word word] := by
  have run := spells_run (Token.word <| String.ofList ·) tokensOf?_wordChar (by simpa using filled) chars
  rwa [String.ofList_toList] at run

theorem separates_and : Separates tokensOf? isWordChar [' ', 'a', 'n', 'd', ' '] [.word "and"] where
  endsWord _ := endsWord_cons (by decide) _
  reads := by
    have word : Spells tokensOf? isWordChar "and".toList [.word "and"] :=
      spells_word (by decide) (List.all_eq_true.mp (by decide))
    exact separates_space.reads.append (word.append_mark separates_space)

theorem IsWord.isWordChar {word : String} (h : IsWord word) : ∀ c ∈ word.toList, isWordChar c := by
  intro c hc
  obtain ⟨blank, comma, brace, -⟩ := h.plain c hc
  simp [Name.isWordChar, blank, comma, brace]

/-- The tokens of some words. -/
def wordTokens (words : List String) : List Token := words.map .word

theorem wordTokens_append (words words' : List String) :
    wordTokens (words ++ words') = wordTokens words ++ wordTokens words' := List.map_append

theorem wordTokens_ne_nil {words : List String} (h : words ≠ []) : wordTokens words ≠ [] := by
  simpa [wordTokens] using h

theorem spells_phrase {words : List String} (h : ∀ w ∈ words, IsWord w) :
    Spells tokensOf? isWordChar (phrase words).toList (wordTokens words) := by
  have each : List.Forall₂ (Spells tokensOf? isWordChar) (words.map String.toList)
      (words.map fun w => [.word w]) := by
    rw [List.forall₂_map_left_iff, List.forall₂_map_right_iff, List.forall₂_same]
    exact fun w hw => spells_word (h w hw).filled (h w hw).isWordChar
  have marks : [].intercalate (words.map fun w => [Token.word w]) = wordTokens words := by
    induction words with
    | nil => rfl
    | cons w words ih =>
      cases words with
      | nil => rfl
      | cons v words =>
        have := ih fun u hu => h u (List.mem_cons_of_mem _ hu)
        simp_all [wordTokens]
  rw [← marks, phrase, String.toList_intercalate]
  exact spells_intercalate separates_space each

/-- The tokens of some phrases with commas between them. -/
def phraseTokens (phrases : List (List String)) : List Token :=
  [.comma].intercalate (phrases.map wordTokens)

theorem spells_phrases {phrases : List (List String)} (h : ∀ words ∈ phrases, ∀ w ∈ words, IsWord w) :
    Spells tokensOf? isWordChar (String.intercalate ", " (phrases.map phrase)).toList
      (phraseTokens phrases) := by
  have each : List.Forall₂ (Spells tokensOf? isWordChar)
      ((phrases.map phrase).map String.toList) (phrases.map wordTokens) := by
    rw [List.map_map, List.forall₂_map_left_iff, List.forall₂_map_right_iff, List.forall₂_same]
    exact fun words mem => spells_phrase (h words mem)
  rw [String.toList_intercalate]
  exact spells_intercalate separates_comma each

/-! ## The parts of a name -/

theorem isParticle_word {w : String} : (Token.word w).isParticle ↔ StartsLower w :=
  Option.any_eq_true _ _

theorem isParticle_wordTokens {words : List String} (h : ∀ w ∈ words, ¬StartsLower w) :
    ∀ t ∈ wordTokens words, !t.isParticle := by
  intro t ht
  obtain ⟨w, hw, rfl⟩ := List.mem_map.mp ht
  rw [Bool.not_eq_true', Bool.eq_false_iff, ne_eq, isParticle_word]
  exact h w hw

theorem isParticle_head? {words : List String} (h : ∀ w ∈ words.head?, StartsLower w) :
    ∀ t ∈ (wordTokens words).head?, t.isParticle := by
  intro t ht
  rw [wordTokens, List.head?_map, Option.mem_def, Option.map_eq_some_iff] at ht
  obtain ⟨w, hw, rfl⟩ := ht
  exact isParticle_word.mpr (h w hw)

theorem isParticle_getLast? {words : List String} (h : ∀ w ∈ words.getLast?, StartsLower w) :
    ∀ t ∈ (wordTokens words).getLast?, t.isParticle := by
  intro t ht
  rw [wordTokens, List.getLast?_map, Option.mem_def, Option.map_eq_some_iff] at ht
  obtain ⟨w, hw, rfl⟩ := ht
  exact isParticle_word.mpr (h w hw)

theorem joinWords_wordTokens (words : List String) : joinWords (wordTokens words) = phrase? words := by
  unfold joinWords phrase? phrase wordTokens
  have texts : (words.map Token.word).map Token.text = words := by
    rw [List.map_map]
    exact List.map_id words
  rw [texts]
  cases words <;> rfl

section Split

variable {given particle family : List Token}
  (first : ∀ t ∈ particle.head?, t.isParticle) (last : ∀ t ∈ particle.getLast?, t.isParticle)
  (noParticle : ∀ t ∈ family, !t.isParticle) (filled : family ≠ [])
include last noParticle filled

/-- The last word of the family part is set aside; the particle then ends with the last word that
is in lower case. -/
theorem splitInverted?_parts : splitInverted? (particle ++ family) = some (particle, family) := by
  obtain ⟨front, word, rfl⟩ := (List.eq_nil_or_concat family).resolve_left filled
  have free : ∀ t ∈ front, !t.isParticle := fun t ht => noParticle t (by simp [ht])
  have ends : ∀ t ∈ particle.getLast?, (!t.isParticle) = false := by
    intro t ht
    simp [last t ht]
  unfold splitInverted?
  rw [List.concat_eq_append, ← List.append_assoc, List.getLast?_concat]
  simp only [List.dropLast_concat, dropEndWhile_run free ends, List.drop_left]

include first

/-- In natural order, the particle starts with the first word in lower case. Without a particle it
is the last word alone that makes the family part. -/
theorem splitNatural?_parts (start : ∀ t ∈ given, !t.isParticle)
    (single : particle = [] → family.length = 1) :
    splitNatural? (given ++ particle ++ family) = some (given, particle, family) := by
  obtain ⟨front, word, rfl⟩ := (List.eq_nil_or_concat family).resolve_left filled
  rw [List.concat_eq_append] at *
  have free : ∀ t ∈ front, !t.isParticle := fun t ht => noParticle t (by simp [ht])
  have noWord : word.isParticle = false := by simpa using noParticle word (by simp)
  have ends : ∀ t ∈ particle.getLast?, (!t.isParticle) = false := by
    intro t ht
    simp [last t ht]
  have stop : ∀ t ∈ (particle ++ front).head?, (!t.isParticle) = false := by
    intro t ht
    cases particle with
    | nil =>
      have : front = [] := by simpa using single rfl
      simp [this] at ht
    | cons p ps => simp [first t ht]
  have whole : given ++ particle ++ (front ++ [word]) = given ++ (particle ++ front) ++ [word] := by
    simp only [List.append_assoc]
  unfold splitNatural?
  rw [whole, List.getLast?_concat]
  simp only [noWord, Bool.false_eq_true, if_false, List.dropLast_concat, takeWhile_run start stop,
    dropWhile_run start stop, dropEndWhile_run free ends, List.drop_left]

end Split

/-- Words between commas are taken apart at the commas. -/
theorem splitWhere_phraseTokens {phrases : List (List String)} (filled : phrases ≠ []) :
    splitWhere (· == .comma) (phraseTokens phrases) = phrases.map wordTokens := by
  refine splitWhere_intercalate (fun ts hts => ?_) (by simpa using filled)
  obtain ⟨words, -, rfl⟩ := List.mem_map.mp hts
  simp [wordTokens]

theorem ofTokens?_phraseTokens {phrases : List (List String)} (filled : phrases ≠ []) :
    ofTokens? (phraseTokens phrases) =
      match phrases.map wordTokens with
      | [only] => ofNatural? only
      | [head, tail] =>
        if isSuffix tail then (ofNatural? head).map ({ · with ending := joinWords tail })
        else ofInverted? head tail []
      | [head, ending, given] => ofInverted? head given ending
      | _ => none := by
  have noBraces : ∀ text, phraseTokens phrases ≠ [.braced text] := by
    intro text same
    have pieces := splitWhere_phraseTokens filled
    rw [same] at pieces
    have : [Token.braced text] ∈ phrases.map wordTokens := by simp [← pieces, splitWhere]
    obtain ⟨words, -, hwords⟩ := List.mem_map.mp this
    simp [wordTokens] at hwords
  unfold ofTokens?
  split
  · exact absurd ‹_› (noBraces _)
  · exact splitWhere_phraseTokens filled ▸ rfl

theorem isSuffix_wordTokens {words : List String} (h : ∀ w, words = [w] → lower w ∉ suffixes) :
    isSuffix (wordTokens words) = false := by
  obtain _ | ⟨w, _ | ⟨v, others⟩⟩ := words
  · rfl
  · simpa [isSuffix, wordTokens, Token.text] using h w rfl
  · rfl

/-! ## Whole names -/

section Forms

variable {p : Parts} (proper : p.Proper)
include proper

theorem ofNatural?_parts (noEnding : p.ending = []) (given : ∀ w ∈ p.given, ¬StartsLower w)
    (single : p.particle = [] → p.family.length = 1) :
    ofNatural? (wordTokens (p.given ++ p.particle ++ p.family)) = some p.name := by
  have alone : wordTokens p.particle = [] → (wordTokens p.family).length = 1 := by
    simpa [wordTokens] using single
  rw [wordTokens_append, wordTokens_append, ofNatural?,
    splitNatural?_parts (isParticle_head? proper.firstLower)
      (isParticle_getLast? proper.lastLower) (isParticle_wordTokens proper.family)
      (wordTokens_ne_nil proper.filled) (isParticle_wordTokens given) alone]
  simp only [Option.map_some, joinWords_wordTokens, Parts.name, noEnding]
  rfl

theorem ofInverted?_parts : ofInverted? (wordTokens (p.particle ++ p.family)) (wordTokens p.given)
    (wordTokens p.ending) = some p.name := by
  rw [wordTokens_append, ofInverted?,
    splitInverted?_parts (isParticle_getLast? proper.lastLower)
      (isParticle_wordTokens proper.family) (wordTokens_ne_nil proper.filled)]
  simp only [Option.map_some, joinWords_wordTokens, Parts.name]

/-- A written name is made of phrases with commas between them, and their tokens spell the name. -/
theorem Written.phrases {text : String} (h : Written p text) :
    ∃ phrases : List (List String), (∀ words ∈ phrases, ∀ w ∈ words, IsWord w) ∧
      text = String.intercalate ", " (phrases.map phrase) ∧
      ofTokens? (phraseTokens phrases) = some p.name := by
  have words := proper.words
  simp only [List.mem_append] at words
  cases h with
  | natural noEnding given single =>
    refine ⟨[p.given ++ p.particle ++ p.family], ?_, rfl, ?_⟩
    · grind
    · rw [ofTokens?_phraseTokens (List.cons_ne_nil _ _)]
      exact ofNatural?_parts proper noEnding given single
  | inverted noEnding given noSuffix =>
    refine ⟨[p.particle ++ p.family, p.given], ?_, by simp, ?_⟩
    · grind
    · rw [ofTokens?_phraseTokens (List.cons_ne_nil _ _)]
      have read := ofInverted?_parts proper
      rw [noEnding] at read
      simp only [List.map_cons, List.map_nil, isSuffix_wordTokens noSuffix]
      exact read
  | invertedEnding ending given =>
    refine ⟨[p.particle ++ p.family, p.ending, p.given], ?_, ?_, ?_⟩
    · grind
    · simp [String.append_assoc]
    · rw [ofTokens?_phraseTokens (List.cons_ne_nil _ _)]
      exact ofInverted?_parts proper

end Forms

/-! ## Lists of names -/

theorem mem_intercalate {marks : List Token} {tss : List (List Token)} {t : Token}
    (mem : t ∈ marks.intercalate tss) : t ∈ marks ∨ ∃ ts ∈ tss, t ∈ ts := by
  induction tss with
  | nil => simp at mem
  | cons ts tss ih =>
    cases tss with
    | nil => exact .inr ⟨ts, List.mem_cons_self, by simpa using mem⟩
    | cons ts' tss =>
      rw [List.intercalate_cons_cons, List.mem_append, List.mem_append] at mem
      rcases mem with (mem | mem) | mem
      · exact .inr ⟨ts, List.mem_cons_self, mem⟩
      · exact .inl mem
      · rcases ih mem with mem | ⟨us, hus, mem⟩
        · exact .inl mem
        · exact .inr ⟨us, List.mem_cons_of_mem _ hus, mem⟩

/-- The word that stands between names is in none of them. -/
theorem and_notMem_phraseTokens {phrases : List (List String)}
    (h : ∀ words ∈ phrases, ∀ w ∈ words, IsWord w) : .word "and" ∉ phraseTokens phrases := by
  intro mem
  rcases mem_intercalate mem with mem | ⟨ts, hts, mem⟩
  · simp at mem
  · obtain ⟨words, hwords, rfl⟩ := List.mem_map.mp hts
    obtain ⟨w, hw, same⟩ := List.mem_map.mp mem
    exact (h words hwords w hw).notAnd (Token.word.inj same)

/-- Each text of a list of written names has tokens that spell its name. -/
theorem exists_tokens {parts : List Parts} {texts : List String} (proper : ∀ p ∈ parts, p.Proper)
    (written : List.Forall₂ Written parts texts) :
    ∃ tss : List (List Token),
      List.Forall₂ (Spells tokensOf? isWordChar) (texts.map String.toList) tss ∧
      (∀ ts ∈ tss, .word "and" ∉ ts) ∧ tss.mapM ofTokens? = some (parts.map Parts.name) := by
  induction written with
  | nil => exact ⟨[], .nil, by simp, rfl⟩
  | cons first _ ih =>
    rw [List.forall_mem_cons] at proper
    obtain ⟨phrases, words, rfl, read⟩ := first.phrases proper.1
    obtain ⟨tss, spells, free, readOthers⟩ := ih proper.2
    refine ⟨phraseTokens phrases :: tss, .cons (spells_phrases words) spells, ?_, ?_⟩
    · exact List.forall_mem_cons.mpr ⟨and_notMem_phraseTokens words, free⟩
    · rw [List.mapM_cons, read, readOthers]
      rfl

/-- Names that are written in any of the three forms, with the word and between them, are read
back: as many names, in their order, and each with its family part, its given part, its particle
and its suffix as they were written. -/
theorem readList_written {parts : List Parts} {texts : List String}
    (proper : ∀ p ∈ parts, p.Proper) (written : List.Forall₂ Written parts texts)
    (filled : parts ≠ []) :
    readList (String.intercalate " and " texts) = parts.map Parts.name := by
  obtain ⟨tss, spells, free, read⟩ := exists_tokens proper written
  have tokens : tokensOf? (String.intercalate " and " texts).toList =
      some ([.word "and"].intercalate tss) := by
    rw [String.toList_intercalate]
    exact (spells_intercalate separates_and spells).read_eq tokensOf?_nil
  have filledTokens : tss ≠ [] := by
    rintro rfl
    simp_all
  have pieces := splitWhere_intercalate free filledTokens
  have list : list? (String.intercalate " and " texts) = some (parts.map Parts.name) := by
    unfold list?
    rw [tokens]
    split
    · simp_all
    · -- No tokens would be one name without tokens, and that is none.
      rename_i noTokens
      rw [Option.some.injEq] at noTokens
      rw [noTokens] at pieces
      rw [← pieces] at read
      contradiction
    · rename_i same
      rw [Option.some.injEq] at same
      rw [← same, pieces, read]
  rw [readList, list, Option.getD_some]

/-- A name in each of the three forms. -/
def threeForms : List Parts :=
  [{ given := ["Vincent"], particle := ["van", "Der", "den"], family := ["Voort"] },
    { given := ["ludwig", "Jr"], family := ["Beethoven", "Gogh"] },
    { given := ["George"], family := ["Friedman"], ending := ["Jr."] }]

def threeTexts : List String :=
  ["Vincent van Der den Voort", "Beethoven Gogh, ludwig Jr", "Friedman, Jr., George"]

theorem readList_written_threeForms :
    (∀ p ∈ threeForms, p.Proper) ∧ List.Forall₂ Written threeForms threeTexts ∧
      threeForms ≠ [] ∧
      readList (String.intercalate " and " threeTexts) = threeForms.map Parts.name := by
  have proper : ∀ p ∈ threeForms, p.Proper := by decide +kernel
  have natural : Written threeForms[0] threeTexts[0] :=
    .natural rfl (by decide +kernel) (by decide)
  have inverted : Written threeForms[1] threeTexts[1] :=
    .inverted rfl (by decide) fun w hw => by simp [threeForms] at hw
  have ending : Written threeForms[2] threeTexts[2] := .invertedEnding (by decide) (by decide)
  have written : List.Forall₂ Written threeForms threeTexts :=
    .cons natural (.cons inverted (.cons ending .nil))
  exact ⟨proper, written, by decide, readList_written proper written (by decide)⟩

end CiteStyle.Name
