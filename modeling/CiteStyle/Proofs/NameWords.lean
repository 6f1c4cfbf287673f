-- The words of names. Reading a list of names neither loses a word nor takes one twice
-- nor moves one: the text is spelled by its words, groups and commas, the word that
-- stands between names divides them into parts, and the words of a part are those of
-- the parts of its name, one after the other.
import CiteStyle.Proofs.BraceGroups
import CiteStyle.Proofs.WrittenNames

namespace CiteStyle.Name

open Text

/-! ## Texts and their tokens -/

/-- A text is spelled by some tokens: by words that go on as far as they can, by brace groups and
by commas, with white space between them or none. -/
inductive TokenText : List Char → List Token → Prop
  | nil : TokenText [] []
  | blank {c : Char} {cs : List Char} {ts : List Token} (plain : isPlainBlank c) :
      TokenText cs ts → TokenText (c :: cs) ts
  | comma {cs : List Char} {ts : List Token} : TokenText cs ts → TokenText (',' :: cs) (.comma :: ts)
  | group {inside cs : List Char} {ts : List Token} (inner : Braces.Inside inside) :
      TokenText cs ts →
        TokenText ('\x7b' :: (inside ++ '\x7d' :: cs))
          (.braced (String.ofList (Braces.unescape inside)) :: ts)
  | word {w cs : List Char} {ts : List Token} (filled : w ≠ []) (chars : ∀ c ∈ w, isWordChar c)
      (ends : EndsWord isWordChar cs) :
      TokenText cs ts → TokenText (w ++ cs) (.word (String.ofList w) :: ts)

theorem tokensOf?_blank {c : Char} (plain : isPlainBlank c) (rest : List Char) :
    tokensOf? (c :: rest) = tokensOf? rest := by
  rw [tokensOf?, if_pos plain]

theorem tokensOf?_comma (rest : List Char) :
    tokensOf? (',' :: rest) = (tokensOf? rest).map (.comma :: ·) := by
  rw [tokensOf?]
  simp [isPlainBlank]

theorem tokensOf?_group {inside : List Char} (inner : Braces.Inside inside) (rest : List Char) :
    tokensOf? ('\x7b' :: (inside ++ '\x7d' :: rest)) =
      (tokensOf? rest).map (.braced (String.ofList (Braces.unescape inside)) :: ·) := by
  have found : Braces.groupAt? ('\x7b' :: (inside ++ '\x7d' :: rest)) = some (inside, rest) :=
    Braces.groupAt?_eq_some_iff.mpr ⟨inner, rfl⟩
  rw [tokensOf?, if_neg (by decide), if_neg (by decide)]
  split
  · simp_all
  · simp_all

/-- What starts neither with plain white space nor with a token cannot be read. -/
theorem tokensOf?_stuck {c : Char} {rest : List Char} (noBlank : ¬isPlainBlank c) (noComma : c ≠ ',')
    (noGroup : Braces.groupAt? (c :: rest) = none) (noWord : ¬isWordChar c) :
    tokensOf? (c :: rest) = none := by
  rw [tokensOf?, if_neg noBlank, if_neg noComma]
  split
  · simp_all
  · rw [if_neg noWord]

theorem tokensOf?_of_tokenText {cs : List Char} {ts : List Token} (h : TokenText cs ts) :
    tokensOf? cs = some ts := by
  induction h with
  | nil => exact tokensOf?_nil
  | blank plain _ ih => rw [tokensOf?_blank plain, ih]
  | comma _ ih => rw [tokensOf?_comma, ih]; rfl
  | group inner _ ih => rw [tokensOf?_group inner, ih]; rfl
  | word filled chars ends _ ih =>
    have run := spells_run (Token.word <| String.ofList ·) tokensOf?_wordChar filled chars
    rw [run _ ends, ih]
    rfl

theorem tokenText_of_tokensOf? {cs : List Char} {ts : List Token} (h : tokensOf? cs = some ts) :
    TokenText cs ts := by
  induction cs using tokensOf?.induct generalizing ts with
  | case1 =>
    rw [tokensOf?_nil, Option.some.injEq] at h
    exact h ▸ .nil
  | case2 c rest plain ih =>
    rw [tokensOf?_blank plain] at h
    exact .blank plain (ih h)
  | case3 rest _ ih =>
    rw [tokensOf?_comma, Option.map_eq_some_iff] at h
    obtain ⟨others, read, rfl⟩ := h
    exact .comma (ih read)
  | case4 c rest _ _ inside after found ih =>
    obtain ⟨inner, text⟩ := Braces.groupAt?_eq_some_iff.mp found
    rw [text, tokensOf?_group inner, Option.map_eq_some_iff] at h
    obtain ⟨others, read, rfl⟩ := h
    exact text ▸ .group inner (ih read)
  | case5 c rest _ _ _ inWord ih =>
    rw [tokensOf?_wordChar c rest inWord, Option.map_eq_some_iff] at h
    obtain ⟨others, read, rfl⟩ := h
    have chars : ∀ d ∈ c :: rest.takeWhile isWordChar, isWordChar d :=
      List.forall_mem_cons.mpr ⟨inWord, List.all_eq_true.mp List.all_takeWhile⟩
    have ends : EndsWord isWordChar (rest.dropWhile isWordChar) := head?_dropWhile
    have whole : c :: rest.takeWhile isWordChar ++ rest.dropWhile isWordChar = c :: rest := by
      rw [List.cons_append, List.takeWhile_append_dropWhile]
    exact whole ▸ .word (List.cons_ne_nil _ _) chars ends (ih read)
  | case6 c rest noBlank noComma noGroup noWord =>
    rw [tokensOf?_stuck noBlank noComma noGroup noWord] at h
    contradiction

theorem tokensOf?_eq_some_iff {cs : List Char} {ts : List Token} :
    tokensOf? cs = some ts ↔ TokenText cs ts :=
  ⟨tokenText_of_tokensOf?, tokensOf?_of_tokenText⟩

/-! ## The parts of one name -/

/-- Words in natural order: the given part, the particle from the first word in lower case to the
last one, and the family part, which is the last word alone if there is no particle. -/
structure NaturalOrder (given particle family : List Token) : Prop where
  givenFree : ∀ t ∈ given, t.isParticle = false
  firstLower : ∀ t ∈ particle.head?, t.isParticle
  lastLower : ∀ t ∈ particle.getLast?, t.isParticle
  familyFree : ∀ t ∈ family, t.isParticle = false
  filled : family ≠ []
  single : particle = [] → family.length = 1

/-- Words in front of a comma: the particle up to the last word in lower case that has a word
behind it, and the family part. -/
structure InvertedOrder (particle family : List Token) : Prop where
  lastLower : ∀ t ∈ particle.getLast?, t.isParticle
  familyFree : ∀ t ∈ family.dropLast, t.isParticle = false
  filled : family ≠ []

/-- The particle that is cut off at the end of some words, and the words behind it. -/
theorem exists_particle (ts : List Token) :
    ∃ behind, ts = dropEndWhile (!·.isParticle) ts ++ behind ∧
      ts.drop (dropEndWhile (!·.isParticle) ts).length = behind ∧
      (∀ t ∈ (dropEndWhile (!·.isParticle) ts).getLast?, t.isParticle) ∧
      ∀ t ∈ behind, t.isParticle = false := by
  obtain ⟨behind, whole, free⟩ := exists_dropEndWhile (!·.isParticle) ts
  have last : ∀ t ∈ (dropEndWhile (!·.isParticle) ts).getLast?, (!t.isParticle) = false :=
    getLast?_dropEndWhile
  refine ⟨behind, whole, ?_, fun t ht => by simpa using last t ht, fun t ht => by
    simpa using free t ht⟩
  generalize dropEndWhile (!·.isParticle) ts = particle at whole
  rw [whole, List.drop_left]

section Particle

variable (ts : List Token)

/-- What is left behind the given part starts with a word in lower case. -/
theorem isParticle_head?_dropWhile : ∀ t ∈ (ts.dropWhile (!·.isParticle)).head?, t.isParticle := by
  intro t first
  simpa using head?_dropWhile t first

theorem isParticle_first :
    ∀ t ∈ (dropEndWhile (!·.isParticle) (ts.dropWhile (!·.isParticle))).head?, t.isParticle := by
  obtain ⟨behind, whole, -, -, -⟩ := exists_particle (ts.dropWhile (!·.isParticle))
  intro t first
  apply isParticle_head?_dropWhile ts
  rw [whole, List.head?_append, Option.mem_def.mp first]
  rfl

/-- Without a particle nothing is left behind the given part. -/
theorem dropWhile_of_noParticle
    (none : dropEndWhile (!·.isParticle) (ts.dropWhile (!·.isParticle)) = []) :
    ts.dropWhile (!·.isParticle) = [] := by
  obtain ⟨behind, whole, -, -, free⟩ := exists_particle (ts.dropWhile (!·.isParticle))
  rw [none, List.nil_append] at whole
  cases behind with
  | nil => exact whole
  | cons t behind =>
    have first := isParticle_head?_dropWhile ts t (by simp [whole])
    simp [free t List.mem_cons_self] at first

end Particle

theorem natural_of_split {ts given particle family : List Token}
    (h : splitNatural? ts = some (given, particle, family)) :
    ts = given ++ particle ++ family ∧ NaturalOrder given particle family := by
  unfold splitNatural? at h
  split at h
  · contradiction
  rename_i last found
  obtain ⟨front, rfl⟩ := List.getLast?_eq_some_iff.mp found
  split at h
  · contradiction
  rename_i upper
  rw [List.dropLast_concat] at h
  obtain ⟨behind, whole, rest, lastLower, free⟩ :=
    exists_particle (front.dropWhile (!·.isParticle))
  dsimp only at h
  rw [rest] at h
  simp only [Option.some.injEq, Prod.mk.injEq] at h
  obtain ⟨rfl, rfl, rfl⟩ := h
  refine ⟨?_, ?_, isParticle_first front, lastLower, ?_, by simp, ?_⟩
  · rw [List.append_assoc, ← List.append_assoc _ behind, ← whole, ← List.append_assoc,
      List.takeWhile_append_dropWhile]
  · intro t ht
    simpa using List.all_eq_true.mp List.all_takeWhile t ht
  · intro t ht
    rcases List.mem_append.mp ht with ht | ht
    · exact free t ht
    · obtain rfl := List.mem_singleton.mp ht
      exact Bool.eq_false_iff.mpr upper
  · intro none
    rw [dropWhile_of_noParticle front none] at rest
    simp [← rest]

theorem inverted_of_split {ts particle family : List Token}
    (h : splitInverted? ts = some (particle, family)) :
    ts = particle ++ family ∧ InvertedOrder particle family := by
  unfold splitInverted? at h
  split at h
  · contradiction
  rename_i last found
  obtain ⟨front, rfl⟩ := List.getLast?_eq_some_iff.mp found
  rw [List.dropLast_concat] at h
  obtain ⟨behind, whole, rest, lastLower, free⟩ := exists_particle front
  dsimp only at h
  rw [rest] at h
  simp only [Option.some.injEq, Prod.mk.injEq] at h
  obtain ⟨rfl, rfl⟩ := h
  refine ⟨?_, lastLower, by simpa using free, by simp⟩
  rw [← List.append_assoc, ← whole]

theorem natural_of_ofNatural? {ts : List Token} {n : Name} (h : ofNatural? ts = some n) :
    ∃ given particle family, ts = given ++ particle ++ family ∧
      NaturalOrder given particle family ∧
      n = { given := joinWords given, nonDroppingParticle := joinWords particle,
            family := joinWords family } := by
  obtain ⟨⟨given, particle, family⟩, found, rfl⟩ := Option.map_eq_some_iff.mp h
  obtain ⟨whole, order⟩ := natural_of_split found
  exact ⟨given, particle, family, whole, order, rfl⟩

theorem inverted_of_ofInverted? {ts given ending : List Token} {n : Name}
    (h : ofInverted? ts given ending = some n) :
    ∃ particle family, ts = particle ++ family ∧ InvertedOrder particle family ∧
      n = { nonDroppingParticle := joinWords particle, family := joinWords family,
            ending := joinWords ending, given := joinWords given } := by
  obtain ⟨⟨particle, family⟩, found, rfl⟩ := Option.map_eq_some_iff.mp h
  obtain ⟨whole, order⟩ := inverted_of_split found
  exact ⟨particle, family, whole, order, rfl⟩

/-! ## One name -/

/-- The name that is made of some words, or of one brace group. Words without a comma are in natural
order; behind a single comma stands a suffix that is known as such, or else the given part; between
two commas stands a suffix, whatever it is. -/
inductive MadeOf : List Token → Name → Prop
  | group (text : String) : MadeOf [.braced text] (.ofLiteral text)
  | natural {given particle family : List Token} (words : .comma ∉ given ++ particle ++ family)
      (noGroup : ∀ text, given ++ particle ++ family ≠ [.braced text])
      (order : NaturalOrder given particle family) :
      MadeOf (given ++ particle ++ family)
        { given := joinWords given, nonDroppingParticle := joinWords particle,
          family := joinWords family }
  | naturalEnding {given particle family : List Token} {ending : Token}
      (words : .comma ∉ given ++ particle ++ family) (word : ending ≠ .comma)
      (known : lower ending.text ∈ suffixes) (order : NaturalOrder given particle family) :
      MadeOf (given ++ particle ++ family ++ [.comma, ending])
        { given := joinWords given, nonDroppingParticle := joinWords particle,
          family := joinWords family, ending := some ending.text }
  | inverted {particle family given : List Token} (words : .comma ∉ particle ++ family)
      (givenWords : .comma ∉ given) (noEnding : ∀ t, given = [t] → lower t.text ∉ suffixes)
      (order : InvertedOrder particle family) :
      MadeOf (particle ++ family ++ .comma :: given)
        { nonDroppingParticle := joinWords particle, family := joinWords family,
          given := joinWords given }
  | invertedEnding {particle family ending given : List Token}
      (words : .comma ∉ particle ++ family) (endingWords : .comma ∉ ending)
      (givenWords : .comma ∉ given) (order : InvertedOrder particle family) :
      MadeOf (particle ++ family ++ .comma :: (ending ++ .comma :: given))
        { nonDroppingParticle := joinWords particle, family := joinWords family,
          ending := joinWords ending, given := joinWords given }

theorem isSuffix_iff {ts : List Token} :
    isSuffix ts ↔ ∃ t, ts = [t] ∧ lower t.text ∈ suffixes := by
  obtain _ | ⟨t, _ | ⟨u, others⟩⟩ := ts
  · simp [isSuffix]
  · simp [isSuffix]
  · simp [isSuffix]

theorem madeOf_of_ofTokens? {ts : List Token} {n : Name} (h : ofTokens? ts = some n) :
    MadeOf ts n := by
  unfold ofTokens? at h
  split at h
  · rw [Option.some.injEq] at h
    exact h ▸ .group _
  rename_i noGroup
  obtain ⟨whole, -, free⟩ := splitWhere_eq_iff.mp (Eq.refl (splitWhere (· == Token.comma) ts))
  split at h
  · -- Without a comma.
    rename_i only pieces
    rw [pieces] at whole free
    obtain rfl : ts = only := by simpa using whole
    obtain ⟨given, particle, family, rfl, order, rfl⟩ := natural_of_ofNatural? h
    exact .natural (free _ List.mem_cons_self) noGroup order
  · -- One comma.
    rename_i head tail pieces
    rw [pieces] at whole free
    obtain rfl : ts = head ++ .comma :: tail := by simpa using whole
    rw [List.forall_mem_cons, List.forall_mem_singleton] at free
    split at h
    · rename_i short
      obtain ⟨ending, rfl, known⟩ := isSuffix_iff.mp short
      obtain ⟨n, found, rfl⟩ := Option.map_eq_some_iff.mp h
      obtain ⟨given, particle, family, rfl, order, rfl⟩ := natural_of_ofNatural? found
      have word : ending ≠ .comma := by simpa [eq_comm] using free.2
      simpa [joinWords] using MadeOf.naturalEnding free.1 word known order
    · rename_i unknown
      obtain ⟨particle, family, rfl, order, rfl⟩ := inverted_of_ofInverted? h
      refine .inverted free.1 free.2 (fun t same known => unknown ?_) order
      exact isSuffix_iff.mpr ⟨t, same, known⟩
  · -- Two commas.
    rename_i head ending given pieces
    rw [pieces] at whole free
    obtain rfl : ts = head ++ .comma :: (ending ++ .comma :: given) := by simpa using whole
    rw [List.forall_mem_cons, List.forall_mem_cons, List.forall_mem_singleton] at free
    obtain ⟨particle, family, rfl, order, rfl⟩ := inverted_of_ofInverted? h
    exact .invertedEnding free.1 free.2.1 free.2.2 order
  · contradiction

theorem NaturalOrder.ofNatural? {given particle family : List Token}
    (h : NaturalOrder given particle family) :
    ofNatural? (given ++ particle ++ family) =
      some { given := joinWords given, nonDroppingParticle := joinWords particle,
             family := joinWords family } := by
  have given' : ∀ t ∈ given, !t.isParticle := by simpa using h.givenFree
  have family' : ∀ t ∈ family, !t.isParticle := by simpa using h.familyFree
  rw [Name.ofNatural?,
    splitNatural?_parts h.firstLower h.lastLower family' h.filled given' h.single]
  rfl

theorem InvertedOrder.ofInverted? {particle family : List Token} (h : InvertedOrder particle family)
    (given ending : List Token) :
    ofInverted? (particle ++ family) given ending =
      some { nonDroppingParticle := joinWords particle, family := joinWords family,
             ending := joinWords ending, given := joinWords given } := by
  obtain ⟨front, word, rfl⟩ := (List.eq_nil_or_concat family).resolve_left h.filled
  rw [List.concat_eq_append] at *
  have free : ∀ t ∈ front, !t.isParticle := by simpa using h.familyFree
  have ends : ∀ t ∈ particle.getLast?, (!t.isParticle) = false := by simpa using h.lastLower
  have split : splitInverted? (particle ++ (front ++ [word])) = some (particle, front ++ [word]) := by
    unfold splitInverted?
    rw [← List.append_assoc, List.getLast?_concat]
    simp only [List.dropLast_concat, dropEndWhile_run free ends, List.drop_left]
  rw [Name.ofInverted?, split]
  rfl

theorem not_group_of_comma {ts : List Token} (h : .comma ∈ ts) (text : String) :
    ts ≠ [.braced text] := by
  rintro rfl
  simp at h

theorem ofTokens?_of_madeOf {ts : List Token} {n : Name} (h : MadeOf ts n) :
    ofTokens? ts = some n := by
  cases h with
  | group text => rfl
  | @natural given particle family words noGroup order =>
    have pieces : splitWhere (· == .comma) (given ++ particle ++ family) =
        [given ++ particle ++ family] :=
      splitWhere_eq_iff.mpr ⟨by simp, by simp, List.forall_mem_singleton.mpr words⟩
    rw [ofTokens?.eq_2 _ noGroup, pieces]
    exact order.ofNatural?
  | @naturalEnding given particle family ending words word known order =>
    have free : ∀ piece ∈ [given ++ particle ++ family, [ending]], .comma ∉ piece := by
      rw [List.forall_mem_cons, List.forall_mem_singleton, List.mem_singleton]
      exact ⟨words, Ne.symm word⟩
    have pieces : splitWhere (· == .comma) (given ++ particle ++ family ++ [.comma, ending]) =
        [given ++ particle ++ family, [ending]] := splitWhere_eq_iff.mpr ⟨by simp, by simp, free⟩
    rw [ofTokens?.eq_2 _ (not_group_of_comma (by simp)), pieces]
    simp only [isSuffix_iff.mpr ⟨ending, rfl, known⟩, if_true, order.ofNatural?]
    rfl
  | @inverted particle family given words givenWords noEnding order =>
    have free : ∀ piece ∈ [particle ++ family, given], .comma ∉ piece := by
      rw [List.forall_mem_cons, List.forall_mem_singleton]
      exact ⟨words, givenWords⟩
    have pieces : splitWhere (· == .comma) (particle ++ family ++ .comma :: given) =
        [particle ++ family, given] := splitWhere_eq_iff.mpr ⟨by simp, by simp, free⟩
    have unknown : ¬isSuffix given := by
      rw [isSuffix_iff]
      rintro ⟨t, same, known⟩
      exact noEnding t same known
    rw [ofTokens?.eq_2 _ (not_group_of_comma (by simp)), pieces]
    simp only [if_neg unknown]
    exact order.ofInverted? given []
  | @invertedEnding particle family ending given words endingWords givenWords order =>
    have free : ∀ piece ∈ [particle ++ family, ending, given], .comma ∉ piece := by
      rw [List.forall_mem_cons, List.forall_mem_cons, List.forall_mem_singleton]
      exact ⟨words, endingWords, givenWords⟩
    have pieces :
        splitWhere (· == .comma) (particle ++ family ++ .comma :: (ending ++ .comma :: given)) =
          [particle ++ family, ending, given] := splitWhere_eq_iff.mpr ⟨by simp, by simp, free⟩
    rw [ofTokens?.eq_2 _ (not_group_of_comma (by simp)), pieces]
    exact order.ofInverted? given ending

theorem ofTokens?_eq_some_iff {ts : List Token} {n : Name} :
    ofTokens? ts = some n ↔ MadeOf ts n :=
  ⟨madeOf_of_ofTokens?, ofTokens?_of_madeOf⟩

/-! ## Lists of names -/

/-- A text is read as a list of names if it is spelled by parts with the word and between them, and
every name is made of its part. -/
theorem list?_eq_some_iff {text : String} {names : List Name} :
    list? text = some names ↔
      ∃ parts : List (List Token), TokenText text.toList ([.word "and"].intercalate parts) ∧
        parts ≠ [] ∧ (∀ ts ∈ parts, .word "and" ∉ ts) ∧ List.Forall₂ MadeOf parts names := by
  simp only [← tokensOf?_eq_some_iff]
  unfold list?
  split
  · rename_i unread
    simp [unread]
  · -- No tokens would be one name without tokens, and that is none.
    rename_i noTokens
    refine iff_of_false (by simp) ?_
    rintro ⟨parts, tokens, filled, free, read⟩
    rw [noTokens, Option.some.injEq] at tokens
    obtain rfl : [[]] = parts := splitWhere_eq_iff.mpr ⟨tokens, filled, free⟩
    obtain ⟨n, others, first, -⟩ := List.forall₂_cons_left_iff.mp read
    have spelled := ofTokens?_of_madeOf first
    contradiction
  · rename_i ts _ tokens
    simp only [tokens, mapM_eq_some_iff, ofTokens?_eq_some_iff]
    constructor
    · intro read
      obtain ⟨whole, filled, free⟩ := splitWhere_eq_iff.mp (Eq.refl (splitWhere (· == .word "and") ts))
      exact ⟨_, congrArg some whole, filled, free, read⟩
    · rintro ⟨parts, same, filled, free, read⟩
      rwa [splitWhere_eq_iff.mpr ⟨Option.some.inj same, filled, free⟩]

theorem length_eq_count {parts : List (List Token)} (filled : parts ≠ [])
    (free : ∀ ts ∈ parts, .word "and" ∉ ts) :
    parts.length = ([Token.word "and"].intercalate parts).count (.word "and") + 1 := by
  induction parts with
  | nil => contradiction
  | cons ts parts ih =>
    rw [List.forall_mem_cons] at free
    have none := List.count_eq_zero.mpr free.1
    cases parts with
    | nil => simpa using none
    | cons us parts =>
      have others := ih (List.cons_ne_nil _ _) free.2
      rw [List.intercalate_cons_cons, List.count_append, List.count_append, List.length_cons, others,
        none]
      simp
      omega

/-- No word is lost, doubled or moved in a list of names that is not kept as one literal. Words,
groups and commas spell the text; the words and divide them into parts, one more than there are
such words; and every name is made of the words of its part. The other way round, what a text spells
in this manner is how it is read. -/
theorem readList_words (text : String) :
    (readList text ≠ [.ofLiteral text] →
      ∃ parts : List (List Token), TokenText text.toList ([.word "and"].intercalate parts) ∧
        (∀ ts ∈ parts, .word "and" ∉ ts) ∧ List.Forall₂ MadeOf parts (readList text) ∧
        (readList text).length =
          ([Token.word "and"].intercalate parts).count (.word "and") + 1) ∧
      ∀ (parts : List (List Token)) (names : List Name),
        TokenText text.toList ([.word "and"].intercalate parts) → parts ≠ [] →
          (∀ ts ∈ parts, .word "and" ∉ ts) → List.Forall₂ MadeOf parts names →
            readList text = names := by
  constructor
  · intro read
    unfold readList at read ⊢
    cases list : list? text with
    | none =>
      rw [list] at read
      exact absurd rfl read
    | some names =>
      obtain ⟨parts, tokens, filled, free, spelled⟩ := list?_eq_some_iff.mp list
      refine ⟨parts, tokens, free, spelled, ?_⟩
      rw [Option.getD_some, ← length_eq_count filled free, spelled.length_eq]
  · intro parts names tokens filled free spelled
    have list : list? text = some names :=
      list?_eq_some_iff.mpr ⟨parts, tokens, filled, free, spelled⟩
    rw [readList, list, Option.getD_some]

/-- A name with a particle and a suffix, a group, and a name with its family part in front. -/
def mixedText : String :=
  "Vincent van \x7bder Voort\x7d, Jr. and \x7bNASA\x7d and van Gerwen, Michael"

theorem readList_words_mixed :
    readList mixedText ≠ [.ofLiteral mixedText] ∧
      ∃ parts : List (List Token), TokenText mixedText.toList ([.word "and"].intercalate parts) ∧
        (∀ ts ∈ parts, .word "and" ∉ ts) ∧ List.Forall₂ MadeOf parts (readList mixedText) ∧
        (readList mixedText).length =
          ([Token.word "and"].intercalate parts).count (.word "and") + 1 := by
  have read : readList mixedText ≠ [.ofLiteral mixedText] := by decide +kernel
  exact ⟨read, (readList_words mixedText).1 read⟩

end CiteStyle.Name
