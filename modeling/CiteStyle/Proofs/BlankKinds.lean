-- Kinds of white space. The readers of names and of locators end a word at white space
-- of any kind, but pass only the four plain characters between tokens. So white space of
-- another kind makes a text unreadable, wherever it stands outside of groups; in a text
-- without it, neither the kind of the white space nor white space at the ends matters.
import CiteStyle.Proofs.LocatorTokens
import CiteStyle.Proofs.NameWords
import CiteStyle.Proofs.OutsideGroups

namespace CiteStyle.Text

/-! ## White space of one kind -/

/-- A character, where all white space is a space. -/
def asSpace (c : Char) : Char := if isBlank c then ' ' else c

/-- All white space of a text is plain. -/
def PlainlySpaced (cs : List Char) : Prop := ∀ c ∈ cs, isBlank c → isPlainBlank c

instance (cs : List Char) : Decidable (PlainlySpaced cs) :=
  List.decidableBAll (fun c => isBlank c → isPlainBlank c) cs

theorem plainlySpaced_cons {c : Char} {cs : List Char} :
    PlainlySpaced (c :: cs) ↔ (isBlank c → isPlainBlank c) ∧ PlainlySpaced cs :=
  List.forall_mem_cons

theorem plainlySpaced_append {cs ds : List Char} :
    PlainlySpaced (cs ++ ds) ↔ PlainlySpaced cs ∧ PlainlySpaced ds :=
  List.forall_mem_append

theorem plainlySpaced_of_solid {cs : List Char} (solid : ∀ c ∈ cs, isBlank c = false) :
    PlainlySpaced cs := fun c mem blank =>
  absurd blank (Bool.eq_false_iff.mp (solid c mem))

theorem isBlank_of_plain {c : Char} (plain : isPlainBlank c) : isBlank c := by
  by_contra blank
  exact absurd plain (Bool.eq_false_iff.mp (isPlainBlank_eq_false (Bool.eq_false_iff.mpr blank)))

theorem asSpace_blank {c : Char} (blank : isBlank c) : asSpace c = ' ' := if_pos blank

theorem asSpace_solid {c : Char} (solid : isBlank c = false) : asSpace c = c :=
  if_neg (Bool.eq_false_iff.mp solid)

theorem asSpace_eq_iff {c d : Char} (solid : isBlank d = false) : asSpace c = d ↔ c = d := by
  cases blank : isBlank c with
  | false => rw [asSpace_solid blank]
  | true =>
    rw [asSpace_blank blank]
    refine iff_of_false ?_ ?_
    · rintro rfl
      contradiction
    · rintro rfl
      exact absurd blank (Bool.eq_false_iff.mp solid)

/-- What takes all white space alike does not see the change. -/
theorem asSpace_congr {α : Type} {p : Char → α} (blind : ∀ c, isBlank c → p c = p ' ') (c : Char) :
    p (asSpace c) = p c := by
  cases blank : isBlank c with
  | false => rw [asSpace_solid blank]
  | true => rw [asSpace_blank blank, blind c blank]

/-! ## Readers that pass plain white space -/

/-- A reader that passes plain white space, where `seen` are the characters of a text that it
looks at and `respell` makes spaces of the white space among them. -/
structure PassesPlain {α : Type} (read : List Char → Option α) (seen respell : List Char → List Char) :
    Prop where
  first {c : Char} (rest : List Char) : isPlainBlank c → read (c :: rest) = read rest
  last {c : Char} (cs : List Char) : isPlainBlank c → read (cs ++ [c]) = read cs
  seenFirst {c : Char} (rest : List Char) : isBlank c → seen (c :: rest) = c :: seen rest
  seenLast {c : Char} (cs : List Char) : isBlank c → seen (cs ++ [c]) = seen cs ++ [c]
  kinds {cs : List Char} : PlainlySpaced (seen cs) → read (respell cs) = read cs

namespace PassesPlain

variable {α : Type} {read : List Char → Option α} {seen respell : List Char → List Char}
  {cs : List Char}

theorem dropWhile (h : PassesPlain read seen respell) (plain : PlainlySpaced (seen cs)) :
    read (cs.dropWhile isBlank) = read cs ∧ PlainlySpaced (seen (cs.dropWhile isBlank)) := by
  induction cs with
  | nil => exact ⟨rfl, plain⟩
  | cons c rest ih =>
    rw [List.dropWhile_cons]
    split
    · rename_i blank
      rw [h.seenFirst rest blank, plainlySpaced_cons] at plain
      rw [h.first rest (plain.1 blank)]
      exact ih plain.2
    · exact ⟨rfl, plain⟩

theorem run {run : List Char} (h : PassesPlain read seen respell) (blank : ∀ c ∈ run, isBlank c)
    (plain : PlainlySpaced (seen (cs ++ run))) :
    read cs = read (cs ++ run) ∧ PlainlySpaced (seen cs) := by
  induction run generalizing cs with
  | nil =>
    rw [List.append_nil] at plain ⊢
    exact ⟨rfl, plain⟩
  | cons c run ih =>
    rw [List.forall_mem_cons] at blank
    rw [List.append_cons] at plain ⊢
    obtain ⟨same, front⟩ := ih blank.2 plain
    rw [h.seenLast cs blank.1, plainlySpaced_append, plainlySpaced_cons] at front
    rw [← same, h.last cs (front.2.1 blank.1)]
    exact ⟨rfl, front.1⟩

theorem trimChars (h : PassesPlain read seen respell) (plain : PlainlySpaced (seen cs)) :
    read (trimChars cs) = read cs ∧ PlainlySpaced (seen (trimChars cs)) := by
  obtain ⟨front, spaced⟩ := h.dropWhile plain
  obtain ⟨run, whole, blank⟩ := exists_dropEndWhile isBlank (cs.dropWhile isBlank)
  rw [whole] at front spaced
  obtain ⟨same, spaced⟩ := h.run blank spaced
  exact ⟨same.trans front, spaced⟩

/-- Two texts are read the same if they are the same but for the kind of their white space and the
white space at their ends, and if all that white space is plain. -/
theorem read_eq {ds : List Char} (h : PassesPlain read seen respell)
    (same : respell (Text.trimChars cs) = respell (Text.trimChars ds))
    (plain : PlainlySpaced (seen cs)) (plain' : PlainlySpaced (seen ds)) : read cs = read ds := by
  obtain ⟨trimmed, spaced⟩ := h.trimChars plain
  obtain ⟨trimmed', spaced'⟩ := h.trimChars plain'
  rw [← trimmed, ← trimmed', ← h.kinds spaced, ← h.kinds spaced', same]

end PassesPlain

end CiteStyle.Text

namespace CiteStyle.Name

open Text Braces

/-! ## Names -/

theorem keepsMarks_asSpace : KeepsMarks asSpace := by
  intro mark among c
  have solid : ['\\', '\x7b', '\x7d'].all (!isBlank ·) := by decide
  exact asSpace_eq_iff (by simpa using List.all_eq_true.mp solid mark among)

theorem isWordChar_asSpace (c : Char) : isWordChar (asSpace c) = isWordChar c := by
  refine asSpace_congr (fun c blank => ?_) c
  simp [isWordChar, blank, show isBlank ' ' by decide]

theorem isBlank_wordChar {c : Char} (h : isWordChar c) : isBlank c = false := by
  simp only [isWordChar, Bool.and_eq_true, Bool.not_eq_true'] at h
  exact h.1.1

theorem groupAt?_wordChar {c : Char} (h : isWordChar c) (rest : List Char) :
    groupAt? (c :: rest) = none := by
  refine groupAt?_of_ne ?_ rest
  rintro rfl
  contradiction

theorem groupAt?_blank {c : Char} (blank : isBlank c) (rest : List Char) :
    groupAt? (c :: rest) = none := by
  refine groupAt?_of_ne ?_ rest
  rintro rfl
  contradiction

/-- The change leaves the first word, and what is behind it, in place. -/
theorem firstWord_mapPlain (cs : List Char) :
    (mapPlain asSpace cs).takeWhile isWordChar = cs.takeWhile isWordChar ∧
      (mapPlain asSpace cs).dropWhile isWordChar = mapPlain asSpace (cs.dropWhile isWordChar) := by
  induction cs using piece_induction with
  | nil => simp [mapPlain_nil]
  | group inside after inner _ =>
    have stop : isWordChar '\x7b' = false := by decide
    simp [mapPlain_group inner, stop]
  | plain c rest none ih =>
    rw [mapPlain_plain none]
    cases inWord : isWordChar c with
    | true => simp [inWord, asSpace_solid (isBlank_wordChar inWord), ih]
    | false => simp [inWord, isWordChar_asSpace, mapPlain_plain none]

theorem tokensOf?_concat {d : Char} (plain : isPlainBlank d) (cs : List Char) :
    tokensOf? (cs ++ [d]) = tokensOf? cs := by
  have blank : isBlank d := isBlank_of_plain plain
  have stop : isWordChar d = false := by simp [isWordChar, blank]
  have notClosing : d ≠ '\x7d' := by
    rintro rfl
    contradiction
  induction cs using tokensOf?.induct with
  | case1 => exact tokensOf?_blank plain []
  | case2 c rest first ih => rw [List.cons_append, tokensOf?_blank first, tokensOf?_blank first, ih]
  | case3 rest _ ih => rw [List.cons_append, tokensOf?_comma, tokensOf?_comma, ih]
  | case4 c rest _ _ inside after found ih =>
    obtain ⟨inner, text⟩ := groupAt?_eq_some_iff.mp found
    rw [text, tokensOf?_group inner, ← ih, ← tokensOf?_group inner]
    simp
  | case5 c rest _ _ _ inWord ih =>
    rw [List.cons_append, tokensOf?_wordChar c _ inWord, tokensOf?_wordChar c _ inWord,
      dropWhile_concat stop, takeWhile_concat stop, ih]
  | case6 c rest noBlank noComma noGroup noWord =>
    rw [List.cons_append, tokensOf?_stuck noBlank noComma noGroup noWord,
      tokensOf?_stuck noBlank noComma (groupAt?_concat notClosing noGroup) noWord]

theorem outside_word {w : List Char} (chars : ∀ c ∈ w, isWordChar c) (cs : List Char) :
    outside (w ++ cs) = w ++ outside cs := by
  induction w with
  | nil => rfl
  | cons c w ih =>
    rw [List.forall_mem_cons] at chars
    rw [List.cons_append, outside_plain (groupAt?_wordChar chars.1 _), ih chars.2, List.cons_append]

/-- Outside of groups, all white space of a text that can be read is plain. -/
theorem plainlySpaced_of_tokenText {cs : List Char} {ts : List Token} (h : TokenText cs ts) :
    PlainlySpaced (outside cs) := by
  induction h with
  | nil => simp [outside_nil, PlainlySpaced]
  | blank plain _ ih =>
    rw [outside_plain (groupAt?_blank (isBlank_of_plain plain) _), plainlySpaced_cons]
    exact ⟨fun _ => plain, ih⟩
  | comma _ ih =>
    rw [outside_plain rfl, plainlySpaced_cons]
    exact ⟨fun blank => absurd blank (by decide), ih⟩
  | group inner _ ih => rwa [outside_group inner]
  | word _ chars _ _ ih =>
    rw [outside_word chars, plainlySpaced_append]
    exact ⟨plainlySpaced_of_solid fun c mem => isBlank_wordChar (chars c mem), ih⟩

theorem tokensOf?_mapPlain {cs : List Char} (plain : PlainlySpaced (outside cs)) :
    tokensOf? (mapPlain asSpace cs) = tokensOf? cs := by
  induction cs using tokensOf?.induct with
  | case1 => rw [mapPlain_nil]
  | case2 c rest first ih =>
    have blank := isBlank_of_plain first
    have none := groupAt?_blank blank rest
    rw [outside_plain none, plainlySpaced_cons] at plain
    rw [mapPlain_plain none, asSpace_blank blank, tokensOf?_blank (by decide), ih plain.2,
      tokensOf?_blank first]
  | case3 rest _ ih =>
    rw [outside_plain rfl, plainlySpaced_cons] at plain
    rw [mapPlain_plain rfl, asSpace_solid (by decide), tokensOf?_comma, ih plain.2, tokensOf?_comma]
  | case4 c rest _ _ inside after found ih =>
    obtain ⟨inner, text⟩ := groupAt?_eq_some_iff.mp found
    rw [text, outside_group inner] at plain
    rw [text, mapPlain_group inner, tokensOf?_group inner, ih plain, tokensOf?_group inner]
  | case5 c rest _ _ none inWord ih =>
    obtain ⟨word, behind⟩ := firstWord_mapPlain rest
    rw [outside_plain none, plainlySpaced_cons] at plain
    have others : PlainlySpaced (outside (rest.dropWhile isWordChar)) := by
      have whole := List.takeWhile_append_dropWhile (p := isWordChar) (l := rest)
      rw [← whole, outside_word (List.all_eq_true.mp List.all_takeWhile), plainlySpaced_append] at plain
      exact plain.2.2
    rw [mapPlain_plain none, asSpace_solid (isBlank_wordChar inWord), tokensOf?_wordChar c _ inWord,
      word, behind, ih others, tokensOf?_wordChar c rest inWord]
  | case6 c rest noBlank noComma noGroup noWord =>
    rw [outside_plain noGroup, plainlySpaced_cons] at plain
    have solid : isBlank c = false := Bool.eq_false_iff.mpr fun blank => noBlank (plain.1 blank)
    have still := keepsMarks_asSpace.groupAt?_mapPlain noGroup
    rw [asSpace_solid solid] at still
    rw [mapPlain_plain noGroup, asSpace_solid solid, tokensOf?_stuck noBlank noComma still noWord,
      tokensOf?_stuck noBlank noComma noGroup noWord]

theorem passesPlain : PassesPlain tokensOf? outside (mapPlain asSpace) where
  first rest plain := tokensOf?_blank plain rest
  last cs plain := tokensOf?_concat plain cs
  seenFirst rest blank := outside_plain (groupAt?_blank blank rest)
  seenLast cs blank := by
    refine outside_concat ?_ cs
    rintro rfl
    contradiction
  kinds := tokensOf?_mapPlain

end CiteStyle.Name

namespace CiteStyle.Locator

open Text

/-! ## Locators -/

theorem isWordChar_asSpace (c : Char) : isWordChar (asSpace c) = isWordChar c := by
  refine asSpace_congr (fun c blank => ?_) c
  simp [isWordChar, blank, show isBlank ' ' by decide]

theorem isBlank_wordChar {c : Char} (h : isWordChar c) : isBlank c = false := by
  simp only [isWordChar, Bool.and_eq_true, Bool.not_eq_true'] at h
  exact h.1

theorem isBlank_mark {c : Char} {t : Token} (h : mark? c = some t) : isBlank c = false := by
  have solid : [',', ';', '&', '-', '–'].all (!isBlank ·) := by decide
  have among : c ∈ [',', ';', '&', '-', '–'] := by
    unfold mark? at h
    split_ifs at h <;> simp_all
  simpa using List.all_eq_true.mp solid c among

/-- The change leaves the first word, and what is behind it, in place. -/
theorem firstWord_map (cs : List Char) :
    (cs.map asSpace).takeWhile isWordChar = cs.takeWhile isWordChar ∧
      (cs.map asSpace).dropWhile isWordChar = (cs.dropWhile isWordChar).map asSpace := by
  have same : isWordChar ∘ asSpace = isWordChar := funext isWordChar_asSpace
  rw [List.takeWhile_map, List.dropWhile_map, same]
  refine ⟨(List.map_congr_left fun c mem => ?_).trans (List.map_id _), rfl⟩
  exact asSpace_solid (isBlank_wordChar (List.all_eq_true.mp List.all_takeWhile c mem))

theorem tokensOf?_mark {c : Char} {mark : Token} (found : mark? c = some mark) (rest : List Char) :
    tokensOf? (c :: rest) = (tokensOf? rest).map (mark :: ·) :=
  (separates_mark found).reads rest

/-- White space that is not plain cannot be read. -/
theorem tokensOf?_stuck {c : Char} (noPlain : ¬isPlainBlank c) (blank : isBlank c) (rest : List Char) :
    tokensOf? (c :: rest) = none := by
  have noMark : mark? c = none := by
    rw [Option.eq_none_iff_forall_ne_some]
    intro t found
    exact absurd blank (Bool.eq_false_iff.mp (isBlank_mark found))
  rw [tokensOf?, if_neg noPlain, noMark]
  exact if_pos blank

/-- What is neither a mark nor white space starts a word. -/
theorem wordChar_of_other {c : Char} (noMark : mark? c = none) (solid : ¬isBlank c) :
    isWordChar c := by
  simp [isWordChar, noMark, solid]

theorem tokensOf?_concat {d : Char} (plain : isPlainBlank d) (cs : List Char) :
    tokensOf? (cs ++ [d]) = tokensOf? cs := by
  have stop : isWordChar d = false := by simp [isWordChar, isBlank_of_plain plain]
  induction cs using tokensOf?.induct with
  | case1 => exact tokensOf?_blank plain []
  | case2 c rest first ih => rw [List.cons_append, tokensOf?_blank first, tokensOf?_blank first, ih]
  | case3 c rest _ mark found ih =>
    rw [List.cons_append, tokensOf?_mark found, tokensOf?_mark found, ih]
  | case4 c rest noPlain _ blank =>
    rw [List.cons_append, tokensOf?_stuck noPlain blank, tokensOf?_stuck noPlain blank]
  | case5 c rest _ noMark solid ih =>
    have inWord := wordChar_of_other noMark solid
    rw [List.cons_append, tokensOf?_wordChar c _ inWord, tokensOf?_wordChar c _ inWord,
      dropWhile_concat stop, takeWhile_concat stop, ih]

/-- Exactly the texts with white space that is not plain cannot be read. -/
theorem tokensOf?_isSome_iff (cs : List Char) : (tokensOf? cs).isSome ↔ PlainlySpaced cs := by
  induction cs using tokensOf?.induct with
  | case1 => simp [tokensOf?_nil, PlainlySpaced]
  | case2 c rest first ih =>
    rw [tokensOf?_blank first, ih, plainlySpaced_cons, and_iff_right fun _ => first]
  | case3 c rest _ mark found ih =>
    have solid := Bool.eq_false_iff.mp (isBlank_mark found)
    rw [tokensOf?_mark found, Option.isSome_map, ih, plainlySpaced_cons,
      and_iff_right (absurd · solid)]
  | case4 c rest noPlain _ blank =>
    rw [tokensOf?_stuck noPlain blank, plainlySpaced_cons]
    exact iff_of_false (by simp) fun h => noPlain (h.1 blank)
  | case5 c rest _ noMark solid ih =>
    have inWord := wordChar_of_other noMark solid
    have chars : ∀ d ∈ c :: rest.takeWhile isWordChar, isWordChar d :=
      List.forall_mem_cons.mpr ⟨inWord, List.all_eq_true.mp List.all_takeWhile⟩
    have word := plainlySpaced_of_solid fun d mem => isBlank_wordChar (chars d mem)
    have whole : c :: rest.takeWhile isWordChar ++ rest.dropWhile isWordChar = c :: rest := by
      rw [List.cons_append, List.takeWhile_append_dropWhile]
    rw [tokensOf?_wordChar c rest inWord, Option.isSome_map, ih, ← whole, plainlySpaced_append,
      and_iff_right word]

theorem tokensOf?_map {cs : List Char} (plain : PlainlySpaced cs) :
    tokensOf? (cs.map asSpace) = tokensOf? cs := by
  induction cs using tokensOf?.induct with
  | case1 => rfl
  | case2 c rest first ih =>
    rw [plainlySpaced_cons] at plain
    rw [List.map_cons, asSpace_blank (isBlank_of_plain first), tokensOf?_blank (by decide), ih plain.2,
      tokensOf?_blank first]
  | case3 c rest _ mark found ih =>
    rw [plainlySpaced_cons] at plain
    rw [List.map_cons, asSpace_solid (isBlank_mark found), tokensOf?_mark found, ih plain.2,
      tokensOf?_mark found]
  | case4 c rest noPlain _ blank =>
    rw [plainlySpaced_cons] at plain
    exact absurd (plain.1 blank) noPlain
  | case5 c rest _ noMark solid ih =>
    obtain ⟨word, behind⟩ := firstWord_map rest
    have inWord := wordChar_of_other noMark solid
    have others : PlainlySpaced (rest.dropWhile isWordChar) := fun d mem =>
      plain d (List.mem_cons_of_mem c ((List.dropWhile_sublist isWordChar).subset mem))
    rw [List.map_cons, asSpace_solid (isBlank_wordChar inWord), tokensOf?_wordChar c _ inWord, word,
      behind, ih others, tokensOf?_wordChar c rest inWord]

theorem passesPlain : PassesPlain tokensOf? id (·.map asSpace) where
  first rest plain := tokensOf?_blank plain rest
  last cs plain := tokensOf?_concat plain cs
  seenFirst _ _ := rfl
  seenLast _ _ := rfl
  kinds := tokensOf?_map

/-- A text without tokens is white space. -/
theorem trim_of_noTokens {cs : List Char} (none : tokensOf? cs = some []) : trimChars cs = [] := by
  have blank : ∀ c ∈ cs, isBlank c := by
    induction cs using tokensOf?.induct with
    | case1 => simp
    | case2 c rest first ih =>
      rw [tokensOf?_blank first] at none
      exact List.forall_mem_cons.mpr ⟨isBlank_of_plain first, ih none⟩
    | case3 c rest _ mark found => simp [tokensOf?_mark found] at none
    | case4 c rest noPlain _ blank => simp [tokensOf?_stuck noPlain blank] at none
    | case5 c rest _ noMark solid =>
      simp [tokensOf?_wordChar c rest (wordChar_of_other noMark solid)] at none
  have nothing : cs.dropWhile isBlank = [] := by
    simpa using @dropWhile_run _ isBlank cs [] blank (by simp)
  rw [trimChars, nothing]
  rfl

/-- The parts of a text that can be read are those of its tokens. -/
theorem parts_eq {a b : String} (plain : PlainlySpaced a.toList)
    (same : tokensOf? a.toList = tokensOf? b.toList) : parts a = parts b := by
  obtain ⟨ts, read⟩ := Option.isSome_iff_exists.mp ((tokensOf?_isSome_iff a.toList).mpr plain)
  have read' := same ▸ read
  unfold parts
  cases ts with
  | nil =>
    rw [read, read', trim, trim, trim_of_noTokens read, trim_of_noTokens read']
  | cons t ts => rw [read, read']

end CiteStyle.Locator

namespace CiteStyle

open Text

/-! ## Two texts -/

/-- Two texts are the same but for the kind of the white space outside of brace groups, and for
white space at their ends. -/
def Braces.Respaced (a b : String) : Prop :=
  mapOutside (·.map asSpace) (trim a) = mapOutside (·.map asSpace) (trim b)

/-- Two texts are the same but for the kind of their white space, and for white space at their
ends. -/
def Text.Respaced (a b : String) : Prop := (trim a).map asSpace = (trim b).map asSpace

theorem Braces.respaced_iff {a b : String} :
    Braces.Respaced a b ↔
      mapPlain asSpace (trimChars a.toList) = mapPlain asSpace (trimChars b.toList) := by
  rw [Respaced, mapOutside_map, mapOutside_map, trim, trim, String.toList_ofList,
    String.toList_ofList, String.ofList_inj]

theorem Text.respaced_iff {a b : String} :
    Text.Respaced a b ↔ (trimChars a.toList).map asSpace = (trimChars b.toList).map asSpace := by
  rw [Text.Respaced, ← String.toList_inj, String.toList_map, String.toList_map, trim, trim,
    String.toList_ofList, String.toList_ofList]

/-- While all white space that counts is plain, its kind does not change what names or locators a
text is read as, nor does white space at the ends. As soon as some of it is not plain, the text is
kept as a literal. -/
theorem read_respaced (a b : String) :
    (Braces.Respaced a b → PlainlySpaced (Braces.outside a.toList) →
      PlainlySpaced (Braces.outside b.toList) → Name.list? a = Name.list? b) ∧
    (¬PlainlySpaced (Braces.outside a.toList) → Name.readList a = [.ofLiteral a]) ∧
    (Text.Respaced a b → PlainlySpaced a.toList → PlainlySpaced b.toList →
      Locator.parts a = Locator.parts b) ∧
    (¬PlainlySpaced a.toList → Locator.parts a = [⟨trim a, none, false⟩]) := by
  refine ⟨fun same plain plain' => ?_, fun foreign => ?_, fun same plain plain' => ?_,
    fun foreign => ?_⟩
  · rw [Name.list?, Name.list?, Name.passesPlain.read_eq (Braces.respaced_iff.mp same) plain plain']
  · have unread : Name.tokensOf? a.toList = none := by
      rw [Option.eq_none_iff_forall_ne_some]
      exact fun ts read => foreign (Name.plainlySpaced_of_tokenText (Name.tokensOf?_eq_some_iff.mp read))
    rw [Name.readList, Name.list?, unread]
    rfl
  · exact Locator.parts_eq plain (Locator.passesPlain.read_eq (Text.respaced_iff.mp same) plain plain')
  · have unread : Locator.tokensOf? a.toList = none := by
      rw [← Option.not_isSome_iff_eq_none, Locator.tokensOf?_isSome_iff]
      exact foreign
    rw [Locator.parts, unread]

/-- Two names, the second in braces with a no-break space inside, and white space of plain kinds
around and between them. -/
def tabbedNames : String := "\tJane\nDoe and \x7bAcme\u00a0Corp\x7d\r\n"

def spacedNames : String := "Jane Doe and \x7bAcme\u00a0Corp\x7d"

theorem read_respaced_tabbed :
    (Braces.Respaced tabbedNames spacedNames ∧ PlainlySpaced (Braces.outside tabbedNames.toList) ∧
      PlainlySpaced (Braces.outside spacedNames.toList) ∧
      Name.list? tabbedNames = Name.list? spacedNames) ∧
    (¬PlainlySpaced (Braces.outside "Jane\u00a0Doe".toList) ∧
      Name.readList "Jane\u00a0Doe" = [.ofLiteral "Jane\u00a0Doe"]) ∧
    (Text.Respaced "p.\t4" " p. 4\n" ∧ PlainlySpaced "p.\t4".toList ∧
      PlainlySpaced " p. 4\n".toList ∧ Locator.parts "p.\t4" = Locator.parts " p. 4\n") ∧
    ¬PlainlySpaced "p.\u00a04".toList ∧
      Locator.parts "p.\u00a04" = [⟨trim "p.\u00a04", none, false⟩] := by
  obtain ⟨names, -, -, -⟩ := read_respaced tabbedNames spacedNames
  obtain ⟨-, foreignNames, -, -⟩ := read_respaced "Jane\u00a0Doe" "Jane Doe"
  obtain ⟨-, -, locators, -⟩ := read_respaced "p.\t4" " p. 4\n"
  obtain ⟨-, -, -, foreignLocators⟩ := read_respaced "p.\u00a04" "p. 4"
  have same : Braces.Respaced tabbedNames spacedNames :=
    Braces.respaced_iff.mpr (by decide +kernel)
  have tabbed : PlainlySpaced (Braces.outside tabbedNames.toList) := by decide +kernel
  have spaced : PlainlySpaced (Braces.outside spacedNames.toList) := by decide +kernel
  have foreign : ¬PlainlySpaced (Braces.outside "Jane\u00a0Doe".toList) := by decide +kernel
  have same' : Text.Respaced "p.\t4" " p. 4\n" :=
    Text.respaced_iff.mpr (by decide +kernel)
  have tabbed' : PlainlySpaced "p.\t4".toList := by decide +kernel
  have spaced' : PlainlySpaced " p. 4\n".toList := by decide +kernel
  have foreign' : ¬PlainlySpaced "p.\u00a04".toList := by decide +kernel
  exact ⟨⟨same, tabbed, spaced, names same tabbed spaced⟩, ⟨foreign, foreignNames foreign⟩,
    ⟨same', tabbed', spaced', locators same' tabbed' spaced'⟩, foreign', foreignLocators foreign'⟩

/-- With a no-break space in the place of a space, a name is one literal and the label of a locator
is lost. -/
theorem read_sees_noBreakSpace :
    (¬∀ a b : String, Braces.Respaced a b → Name.list? a = Name.list? b) ∧
      ¬∀ a b : String, Braces.Respaced a b → Locator.parts a = Locator.parts b := by
  have respaced : Braces.Respaced "Jane\u00a0Doe" "Jane Doe" :=
    Braces.respaced_iff.mpr (by decide +kernel)
  have respaced' : Braces.Respaced "p.\u00a04" "p. 4" :=
    Braces.respaced_iff.mpr (by decide +kernel)
  have names : Name.list? "Jane\u00a0Doe" ≠ Name.list? "Jane Doe" := by decide +kernel
  have locators : Locator.parts "p.\u00a04" ≠ Locator.parts "p. 4" := by decide +kernel
  exact ⟨fun blind => names (blind _ _ respaced), fun blind => locators (blind _ _ respaced')⟩

end CiteStyle
