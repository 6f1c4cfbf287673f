-- The word between the last two names and the white space around it. The word comes
-- with a space on either side. Where a delimiter is put in front of it, the space
-- there gives way to the delimiter, whether or not the delimiter ends in white space:
-- only then can the white space in front be missing, and never that behind.
import CiteStyle.Proofs.LocalizedDates
import CiteStyle.Proofs.NameLists

namespace CiteStyle

open Text

/-! ## White space at the ends -/

/-- A text has white space at its end. -/
def EndsBlank (cs : List Char) : Prop := cs.getLast?.any isBlank

/-- A text has white space at its start. -/
def StartsBlank (cs : List Char) : Prop := cs.head?.any isBlank

instance (cs : List Char) : Decidable (EndsBlank cs) := inferInstanceAs (Decidable (_ = true))

instance (cs : List Char) : Decidable (StartsBlank cs) := inferInstanceAs (Decidable (_ = true))

/-- A word stands in a text with white space directly in front of it and directly behind it. -/
def StandsApart (word text : List Char) : Prop :=
  ∃ before behind, text = before ++ word ++ behind ∧ EndsBlank before ∧ StartsBlank behind

theorem endsBlank_append (cs : List Char) {ds : List Char} (ne : ds ≠ []) :
    EndsBlank (cs ++ ds) ↔ EndsBlank ds := by
  unfold EndsBlank
  rw [List.getLast?_append_of_ne_nil cs ne]

theorem endsBlank_of_all {cs : List Char} (ne : cs ≠ []) (all : ∀ c ∈ cs, isBlank c) :
    EndsBlank cs := by
  unfold EndsBlank
  rw [List.getLast?_eq_some_getLast ne, Option.any_some]
  exact all _ (List.getLast_mem ne)

theorem StandsApart.exists_place {word text : List Char} (h : StandsApart word text) :
    ∃ n ≤ text.length, word <+: text.drop n ∧ EndsBlank (text.take n) := by
  obtain ⟨before, behind, rfl, blank, -⟩ := h
  refine ⟨before.length, by simp only [List.length_append]; omega, ?_, ?_⟩
  · rw [List.append_assoc, List.drop_left]
    exact List.prefix_append word behind
  · rwa [List.append_assoc, List.take_left]

theorem Decoration.IsPlain.keepsText {d : Decoration} (h : d.IsPlain) : d.KeepsText := by
  unfold KeepsText
  rw [h]

/-! ## The joint -/

/-- The word of a locale between the last two names. -/
def Locale.andWord (l : Locale) : List Char := ((l.term? "and" .long false).getD "and").toList

namespace NameFormat

variable (f : NameFormat) {o : NameOptions} (locale : Locale)

theorem toList_jointText (and : o.and = some .text) :
    (f.jointText o locale).toList = ' ' :: (locale.andWord ++ [' ']) := by
  unfold jointText Locale.andWord
  rw [and]
  simp

/-- The text of the joint ends in the word, but for white space in front of it, and a space. What
is in front of the word there ends in white space, unless it is a delimiter that does not. -/
theorem toList_lastJoint (and : o.and = some .text)
    (visible : locale.andWord.dropWhile isBlank ≠ []) (count : Nat) :
    ∃ gap, (f.lastJoint o locale count).plainText.toList =
        gap ++ locale.andWord.dropWhile isBlank ++ [' '] ∧
      ∀ lead, EndsBlank (lead ++ gap) ↔
        (o.lastRule.applies (count > 2) (o.inverts (count - 2)) →
          f.jointText o locale ≠ f.delimiter → EndsBlank (lead ++ f.delimiter.toList)) := by
  have joint := f.toList_jointText locale and
  have word : locale.andWord.takeWhile isBlank ++ locale.andWord.dropWhile isBlank =
      locale.andWord := List.takeWhile_append_dropWhile
  have whole : (f.jointText o locale).toList =
      ' ' :: locale.andWord.takeWhile isBlank ++ locale.andWord.dropWhile isBlank ++ [' '] := by
    rw [joint, List.cons_append, word, List.cons_append]
  have blank (lead : List Char) : EndsBlank (lead ++ ' ' :: locale.andWord.takeWhile isBlank) := by
    refine (endsBlank_append lead (by simp)).mpr (endsBlank_of_all (by simp) fun c mem => ?_)
    rcases List.mem_cons.mp mem with rfl | inside
    · rfl
    · exact List.all_eq_true.mp List.all_takeWhile c inside
  unfold lastJoint
  dsimp only
  by_cases precedes : o.lastRule.applies (count > 2) (o.inverts (count - 2))
  · rw [if_pos precedes]
    by_cases same : f.jointText o locale = f.delimiter
    · refine ⟨' ' :: locale.andWord.takeWhile isBlank, ?_, fun lead => ?_⟩
      · rw [if_pos same, List.append_nil, Buffer.toList_plainText_ofText, ← same, whole]
      · exact iff_of_true (blank lead) fun _ differs => absurd same differs
    · refine ⟨f.delimiter.toList, ?_, fun lead => ?_⟩
      · have trimmed : (trimStart (f.jointText o locale)).toList =
            locale.andWord.dropWhile isBlank ++ [' '] := by
          unfold trimStart
          rw [String.toList_ofList, joint, List.dropWhile_cons_of_pos rfl, List.dropWhile_append,
            if_neg (by simpa using visible)]
        rw [if_neg same, Buffer.toList_plainText_append, Buffer.toList_plainText_ofText,
          Buffer.toList_plainText_ofText, trimmed, List.append_assoc]
      · exact ⟨fun h _ _ => h, fun h => h precedes same⟩
  · rw [if_neg precedes]
    refine ⟨' ' :: locale.andWord.takeWhile isBlank, ?_, fun lead => ?_⟩
    · rw [Buffer.toList_plainText_ofText, whole]
    · exact iff_of_true (blank lead) fun h => absurd h precedes

/-! ## Whole lists -/

theorem exists_lastTwo {bs : List Buffer} (several : 2 ≤ bs.length) :
    ∃ init prev last, bs = init ++ [prev, last] := by
  have ne : bs ≠ [] := List.length_pos_iff.mp (by omega)
  have front : bs.dropLast ≠ [] := List.length_pos_iff.mp (by rw [List.length_dropLast]; omega)
  refine ⟨bs.dropLast.dropLast, bs.dropLast.getLast front, bs.getLast ne, ?_⟩
  rw [List.append_cons, List.dropLast_concat_getLast, List.dropLast_concat_getLast]

/-- Of two names or more that are all written, the word comes in front of the last one. Directly
behind it there is a space. Directly in front of it there is white space, unless a delimiter is put
there that is not the joint itself, and the text up to this delimiter does not end in white
space. -/
theorem write_andWord (inherited : NameOptions) {names : List Name} (plain : f.decoration.IsPlain)
    (and : (inherited.merge f.options).and = some .text) (several : 2 ≤ names.length)
    (whole : f.count inherited names = names.length)
    (visible : locale.andWord.dropWhile isBlank ≠ []) :
    let o := inherited.merge f.options
    ∃ init prev last, f.written o locale names = init ++ [prev, last] ∧
      let lead := f.decoration.affixes.before.toList ++
        (Buffer.joinWith f.delimiter (init ++ [prev])).plainText.toList
      ∃ gap, (f.write inherited locale names).plainText.toList =
          lead ++ gap ++ locale.andWord.dropWhile isBlank ++
            ' ' :: (last.plainText.toList ++ f.decoration.affixes.behind.toList) ∧
        (EndsBlank (lead ++ gap) ↔
          (o.lastRule.applies (names.length > 2) (o.inverts (names.length - 2)) →
            f.jointText o locale ≠ f.delimiter → EndsBlank (lead ++ f.delimiter.toList))) := by
  intro o
  obtain ⟨init, prev, last, written⟩ :=
    exists_lastTwo (by rwa [length_written] : 2 ≤ (f.written o locale names).length)
  refine ⟨init, prev, last, written, ?_⟩
  intro lead
  obtain ⟨gap, joint, blank⟩ := f.toList_lastJoint locale and visible names.length
  refine ⟨gap, ?_, blank lead⟩
  have content : joinNames f.delimiter (f.lastJoint o locale names.length)
      (f.written o locale names) = Buffer.joinWith f.delimiter (init ++ [prev]) ++
        f.lastJoint o locale names.length ++ last := by
    rw [written, List.append_cons, joinNames_snoc _ _ (by simp)]
  have shown : f.lastJoint o locale names.length ≠ [] := by
    intro empty
    rw [empty] at joint
    simpa [Buffer.toList_plainText] using congrArg List.length joint
  dsimp only [lead]
  rw [f.write_whole inherited locale whole, content,
    Decoration.toList_plainText_apply plain.keepsText, if_neg (by simp [shown]),
    Buffer.toList_plainText_append, Buffer.toList_plainText_append, joint]
  simp only [List.append_assoc, List.cons_append, List.nil_append]

/-- The word in front of the last name, and the usual delimiter. -/
def withAnd : NameFormat := { options := { and := some .text } }

theorem write_andWord_three :
    ∃ lead, EndsBlank lead ∧ (withAnd.write {} .english threeNames).plainText.toList =
      lead ++ "and".toList ++ " Edgar Poe".toList := by
  have read : NameFormat.ofXml ⟨"name", [("and", "text")], none, []⟩ = .ok withAnd := by rfl
  have all : withAnd.count {} threeNames = threeNames.length := by decide
  obtain ⟨init, prev, last, written, gap, text, blank⟩ := write_andWord withAnd .english {}
    (isPlain_ofXml read) rfl (by decide) all (by decide)
  have poe : (withAnd.written withAnd.options .english threeNames).getLast?.map
      (·.plainText.toList) = some "Edgar Poe".toList := by decide +kernel
  have lastText : last.plainText.toList = "Edgar Poe".toList := by
    rw [show withAnd.options = ({} : NameOptions).merge withAnd.options from rfl, written] at poe
    simpa using poe
  refine ⟨_, blank.mpr fun _ _ => (endsBlank_append _ (by decide)).mpr (by decide), ?_⟩
  rw [text, lastText]
  rfl

/-- The word in front of the last name, and a delimiter without a space. -/
def withTightComma : NameFormat := { delimiter := ",", options := { and := some .text } }

/-- The word may stand right behind a delimiter, with no white space between them. -/
theorem write_joins_tightly :
    ¬∀ (f : NameFormat) (locale : Locale) (inherited : NameOptions) (names : List Name),
      f.decoration.IsPlain → (inherited.merge f.options).and = some .text → 2 ≤ names.length →
        f.count inherited names = names.length →
          (∀ b ∈ f.written (inherited.merge f.options) locale names, b ≠ []) →
            StandsApart locale.andWord (f.write inherited locale names).plainText.toList := by
  intro apart
  have stands := apart withTightComma .english {} threeNames rfl rfl (by decide) (by decide)
    (by decide +kernel)
  have text : (withTightComma.write {} .english threeNames).plainText.toList =
      "Jane Doe,Rick Roe,and Edgar Poe".toList := by decide +kernel
  rw [text] at stands
  obtain ⟨n, le, starts, blank⟩ := stands.exists_place
  have tight : ∀ n ≤ 31,
      Locale.english.andWord <+: "Jane Doe,Rick Roe,and Edgar Poe".toList.drop n →
        ¬EndsBlank ("Jane Doe,Rick Roe,and Edgar Poe".toList.take n) := by decide +kernel
  exact tight n le starts blank

end NameFormat

end CiteStyle
