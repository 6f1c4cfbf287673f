-- Delimiters at the ends of a list of names. No name has a delimiter at an end of it,
-- so one comes first or last only beside names of which nothing is written: delimiters
-- go by the places of the names, and a name keeps its place though it shows nothing.
import CiteStyle.Proofs.NameLists

namespace CiteStyle

open Text

/-! ## Ends of output -/

namespace Buffer

/-- An output starts with a delimiter. -/
def StartsWithDelimiter (b : Buffer) : Prop := b.head?.any (·.isOfKind .delimiter)

/-- An output ends with a delimiter. -/
def EndsWithDelimiter (b : Buffer) : Prop := b.getLast?.any (·.isOfKind .delimiter)

instance (b : Buffer) : Decidable b.StartsWithDelimiter := inferInstanceAs (Decidable (_ = true))

instance (b : Buffer) : Decidable b.EndsWithDelimiter := inferInstanceAs (Decidable (_ = true))

theorem startsWithDelimiter_append {a : Buffer} (ne : a ≠ []) (b : Buffer) :
    (a ++ b).StartsWithDelimiter ↔ a.StartsWithDelimiter := by
  unfold StartsWithDelimiter
  rw [List.head?_append_of_ne_nil a ne]

theorem endsWithDelimiter_append (a : Buffer) {b : Buffer} (ne : b ≠ []) :
    (a ++ b).EndsWithDelimiter ↔ b.EndsWithDelimiter := by
  unfold EndsWithDelimiter
  rw [List.getLast?_append_of_ne_nil a ne]

/-- An output that is there, with no delimiter at either end. -/
structure Capped (b : Buffer) : Prop where
  filled : b ≠ []
  start : ¬b.StartsWithDelimiter
  close : ¬b.EndsWithDelimiter

/-- An output with no delimiter at either end, be it that there is none. -/
def Clean (b : Buffer) : Prop := b = [] ∨ b.Capped

theorem Capped.clean {b : Buffer} (h : b.Capped) : b.Clean := .inr h

theorem Capped.around {a b : Buffer} (ha : a.Capped) (between : Buffer) (hb : b.Capped) :
    (a ++ between ++ b).Capped where
  filled := by simp [ha.filled]
  start := by
    rw [List.append_assoc, startsWithDelimiter_append ha.filled]
    exact ha.start
  close := by
    rw [endsWithDelimiter_append _ hb.filled]
    exact hb.close

theorem Clean.append {a b : Buffer} (ha : a.Clean) (hb : b.Clean) : (a ++ b).Clean := by
  rcases ha with rfl | ha
  · exact hb
  · rcases hb with rfl | hb
    · rw [List.append_nil]
      exact ha.clean
    · have whole := ha.around [] hb
      rw [List.append_nil] at whole
      exact .inr whole

theorem Clean.not_starts {b : Buffer} (h : b.Clean) : ¬b.StartsWithDelimiter := by
  rcases h with rfl | h
  · decide
  · exact h.start

theorem Clean.not_ends {b : Buffer} (h : b.Clean) : ¬b.EndsWithDelimiter := by
  rcases h with rfl | h
  · decide
  · exact h.close

/-- What has no delimiter at an end of it keeps others from that end if there is any of it. -/
theorem Clean.starts_append {a : Buffer} (h : a.Clean) (b : Buffer) :
    (a ++ b).StartsWithDelimiter ↔ a = [] ∧ b.StartsWithDelimiter := by
  rcases h with rfl | h
  · rw [List.nil_append, and_iff_right rfl]
  · rw [startsWithDelimiter_append h.filled]
    exact iff_of_false h.start fun none => h.filled none.1

theorem Clean.ends_append (a : Buffer) {b : Buffer} (h : b.Clean) :
    (a ++ b).EndsWithDelimiter ↔ b = [] ∧ a.EndsWithDelimiter := by
  rcases h with rfl | h
  · rw [List.append_nil, and_iff_right rfl]
  · rw [endsWithDelimiter_append a h.filled]
    exact iff_of_false h.close fun none => h.filled none.1

theorem capped_token {t : Token} (other : t.isOfKind .delimiter = false) : Capped [t] where
  filled := List.cons_ne_nil t []
  start := by simp [StartsWithDelimiter, other]
  close := by simp [EndsWithDelimiter, other]

theorem capped_ofText {kind : TokenKind} (other : kind ≠ .delimiter) {s : String}
    (filled : s ≠ "") : (ofText kind s).Capped := by
  unfold ofText
  rw [if_neg filled]
  exact capped_token (by simp [Token.ofText, Token.isOfKind, other])

theorem clean_ofText {kind : TokenKind} (other : kind ≠ .delimiter) (s : String) :
    (ofText kind s).Clean := by
  by_cases empty : s = ""
  · exact .inl (if_pos empty)
  · exact .inr (capped_ofText other empty)

theorem Capped.affixes {b : Buffer} (h : b.Capped) (a : Affixes) : (a.apply b).Capped := by
  unfold Affixes.apply
  rw [if_neg (by simp [h.filled])]
  have before : (ofText .before a.before).Clean := clean_ofText (by simp) _
  have behind : (ofText .behind a.behind).Clean := clean_ofText (by simp) _
  exact ((before.append h.clean).append behind).resolve_left (by simp [h.filled])

theorem Clean.affixes {b : Buffer} (h : b.Clean) (a : Affixes) : (a.apply b).Clean := by
  rcases h with rfl | h
  · exact .inl rfl
  · exact .inr (h.affixes a)

theorem joinFilled_pair (delimiter : String) (a b : Buffer) :
    joinFilled delimiter [a, b] =
      a ++ (if a ≠ [] ∧ b ≠ [] then ofText .delimiter delimiter else []) ++ b := by
  by_cases ha : a = [] <;> by_cases hb : b = [] <;> simp [joinFilled, joinWith, ha, hb]

theorem clean_joinFilled (delimiter : String) {a b : Buffer} (ha : a.Clean) (hb : b.Clean) :
    (joinFilled delimiter [a, b]).Clean := by
  rw [joinFilled_pair]
  rcases ha with rfl | ha
  · simpa using hb
  · rcases hb with rfl | hb
    · simpa using ha.clean
    · exact .inr (ha.around _ hb)

theorem joinFilled_eq_nil_iff (delimiter : String) {a b : Buffer} :
    joinFilled delimiter [a, b] = [] ↔ a = [] ∧ b = [] := by
  rw [joinFilled_pair, List.append_eq_nil_iff, List.append_eq_nil_iff]
  constructor
  · exact fun none => ⟨none.1.1, none.2⟩
  · rintro ⟨rfl, rfl⟩
    simp

/-! ## Output within output -/

theorem starts_of_delimiters {b : Buffer} (all : ∀ t ∈ b, t.isOfKind .delimiter) (rest : Buffer) :
    (b ++ rest).StartsWithDelimiter ↔ b ≠ [] ∨ rest.StartsWithDelimiter := by
  cases b with
  | nil => simp
  | cons t b => simp [StartsWithDelimiter, all t List.mem_cons_self]

theorem ends_of_delimiters {b : Buffer} (all : ∀ t ∈ b, t.isOfKind .delimiter) :
    b.EndsWithDelimiter ↔ b ≠ [] := by
  by_cases none : b = []
  · subst none
    decide
  · unfold EndsWithDelimiter
    rw [List.getLast?_eq_some_getLast none, Option.any_some]
    exact iff_of_true (all _ (List.getLast_mem none)) none

theorem isOfKind_ofText (kind : TokenKind) (s : String) :
    ∀ t ∈ ofText kind s, t.isOfKind kind := by
  intro t mem
  unfold ofText at mem
  split at mem
  · simp at mem
  · obtain rfl := List.mem_singleton.mp mem
    simp [Token.ofText, Token.isOfKind]

theorem ofText_eq_nil_iff {kind : TokenKind} {s : String} : ofText kind s = [] ↔ s = "" := by
  unfold ofText
  split <;> simp [*]

theorem joinWith_empty (bs : List Buffer) : joinWith "" bs = bs.flatten := by
  induction bs using joinWith.induct with
  | case1 => rfl
  | case2 b => simp [joinWith]
  | case3 b rest more ih =>
    have ne : rest ≠ [] := by simpa using more
    rw [joinWith_cons "" b ne, ih, List.flatten_cons, ofText_eq_nil_iff.mpr rfl, List.append_nil]

theorem clean_flatten {bs : List Buffer} (clean : ∀ b ∈ bs, b.Clean) : Clean bs.flatten := by
  induction bs with
  | nil => exact .inl rfl
  | cons b rest ih =>
    rw [List.forall_mem_cons] at clean
    exact clean.1.append (ih clean.2)

/-- Joined outputs start with a delimiter if the first of them is empty and something is put behind
it that starts with one. A delimiter without text puts nothing there. -/
theorem starts_joinWith (delimiter : String) {b : Buffer} {rest : List Buffer}
    (clean : ∀ c ∈ b :: rest, c.Clean) (tail : Buffer) :
    (joinWith delimiter (b :: rest) ++ tail).StartsWithDelimiter ↔
      if delimiter = "" then (b :: rest).flatten = [] ∧ tail.StartsWithDelimiter
      else b = [] ∧ (rest ≠ [] ∨ tail.StartsWithDelimiter) := by
  by_cases none : delimiter = ""
  · rw [if_pos none, none, joinWith_empty, (clean_flatten clean).starts_append]
  · have first := clean b List.mem_cons_self
    rw [if_neg none]
    by_cases single : rest = []
    · rw [single, joinWith, first.starts_append]
      simp
    · rw [joinWith_cons _ _ single, List.append_assoc, List.append_assoc, first.starts_append,
        starts_of_delimiters (isOfKind_ofText .delimiter delimiter), ne_eq, ofText_eq_nil_iff]
      simp [none, single]

/-! ## Decorations -/

theorem starts_affixes (a : Affixes) (b : Buffer) :
    (a.apply b).StartsWithDelimiter ↔ a.before = "" ∧ b.StartsWithDelimiter := by
  unfold Affixes.apply
  by_cases none : b = []
  · subst none
    exact iff_of_false (Clean.not_starts (.inl rfl)) fun h => Clean.not_starts (.inl rfl) h.2
  · have before : (ofText .before a.before).Clean := clean_ofText (by simp) _
    rw [if_neg (by simpa using none)]
    unfold appendText prependText
    rw [List.append_assoc, before.starts_append, ofText_eq_nil_iff, startsWithDelimiter_append none]

theorem ends_affixes (a : Affixes) (b : Buffer) :
    (a.apply b).EndsWithDelimiter ↔ a.behind = "" ∧ b.EndsWithDelimiter := by
  unfold Affixes.apply
  by_cases none : b = []
  · subst none
    exact iff_of_false (Clean.not_ends (.inl rfl)) fun h => Clean.not_ends (.inl rfl) h.2
  · have behind : (ofText .behind a.behind).Clean := clean_ofText (by simp) _
    rw [if_neg (by simpa using none)]
    unfold appendText prependText
    rw [behind.ends_append, ofText_eq_nil_iff, endsWithDelimiter_append _ none]

theorem isOfKind_wrap (kind : TokenKind) (outer : Formatting) (t : Token) :
    (t.wrap outer).isOfKind kind = t.isOfKind kind := by
  cases t <;> rfl

theorem starts_plain {d : Decoration} (plain : d.IsPlain) (locale : Locale) (b : Buffer) :
    (d.apply locale b).StartsWithDelimiter ↔ d.affixes.before = "" ∧ b.StartsWithDelimiter := by
  rw [plain.apply_eq, starts_affixes]
  unfold StartsWithDelimiter wrap
  rw [List.head?_map, Option.any_map]
  simp only [isOfKind_wrap]

theorem ends_plain {d : Decoration} (plain : d.IsPlain) (locale : Locale) (b : Buffer) :
    (d.apply locale b).EndsWithDelimiter ↔ d.affixes.behind = "" ∧ b.EndsWithDelimiter := by
  rw [plain.apply_eq, ends_affixes]
  unfold EndsWithDelimiter wrap
  rw [List.getLast?_map, Option.any_map]
  simp only [isOfKind_wrap]

end Buffer

/-! ## One name -/

/-- Nothing is written of a name: its literal is empty, or it has none, and neither a family name
nor a given name. -/
def Name.isUnwritten (n : Name) : Bool :=
  match n.literal with
  | some s => s = ""
  | none => (nonEmpty? n.family).isNone && (nonEmpty? n.given).isNone

namespace NameFormat

open Buffer

variable (f : NameFormat) (o : NameOptions) (locale : Locale)

theorem capped_styled (d : Decoration) (s : String) : Capped [styled locale d s] :=
  capped_token rfl

theorem capped_withParticle (d : Decoration) (particle : Option String) {b : Buffer}
    (hb : b.Capped) : (withParticle locale d particle b).Capped := by
  unfold withParticle
  split
  · exact (capped_styled locale d _).around _ hb
  · exact hb

theorem capped_withEnding (ending : Option String) {b : Buffer} (hb : b.Capped) :
    (withEnding ending b).Capped := by
  unfold withEnding
  split
  · rename_i s found
    exact hb.around _ (capped_ofText (by simp) (OutputLaw.ne_empty_of_nonEmpty? found))
  · exact hb

theorem capped_familyPart {n : Name} (there : nonEmpty? n.family ≠ none) :
    (f.familyPart locale n).Capped := by
  obtain ⟨s, family⟩ := Option.ne_none_iff_exists'.mp there
  have short := capped_withParticle locale f.family n.nonDroppingParticle
    (capped_styled locale f.family s)
  unfold familyPart
  rw [family]
  dsimp only
  split
  · exact short.affixes _
  · exact (capped_withEnding _ (capped_withParticle locale f.given _ short)).affixes _

theorem familyPart_eq_nil_iff {n : Name} :
    f.familyPart locale n = [] ↔ nonEmpty? n.family = none := by
  constructor
  · intro empty
    by_contra there
    exact (f.capped_familyPart locale there).filled empty
  · intro absent
    rw [familyPart, absent]

theorem clean_familyPart (n : Name) : (f.familyPart locale n).Clean := by
  by_cases absent : nonEmpty? n.family = none
  · exact .inl ((f.familyPart_eq_nil_iff locale).mpr absent)
  · exact .inr (f.capped_familyPart locale absent)

theorem clean_givenPart (besideFamily : Bool) (n : Name) :
    (f.givenPart o locale besideFamily n).Clean := by
  have part (s : String) : Clean (if s = "" then [] else [styled locale f.given s]) := by
    split
    · exact .inl rfl
    · exact .inr (capped_styled locale f.given s)
  exact (part _).affixes f.given.affixes

/-- A name has no delimiter at an end of it. -/
theorem clean_writeName (inverted : Bool) (n : Name) : (f.writeName o locale inverted n).Clean := by
  have family := f.clean_familyPart locale n
  have given := f.clean_givenPart o locale (!(f.familyPart locale n).isEmpty) n
  unfold writeName
  split
  · exact clean_ofText (by simp) _
  · dsimp only
    split
    · exact family
    · split
      · exact clean_joinFilled _ family given
      · exact clean_joinFilled _ given family

theorem givenPart_eq_nil_iff {n : Name} :
    f.givenPart o locale false n = [] ↔ nonEmpty? n.given = none := by
  have filled (s : String) : f.given.affixes.apply [styled locale f.given s] ≠ [] :=
    ((capped_styled locale f.given s).affixes _).filled
  unfold givenPart nonEmpty?
  rcases n.given with _ | s
  · cases o.initializeWith <;> simp [Affixes.apply]
  · by_cases empty : s = ""
    · cases o.initializeWith <;> simp [empty, Affixes.apply]
    · cases o.initializeWith <;> simp [empty, filled]

/-- Whether anything is written of a name depends on the name alone. -/
theorem writeName_eq_nil_iff (inverted : Bool) (n : Name) :
    f.writeName o locale inverted n = [] ↔ n.isUnwritten := by
  have parts : ((nonEmpty? n.family).isNone && (nonEmpty? n.given).isNone) = true ↔
      f.familyPart locale n = [] ∧ f.givenPart o locale false n = [] := by
    rw [f.familyPart_eq_nil_iff, f.givenPart_eq_nil_iff, Bool.and_eq_true,
      Option.isNone_iff_eq_none, Option.isNone_iff_eq_none]
  unfold writeName Name.isUnwritten
  rcases n.literal with _ | s
  · dsimp only
    rw [parts]
    by_cases absent : f.familyPart locale n = []
    · simp only [absent, List.isEmpty_nil, Bool.not_true, Bool.and_false, Bool.false_eq_true,
        if_false, true_and]
      split
      · rw [joinFilled_eq_nil_iff, and_iff_right rfl]
      · rw [joinFilled_eq_nil_iff, and_iff_left rfl]
    · refine iff_of_false ?_ fun none => absent none.1
      split
      · exact absent
      · split
        · exact fun none => absent ((joinFilled_eq_nil_iff _).mp none).1
        · exact fun none => absent ((joinFilled_eq_nil_iff _).mp none).2
  · by_cases empty : s = ""
    · simp [ofText, empty]
    · simp [ofText, empty]

theorem clean_writtenFrom (place : Nat) (names : List Name) :
    ∀ b ∈ f.writtenFrom o locale place names, b.Clean := by
  intro b mem
  obtain ⟨⟨n, place⟩, -, rfl⟩ := List.mem_map.mp mem
  exact f.clean_writeName o locale _ n

theorem flatten_writtenFrom_eq_nil_iff (place : Nat) (names : List Name) :
    (f.writtenFrom o locale place names).flatten = [] ↔ ∀ n ∈ names, n.isUnwritten := by
  induction names generalizing place with
  | nil => simp
  | cons n rest ih =>
    rw [writtenFrom_cons, List.flatten_cons, List.append_eq_nil_iff, ih, writeName_eq_nil_iff,
      List.forall_mem_cons]

theorem writtenFrom_snoc (place : Nat) (names : List Name) (n : Name) :
    f.writtenFrom o locale place (names ++ [n]) = f.writtenFrom o locale place names ++
      [f.writeName o locale (o.inverts (place + names.length)) n] := by
  simp [writtenFrom, List.zipIdx_append]

/-! ## Between names -/

theorem starts_remainder (kept : Nat) :
    (f.remainder o locale kept).StartsWithDelimiter ↔
      o.etAlRule.applies (kept > 1) (o.inverts (kept - 1)) ∧ f.delimiter ≠ "" := by
  unfold remainder
  dsimp only
  split
  · rename_i applies
    rw [starts_of_delimiters (isOfKind_ofText .delimiter _), ne_eq, ofText_eq_nil_iff,
      or_iff_left (clean_ofText (by simp) _).not_starts, and_iff_right applies]
  · rename_i applies
    exact iff_of_false (clean_ofText (by simp) _).not_starts fun h => applies h.1

theorem ends_remainder (kept : Nat) :
    (f.remainder o locale kept).EndsWithDelimiter ↔
      o.etAlRule.applies (kept > 1) (o.inverts (kept - 1)) ∧ f.delimiter ≠ "" ∧
        (locale.term? "et-al" .long false).getD "et al." = "" := by
  unfold remainder
  dsimp only
  split
  · rename_i applies
    rw [Clean.ends_append _ (clean_ofText (by simp) _), ofText_eq_nil_iff,
      ends_of_delimiters (isOfKind_ofText .delimiter _), ne_eq, ofText_eq_nil_iff,
      and_iff_right applies, and_comm]
  · rename_i applies
    exact iff_of_false (clean_ofText (by simp) _).not_ends fun h => applies h.1

theorem remainder_eq_nil {kept : Nat} (empty : f.remainder o locale kept = []) :
    f.delimiter = "" := by
  unfold remainder at empty
  dsimp only at empty
  split at empty
  · exact ofText_eq_nil_iff.mp (List.append_eq_nil_iff.mp empty).1
  · simp [ofText] at empty

theorem isOfKind_lastJoint (count : Nat) :
    ∀ t ∈ f.lastJoint o locale count, t.isOfKind .delimiter := by
  unfold lastJoint
  dsimp only
  split
  · refine List.forall_mem_append.mpr ⟨isOfKind_ofText .delimiter _, ?_⟩
    split
    · simp
    · exact isOfKind_ofText .delimiter _
  · exact isOfKind_ofText .delimiter _

theorem lastJoint_ne_nil (filled : f.delimiter ≠ "") (count : Nat) :
    f.lastJoint o locale count ≠ [] := by
  have joint : f.jointText o locale ≠ "" := by
    unfold jointText
    split
    · simp
    · simp
    · exact filled
  unfold lastJoint
  dsimp only
  split
  · intro empty
    exact filled (ofText_eq_nil_iff.mp (List.append_eq_nil_iff.mp empty).1)
  · exact ofText_eq_nil_iff.not.mpr joint

/-! ## Lists that are cut short -/

theorem starts_cut {kept : Nat} (some : 0 < kept) {names : List Name}
    (cut : kept < names.length) :
    (joinWith f.delimiter (f.written o locale (names.take kept)) ++
        f.remainder o locale kept).StartsWithDelimiter ↔
      f.delimiter ≠ "" ∧ names.head?.any Name.isUnwritten ∧
        (2 ≤ kept ∨ o.etAlRule.applies (kept > 1) (o.inverts (kept - 1))) := by
  obtain _ | ⟨n, rest⟩ := names
  · simp at cut
  obtain ⟨more, rfl⟩ := Nat.exists_eq_add_one_of_ne_zero (Nat.ne_of_gt some)
  rw [List.length_cons] at cut
  have clean := f.clean_writtenFrom o locale 0 ((n :: rest).take (more + 1))
  rw [List.take_succ_cons, writtenFrom_cons] at clean
  have further : f.writtenFrom o locale 1 (rest.take more) ≠ [] ↔ 2 ≤ more + 1 := by
    rw [← List.length_pos_iff, length_writtenFrom, List.length_take]
    omega
  unfold written
  rw [List.take_succ_cons, writtenFrom_cons, starts_joinWith _ clean, starts_remainder, further,
    writeName_eq_nil_iff, List.head?_cons, Option.any_some]
  by_cases none : f.delimiter = ""
  · simp [none]
  · simp [none]

theorem ends_cut (kept : Nat) (names : List Name) :
    (joinWith f.delimiter (f.written o locale names) ++
        f.remainder o locale kept).EndsWithDelimiter ↔
      o.etAlRule.applies (kept > 1) (o.inverts (kept - 1)) ∧ f.delimiter ≠ "" ∧
        (locale.term? "et-al" .long false).getD "et al." = "" := by
  by_cases empty : f.remainder o locale kept = []
  · have none := f.remainder_eq_nil o locale empty
    rw [empty, List.append_nil, none, joinWith_empty]
    exact iff_of_false (clean_flatten (f.clean_writtenFrom o locale 0 names)).not_ends
      fun h => h.2.1 rfl
  · rw [endsWithDelimiter_append _ empty, ends_remainder]

/-! ## Lists that are not -/

theorem exists_ends {names : List Name} (several : 2 ≤ names.length) :
    ∃ first between last, names = first :: between ++ [last] := by
  obtain _ | ⟨first, rest⟩ := names
  · simp at several
  have ne : rest ≠ [] := by
    rintro rfl
    simp at several
  refine ⟨first, rest.dropLast, rest.getLast ne, ?_⟩
  rw [List.cons_append, List.dropLast_concat_getLast]

theorem joinNames_written (joint : Buffer) {front : List Name} (ne : front ≠ []) (last : Name) :
    joinNames f.delimiter joint (f.written o locale (front ++ [last])) =
      joinWith f.delimiter (f.written o locale front) ++
        (joint ++ f.writeName o locale (o.inverts front.length) last) := by
  have written : f.written o locale front ≠ [] := by
    rw [← List.length_pos_iff, length_written]
    exact List.length_pos_iff.mpr ne
  have snoc := f.writtenFrom_snoc o locale 0 front last
  rw [Nat.zero_add] at snoc
  rw [NameFormat.written, snoc, ← List.append_assoc]
  exact joinNames_snoc _ _ written _

theorem clean_short {names : List Name} (short : names.length < 2) (joint : Buffer) :
    (joinNames f.delimiter joint (f.written o locale names)).Clean := by
  match names, short with
  | [], _ => exact .inl rfl
  | [n], _ => exact f.clean_writeName o locale _ n

theorem starts_whole {names : List Name} (several : 2 ≤ names.length) (count : Nat) :
    (joinNames f.delimiter (f.lastJoint o locale count)
        (f.written o locale names)).StartsWithDelimiter ↔
      if f.delimiter = "" then
        f.lastJoint o locale count ≠ [] ∧ ∀ n ∈ names.dropLast, n.isUnwritten
      else names.head?.any Name.isUnwritten := by
  obtain ⟨first, between, last, rfl⟩ := exists_ends several
  have clean := f.clean_writtenFrom o locale 0 (first :: between)
  have blank := f.flatten_writtenFrom_eq_nil_iff o locale 0 (first :: between)
  rw [writtenFrom_cons] at clean blank
  rw [f.joinNames_written o locale _ (List.cons_ne_nil _ _), NameFormat.written, writtenFrom_cons,
    starts_joinWith _ clean, starts_of_delimiters (f.isOfKind_lastJoint o locale count),
    or_iff_left (f.clean_writeName o locale _ last).not_starts, blank, List.dropLast_concat]
  by_cases none : f.delimiter = ""
  · rw [if_pos none, if_pos none, and_comm]
  · rw [if_neg none, if_neg none, and_iff_left (.inr (f.lastJoint_ne_nil o locale none count))]
    exact f.writeName_eq_nil_iff o locale _ first

theorem ends_joinWith_lastJoint (names : List Name) (count : Nat) :
    (joinWith f.delimiter (f.written o locale names) ++
        f.lastJoint o locale count).EndsWithDelimiter ↔ f.lastJoint o locale count ≠ [] := by
  by_cases joint : f.lastJoint o locale count = []
  · -- Without a joint there is no delimiter at all.
    have none : f.delimiter = "" := by
      by_contra filled
      exact f.lastJoint_ne_nil o locale filled count joint
    have clean := clean_flatten (f.clean_writtenFrom o locale 0 names)
    rw [joint, List.append_nil, none, joinWith_empty]
    exact iff_of_false clean.not_ends fun h => h rfl
  · rw [endsWithDelimiter_append _ joint, ends_of_delimiters (f.isOfKind_lastJoint o locale count)]

theorem ends_whole {names : List Name} (several : 2 ≤ names.length) (count : Nat) :
    (joinNames f.delimiter (f.lastJoint o locale count)
        (f.written o locale names)).EndsWithDelimiter ↔
      f.lastJoint o locale count ≠ [] ∧ names.getLast?.any Name.isUnwritten := by
  obtain ⟨first, between, last, rfl⟩ := exists_ends several
  have unwritten := f.writeName_eq_nil_iff o locale (o.inverts (first :: between).length) last
  rw [f.joinNames_written o locale _ (List.cons_ne_nil _ _), ← List.append_assoc,
    Clean.ends_append _ (f.clean_writeName o locale _ last), f.ends_joinWith_lastJoint,
    List.getLast?_concat, Option.any_some, unwritten, and_comm]

/-! ## Whole lists -/

section Whole

variable {f} (inherited : NameOptions) (names : List Name) (plain : f.decoration.IsPlain)
include plain

theorem starts_write :
    (f.write inherited locale names).StartsWithDelimiter ↔
      f.decoration.affixes.before = "" ∧
        if f.delimiter = "" then
          f.count inherited names = names.length ∧ 2 ≤ f.count inherited names ∧
            f.lastJoint (inherited.merge f.options) locale (f.count inherited names) ≠ [] ∧
              ∀ n ∈ names.dropLast, n.isUnwritten
        else
          names.head?.any Name.isUnwritten ∧
            (2 ≤ f.count inherited names ∨
              0 < f.count inherited names ∧ f.count inherited names < names.length ∧
                (inherited.merge f.options).etAlRule.applies (f.count inherited names > 1)
                  ((inherited.merge f.options).inverts (f.count inherited names - 1))) := by
  rcases Nat.lt_or_eq_of_le (f.count_le inherited names) with cut | whole
  · by_cases none : f.count inherited names = 0
    · rw [f.write_none inherited locale none, none]
      refine iff_of_false (Clean.not_starts (.inl rfl)) fun h => ?_
      have := h.2
      split at this <;> omega
    · have some : 0 < f.count inherited names := Nat.pos_of_ne_zero none
      rw [f.write_cut inherited locale some cut, starts_plain plain,
        f.starts_cut _ locale some cut]
      by_cases bare : f.delimiter = ""
      · simp [bare, Nat.ne_of_lt cut]
      · simp [bare, some, cut]
  · rw [f.write_whole inherited locale whole, starts_plain plain, whole]
    rcases Nat.lt_or_ge names.length 2 with short | several
    · have clean := f.clean_short (inherited.merge f.options) locale short
        (f.lastJoint (inherited.merge f.options) locale names.length)
      refine iff_of_false (fun h => clean.not_starts h.2) fun h => ?_
      have := h.2
      split at this <;> omega
    · rw [f.starts_whole _ locale several]
      simp [several]

theorem ends_write :
    (f.write inherited locale names).EndsWithDelimiter ↔
      f.decoration.affixes.behind = "" ∧
        if f.count inherited names = names.length then
          2 ≤ f.count inherited names ∧
            f.lastJoint (inherited.merge f.options) locale (f.count inherited names) ≠ [] ∧
              names.getLast?.any Name.isUnwritten
        else
          0 < f.count inherited names ∧
            (inherited.merge f.options).etAlRule.applies (f.count inherited names > 1)
              ((inherited.merge f.options).inverts (f.count inherited names - 1)) ∧
                f.delimiter ≠ "" ∧ (locale.term? "et-al" .long false).getD "et al." = "" := by
  rcases Nat.lt_or_eq_of_le (f.count_le inherited names) with cut | whole
  · rw [if_neg (Nat.ne_of_lt cut)]
    by_cases none : f.count inherited names = 0
    · rw [f.write_none inherited locale none, none]
      exact iff_of_false (Clean.not_ends (.inl rfl)) fun h => absurd h.2.1 (by omega)
    · have some : 0 < f.count inherited names := Nat.pos_of_ne_zero none
      rw [f.write_cut inherited locale some cut, ends_plain plain, f.ends_cut, and_iff_right some]
  · rw [if_pos whole, f.write_whole inherited locale whole, ends_plain plain, whole]
    rcases Nat.lt_or_ge names.length 2 with short | several
    · have clean := f.clean_short (inherited.merge f.options) locale short
        (f.lastJoint (inherited.merge f.options) locale names.length)
      exact iff_of_false (fun h => clean.not_ends h.2) fun h => absurd h.2.1 (by omega)
    · rw [f.ends_whole _ locale several, and_iff_right several]

end Whole

/-- Where a delimiter stands at an end of a list of names. It comes first if nothing is written of
the first name and something is put behind that name; if the delimiter has no text, only the joint
of the last name is, and so nothing may be written of all names in front of it. It comes last if
nothing is written of the last name, or of the words for all others. Affixes keep it from the ends.
If something is written of every name that is kept and the words for all others are not empty,
then there is no delimiter at either end. -/
theorem write_delimitersAtEnds (inherited : NameOptions) (names : List Name)
    (plain : f.decoration.IsPlain) :
    let o := inherited.merge f.options
    let kept := f.count inherited names
    let others := (locale.term? "et-al" .long false).getD "et al."
    let precedes := o.etAlRule.applies (kept > 1) (o.inverts (kept - 1))
    let output := f.write inherited locale names
    (output.StartsWithDelimiter ↔
      f.decoration.affixes.before = "" ∧
        if f.delimiter = "" then
          kept = names.length ∧ 2 ≤ kept ∧ f.lastJoint o locale kept ≠ [] ∧
            ∀ n ∈ names.dropLast, n.isUnwritten
        else
          names.head?.any Name.isUnwritten ∧
            (2 ≤ kept ∨ 0 < kept ∧ kept < names.length ∧ precedes)) ∧
      (output.EndsWithDelimiter ↔
        f.decoration.affixes.behind = "" ∧
          if kept = names.length then
            2 ≤ kept ∧ f.lastJoint o locale kept ≠ [] ∧ names.getLast?.any Name.isUnwritten
          else 0 < kept ∧ precedes ∧ f.delimiter ≠ "" ∧ others = "") ∧
      ((∀ n ∈ names.take kept, ¬n.isUnwritten) → others ≠ "" →
        ¬output.StartsWithDelimiter ∧ ¬output.EndsWithDelimiter) := by
  intro o kept others precedes output
  have starts := starts_write locale inherited names plain
  have ends := ends_write locale inherited names plain
  refine ⟨starts, ends, fun written filled => ⟨fun start => ?_, fun close => ?_⟩⟩
  · have first : 0 < kept ∧ names.head?.any Name.isUnwritten := by
      obtain ⟨-, start⟩ := starts.mp start
      split at start
      · obtain ⟨all, several, -, unwritten⟩ := start
        obtain ⟨first, between, last, rfl⟩ := exists_ends (all ▸ several)
        rw [List.dropLast_concat] at unwritten
        exact ⟨by omega, unwritten first List.mem_cons_self⟩
      · exact ⟨by omega, start.1⟩
    obtain _ | ⟨n, rest⟩ := names
    · simp at first
    · obtain ⟨more, kept⟩ := Nat.exists_eq_add_one_of_ne_zero (Nat.ne_of_gt first.1)
      refine written n ?_ first.2
      rw [kept, List.take_succ_cons]
      exact List.mem_cons_self
  · obtain ⟨-, close⟩ := ends.mp close
    split at close
    · rename_i whole
      have all : kept = names.length := whole
      obtain ⟨n, last, unwritten⟩ := (Option.any_eq_true _ _).mp close.2.2
      refine written n ?_ unwritten
      rw [all, List.take_length]
      exact List.mem_of_getLast? last
    · exact filled close.2.2.2

/-- A name of which nothing is written, since it has a suffix only, and one of which all is. -/
def namesAfterSuffix : List Name := [{ ending := some "Jr." }, { family := some "Doe" }]

theorem write_delimitersAtEnds_suffix :
    Name.isUnwritten { ending := some "Jr." } ∧
      (write {} {} .english namesAfterSuffix).StartsWithDelimiter ∧
      ¬(write {} {} .english namesAfterSuffix).EndsWithDelimiter := by
  have read : NameFormat.ofXml ⟨"name", [], none, []⟩ = .ok {} := by rfl
  obtain ⟨starts, ends, -⟩ :=
    write_delimitersAtEnds {} .english {} namesAfterSuffix (isPlain_ofXml read)
  exact ⟨by decide, starts.mpr (by decide), fun close => absurd (ends.mp close) (by decide)⟩

/-- Where nothing is written of the first name, the delimiter behind it comes first. -/
theorem write_startsWithDelimiter :
    ¬∀ (f : NameFormat) (locale : Locale) (inherited : NameOptions) (names : List Name),
      f.decoration.IsPlain →
        ¬(f.write inherited locale names).StartsWithDelimiter ∧
          ¬(f.write inherited locale names).EndsWithDelimiter := by
  intro never
  have start : (write {} {} .english namesAfterSuffix).StartsWithDelimiter := by decide +kernel
  exact (never {} .english {} namesAfterSuffix rfl).1 start

end NameFormat

end CiteStyle
