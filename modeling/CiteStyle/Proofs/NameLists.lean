-- What a list of names that is cut short shows of them. The names are gone through
-- one by one, and each place decides what stands behind its name: nothing, the joint
-- of the last name, the words for all others, or a plain delimiter. Put together, the
-- names that are kept are joined by plain delimiters, whatever is left out.
import CiteStyle.Locale.English
import CiteStyle.Proofs.Citations
import CiteStyle.Proofs.OutputLaws

namespace CiteStyle

/-! ## Terms apart from one -/

namespace Locale

/-- A term that is set leaves the terms of other names as they are. -/
theorem term?_setTerm (l : Locale) (t : Term) {name : String} (other : t.name ≠ name)
    (form : TermForm) (plural : Bool) :
    (l.setTerm t).term? name form plural = l.term? name form plural := by
  have apart (form : TermForm) : (l.setTerm t).termIn? name form = l.termIn? name form := by
    rw [termIn?_setTerm, if_neg fun same => other same.2.symm]
  unfold term?
  rw [funext apart]

end Locale

/-- Of the terms of a locale, a decoration asks for the quotes only. -/
theorem Decoration.apply_setTerm (l : Locale) {t : Term} (notOpen : t.name ≠ "open-quote")
    (notClose : t.name ≠ "close-quote") (d : Decoration) (b : Buffer) :
    d.apply (l.setTerm t) b = d.apply l b := by
  have stage : d.applyStage (l.setTerm t) = d.applyStage l := by
    funext b stage
    cases stage with
    | quotes =>
      simp only [applyStage, Buffer.quoted, l.term?_setTerm t notOpen, l.term?_setTerm t notClose]
    | formatting | stripPeriods | textCase | affixes | display => rfl
  unfold apply
  rw [stage]

/-- A list of names has affixes and formatting only. -/
theorem NameFormat.isPlain_ofXml {e : Xml.Element} {f : NameFormat}
    (h : NameFormat.ofXml e = .ok f) : f.decoration.IsPlain := by
  obtain ⟨parts, -, h⟩ := except_bind_ok h
  obtain ⟨options, -, h⟩ := except_bind_ok h
  cases h
  rfl

/-! ## Joined names -/

theorem Buffer.joinWith_cons (delimiter : String) (b : Buffer) {rest : List Buffer}
    (more : rest ≠ []) :
    joinWith delimiter (b :: rest) =
      b ++ ofText .delimiter delimiter ++ joinWith delimiter rest := by
  obtain _ | ⟨c, rest⟩ := rest
  · exact absurd rfl more
  · rfl

namespace NameFormat

theorem joinNames_cons (delimiter : String) (joint b : Buffer) {rest : List Buffer}
    (more : 2 ≤ rest.length) :
    joinNames delimiter joint (b :: rest) =
      b ++ Buffer.ofText .delimiter delimiter ++ joinNames delimiter joint rest := by
  match rest, more with
  | _ :: _ :: _, _ => rfl

/-- Only the last name has a joint of its own. -/
theorem joinNames_snoc (delimiter : String) (joint : Buffer) {bs : List Buffer} (ne : bs ≠ [])
    (last : Buffer) :
    joinNames delimiter joint (bs ++ [last]) = Buffer.joinWith delimiter bs ++ joint ++ last := by
  induction bs with
  | nil => exact absurd rfl ne
  | cons b rest ih =>
    by_cases single : rest = []
    · subst single
      rfl
    · have more : 2 ≤ (rest ++ [last]).length := by
        have := List.length_pos_iff.mpr single
        rw [List.length_append, List.length_singleton]
        omega
      rw [List.cons_append, joinNames_cons delimiter joint b more, ih single,
        Buffer.joinWith_cons delimiter b single]
      simp only [List.append_assoc]

/-! ## Place by place -/

section Places

variable (f : NameFormat) (o : NameOptions) (locale : Locale)

/-- The names of a list as they are written, where the first has a place in a longer list. -/
def writtenFrom (place : Nat) (names : List Name) : List Buffer :=
  (names.zipIdx place).map fun (n, place) => f.writeName o locale (o.inverts place) n

/-- The names of a list as they are written. -/
def written (names : List Name) : List Buffer := f.writtenFrom o locale 0 names

/-- What stands behind the name at a place, given how many names there are and how many of them
are to be written at most. -/
def behind (count : Nat) (limit : Option Nat) (place : Nat) : Buffer :=
  if place + 1 = count then []
  else if limit = some (place + 1) then f.remainder o locale (place + 1)
  else if place + 2 = count then f.lastJoint o locale count
  else Buffer.ofText .delimiter f.delimiter

/-- Write the names from a place on, up to the one with which the limit is reached. -/
def writeFrom (count : Nat) (limit : Option Nat) (place : Nat) : List Name → Buffer
  | [] => []
  | n :: rest =>
    f.writeName o locale (o.inverts place) n ++ f.behind o locale count limit place
      ++ if limit = some (place + 1) then [] else writeFrom count limit (place + 1) rest

/-- Write a list of names place by place. -/
def writePlaces (names : List Name) : Buffer :=
  let limit := o.limit? names.length
  if limit = some 0 then [] else f.writeFrom o locale names.length limit 0 names

@[simp] theorem writtenFrom_nil (place : Nat) : f.writtenFrom o locale place [] = [] := rfl

@[simp] theorem writtenFrom_cons (place : Nat) (n : Name) (rest : List Name) :
    f.writtenFrom o locale place (n :: rest) =
      f.writeName o locale (o.inverts place) n :: f.writtenFrom o locale (place + 1) rest := rfl

@[simp] theorem length_writtenFrom (place : Nat) (names : List Name) :
    (f.writtenFrom o locale place names).length = names.length := by
  simp [writtenFrom]

@[simp] theorem length_written (names : List Name) :
    (f.written o locale names).length = names.length :=
  f.length_writtenFrom o locale 0 names

theorem writtenFrom_take (place k : Nat) (names : List Name) :
    f.writtenFrom o locale place (names.take k) = (f.writtenFrom o locale place names).take k := by
  induction names generalizing place k with
  | nil => simp
  | cons n rest ih =>
    cases k with
    | zero => rfl
    | succ k => simp [ih]

/-- A list that is cut short: the last name that is kept decides what stands behind it, all in
front of it have a plain delimiter behind them. -/
theorem writeFrom_cut {count kept : Nat} (cut : kept < count) {place : Nat} (lt : place < kept)
    {names : List Name} (all : place + names.length = count) :
    f.writeFrom o locale count (some kept) place names =
      Buffer.joinWith f.delimiter (f.writtenFrom o locale place (names.take (kept - place)))
        ++ f.remainder o locale kept := by
  induction names generalizing place with
  | nil =>
    rw [List.length_nil] at all
    omega
  | cons n rest ih =>
    rw [List.length_cons] at all
    have here : place + 1 ≠ count := by omega
    unfold writeFrom behind
    rw [if_neg here]
    by_cases reached : kept = place + 1
    · subst reached
      have one : place + 1 - place = 1 := by omega
      simp [one, Buffer.joinWith]
    · have further : kept - place = kept - (place + 1) + 1 := by omega
      have more : f.writtenFrom o locale (place + 1) (rest.take (kept - (place + 1))) ≠ [] := by
        rw [← List.length_pos_iff, length_writtenFrom, List.length_take]
        omega
      have unreached : some kept ≠ some (place + 1) := by simpa using reached
      have notLast : place + 2 ≠ count := by omega
      rw [if_neg unreached, if_neg unreached, if_neg notLast, ih (by omega) (by omega), further,
        List.take_succ_cons, writtenFrom_cons, Buffer.joinWith_cons _ _ more]
      simp only [List.append_assoc]

/-- A list that is not cut short: the last name but one has the joint of the last name behind
it, all in front of it a plain delimiter. -/
theorem writeFrom_whole {count : Nat} {limit : Option Nat}
    (whole : ∀ kept, limit = some kept → count ≤ kept) {place : Nat} {names : List Name}
    (all : place + names.length = count) :
    f.writeFrom o locale count limit place names =
      joinNames f.delimiter (f.lastJoint o locale count) (f.writtenFrom o locale place names) := by
  induction names generalizing place with
  | nil => rfl
  | cons n rest ih =>
    rw [List.length_cons] at all
    unfold writeFrom behind
    by_cases last : rest = []
    · subst last
      rw [List.length_nil] at all
      rw [if_pos all]
      simp [writeFrom, joinNames]
    · have more := List.length_pos_iff.mpr last
      have unreached : limit ≠ some (place + 1) := fun reached => by
        have := whole _ reached
        omega
      rw [if_neg (by omega), if_neg unreached, if_neg unreached, ih (by omega), writtenFrom_cons]
      by_cases next : place + 2 = count
      · obtain ⟨m, rfl⟩ := List.length_eq_one_iff.mp (by omega : rest.length = 1)
        rw [if_pos next]
        rfl
      · rw [if_neg next, joinNames_cons _ _ _ (by rw [length_writtenFrom]; omega)]

end Places

/-! ## How many names are kept -/

section Lists

variable (f : NameFormat) (inherited : NameOptions) (locale : Locale)

theorem limit?_eq_some_iff {o : NameOptions} {count first : Nat} :
    o.limit? count = some first ↔
      (∃ least ≤ count, o.etAlMin = some least) ∧ o.etAlUseFirst = some first := by
  unfold NameOptions.limit?
  rcases o.etAlMin with _ | least
  · simp
  · rcases o.etAlUseFirst with _ | use
    · simp
    · simp [and_comm]

theorem count_eq (names : List Name) :
    f.count inherited names =
      min (((inherited.merge f.options).limit? names.length).getD names.length) names.length := rfl

theorem limit_of_cut {names : List Name} (cut : f.count inherited names < names.length) :
    (inherited.merge f.options).limit? names.length = some (f.count inherited names) := by
  rw [count_eq] at cut ⊢
  rcases limit : (inherited.merge f.options).limit? names.length with _ | first
  · rw [limit, Option.getD_none] at cut
    omega
  · rw [limit, Option.getD_some] at cut
    rw [Option.getD_some, Option.some.injEq]
    omega

theorem le_of_whole {names : List Name} (whole : f.count inherited names = names.length)
    (first : Nat) (limit : (inherited.merge f.options).limit? names.length = some first) :
    names.length ≤ first := by
  rw [count_eq, limit, Option.getD_some] at whole
  omega

theorem count_le (names : List Name) : f.count inherited names ≤ names.length :=
  Nat.min_le_right _ _

/-! ## Whole lists -/

theorem write_eq (names : List Name) :
    f.write inherited locale names =
      f.decoration.apply locale (
        if f.count inherited names = 0 then []
        else if f.count inherited names < names.length then
          Buffer.joinWith f.delimiter
              ((f.written (inherited.merge f.options) locale names).take (f.count inherited names))
            ++ f.remainder (inherited.merge f.options) locale (f.count inherited names)
        else
          joinNames f.delimiter (f.lastJoint (inherited.merge f.options) locale names.length)
            (f.written (inherited.merge f.options) locale names)) := rfl

theorem write_none {names : List Name} (none : f.count inherited names = 0) :
    f.write inherited locale names = [] := by
  rw [write_eq, if_pos none, Decoration.apply_nil]

theorem write_cut {names : List Name} (some : 0 < f.count inherited names)
    (cut : f.count inherited names < names.length) :
    f.write inherited locale names =
      f.decoration.apply locale (Buffer.joinWith f.delimiter
          (f.written (inherited.merge f.options) locale (names.take (f.count inherited names)))
        ++ f.remainder (inherited.merge f.options) locale (f.count inherited names)) := by
  rw [write_eq, if_neg (Nat.ne_of_gt some), if_pos cut]
  unfold written
  rw [writtenFrom_take]

theorem write_whole {names : List Name} (whole : f.count inherited names = names.length) :
    f.write inherited locale names =
      f.decoration.apply locale (joinNames f.delimiter
        (f.lastJoint (inherited.merge f.options) locale names.length)
        (f.written (inherited.merge f.options) locale names)) := by
  rw [write_eq, whole, if_neg (Nat.lt_irrefl _)]
  split
  · rename_i none
    rw [List.length_eq_zero_iff.mp none]
    rfl
  · rfl

/-- A list of names is what its places give, one after the other. -/
theorem write_eq_writePlaces (names : List Name) :
    f.write inherited locale names =
      f.decoration.apply locale (f.writePlaces (inherited.merge f.options) locale names) := by
  unfold writePlaces
  dsimp only
  rcases Nat.lt_or_eq_of_le (f.count_le inherited names) with cut | whole
  · rw [f.limit_of_cut inherited cut]
    by_cases none : f.count inherited names = 0
    · rw [f.write_none inherited locale none, none, if_pos rfl, Decoration.apply_nil]
    · rw [if_neg (by simpa using none), f.write_cut inherited locale (by omega) cut,
        f.writeFrom_cut _ locale cut (by omega) (Nat.zero_add _)]
      rfl
  · have limit := f.le_of_whole inherited whole
    rw [f.write_whole inherited locale whole, f.writeFrom_whole _ locale limit (Nat.zero_add _)]
    split
    · rename_i zero
      have none := Nat.le_zero.mp (limit 0 zero)
      rw [List.length_eq_zero_iff.mp none]
      rfl
    · rfl

/-! ## What is kept -/

theorem lastJoint_setTerm (o : NameOptions) {t : Term} (other : t.name ≠ "and") (count : Nat) :
    f.lastJoint o (locale.setTerm t) count = f.lastJoint o locale count := by
  unfold lastJoint jointText
  rw [locale.term?_setTerm t other]

/-- The number of names that are kept stays the same for every longer list. -/
theorem count_of_cut {names others : List Name} (cut : f.count inherited names < names.length)
    (longer : f.count inherited names < others.length)
    (reached : ∀ least, (inherited.merge f.options).etAlMin = some least → least ≤ others.length) :
    f.count inherited others = f.count inherited names := by
  have limit := f.limit_of_cut inherited cut
  obtain ⟨⟨least, -, min⟩, first⟩ := limit?_eq_some_iff.mp limit
  have limit' := limit?_eq_some_iff.mpr ⟨⟨least, reached least min, min⟩, first⟩
  rw [f.count_eq inherited others, limit', Option.getD_some]
  omega

/-- Only the names that are kept count. If some are left out, those that are kept are joined by
plain delimiters, and the words for all others follow, whatever these others are. If none is left
out, these words have no part in what is written. -/
theorem write_keptNames (names : List Name) :
    let o := inherited.merge f.options
    let kept := f.count inherited names
    let others := (locale.term? "et-al" .long false).getD "et al."
    f.write inherited locale names = f.decoration.apply locale (f.writePlaces o locale names) ∧
      (kept = 0 → f.write inherited locale names = []) ∧
      (0 < kept → kept < names.length →
        f.write inherited locale names =
            f.decoration.apply locale (
              Buffer.joinWith f.delimiter (f.written o locale (names.take kept)) ++
                if o.etAlRule.applies (kept > 1) (o.inverts (kept - 1)) then
                  Buffer.ofText .delimiter f.delimiter ++ Buffer.ofText .plain others
                else Buffer.ofText .plain (" " ++ others)) ∧
          ∀ names' : List Name, names'.take kept = names.take kept → kept < names'.length →
            (∀ least, o.etAlMin = some least → least ≤ names'.length) →
              f.count inherited names' = kept ∧
                f.write inherited locale names' = f.write inherited locale names) ∧
      (kept = names.length →
        f.write inherited locale names =
            f.decoration.apply locale (joinNames f.delimiter
              (f.lastJoint o locale names.length) (f.written o locale names)) ∧
          ∀ t : Term, t.name = "et-al" →
            f.write inherited (locale.setTerm t) names = f.write inherited locale names) := by
  intro o kept others
  refine ⟨f.write_eq_writePlaces inherited locale names, f.write_none inherited locale, ?_, ?_⟩
  · intro some cut
    have written := f.write_cut inherited locale some cut
    refine ⟨written, fun names' same longer reached => ?_⟩
    have count : f.count inherited names' = kept := f.count_of_cut inherited cut longer reached
    refine ⟨count, ?_⟩
    rw [f.write_cut inherited locale (by omega) (by omega), count, same, written]
  · intro whole
    refine ⟨f.write_whole inherited locale whole, fun t name => ?_⟩
    rw [f.write_whole inherited locale whole, f.write_whole inherited _ whole,
      Decoration.apply_setTerm locale (by simp [name]) (by simp [name]),
      lastJoint_setTerm f locale _ (by simp [name])]
    rfl

/-- Three names of which two are kept. -/
def threeNames : List Name := [.ofParts "Doe" "Jane", .ofParts "Roe" "Rick", .ofParts "Poe" "Edgar"]

/-- Of three names or more, two are written. -/
def keepTwo : NameFormat := { options := { etAlMin := some 3, etAlUseFirst := some 2 } }

theorem write_keptNames_two :
    (keepTwo.write {} .english threeNames).plainText = "Jane Doe, Rick Roe, et al." ∧
      keepTwo.write {} .english (threeNames ++ threeNames) =
        keepTwo.write {} .english threeNames := by
  obtain ⟨-, -, cut, -⟩ := write_keptNames keepTwo {} .english threeNames
  obtain ⟨written, same⟩ := cut (by decide) (by decide)
  exact ⟨by rw [written]; decide +kernel, (same _ rfl (by decide) (by decide)).2⟩

end Lists

end NameFormat

end CiteStyle
