-- Properties of output, in general. A property that the small operations on
-- output keep holds of every date and of every list of names that is written.
-- Each law about output is such a property.
import CiteStyle.Render.Date
import CiteStyle.Render.Names
import CiteStyle.Proofs.CaseChanges

namespace CiteStyle

/-! ## Properties of output -/

/-- A text that is there, and is no affix. -/
def Token.isProper : Token → Bool
  | .text kind s _ => s ≠ "" && kind ≠ .before && kind ≠ .behind
  | _ => false

theorem Token.isProper_iff {t : Token} : t.isProper ↔ ∃ kind s formatting,
    t = .text kind s formatting ∧ s ≠ "" ∧ kind ≠ .before ∧ kind ≠ .behind := by
  cases t with
  | text kind s formatting => simp [Token.isProper, and_assoc]
  | displayStart d | displayEnd d => simp [Token.isProper]

/-- What every part of a decoration keeps, the whole decoration keeps. -/
theorem Decoration.apply_keeps {P : Buffer → Prop} {locale : Locale} {d : Decoration}
    (stage : ∀ stage {b}, P b → P (d.applyStage locale b stage)) {b : Buffer} (h : P b) :
    P (d.apply locale b) := by
  unfold Decoration.apply
  induction Decoration.Stage.inOrder generalizing b with
  | nil => exact h
  | cons first rest ih => exact ih (stage first h)

/-- A decoration puts nothing around an empty output. -/
theorem Decoration.apply_nil (locale : Locale) (d : Decoration) : d.apply locale [] = [] := by
  refine d.apply_keeps (P := (· = [])) (fun stage b blank => ?_) rfl
  subst blank
  cases stage with
  | formatting => rfl
  | stripPeriods =>
    show (if d.stripPeriods then Buffer.stripPeriods [] else []) = []
    split <;> rfl
  | textCase =>
    show Decoration.applyTo (Buffer.changeCase locale) d.textCase [] = []
    unfold Decoration.applyTo
    split <;> rfl
  | quotes =>
    show (if d.quotes then Buffer.quoted locale [] else []) = []
    split <;> rfl
  | affixes => rfl
  | display =>
    show Decoration.applyTo Display.frame d.display [] = []
    unfold Decoration.applyTo
    split <;> rfl

/-- A property of output that the small operations of rendering keep. Output that holds nothing
but proper texts may be decorated in any way, all other only as is allowed. -/
structure OutputLaw (P : Buffer → Prop) (Allowed : Decoration → Prop) : Prop where
  nil : P []
  append : ∀ {a b}, P a → P b → P (a ++ b)
  token : ∀ {t : Token}, t.isProper → P [t]
  trimLast : ∀ {b : Buffer}, P b → P (b.trimLast .behind).2
  trimFirst : ∀ {b : Buffer}, P b → P (b.trimFirst .before).2
  affixes : ∀ (a : Affixes) {b}, P b → P (a.apply b)
  texts : ∀ (locale : Locale) (d : Decoration) {b : Buffer}, b.all (·.isProper) →
    P (d.apply locale b)
  decorated : ∀ (locale : Locale) {d : Decoration} {b : Buffer}, Allowed d → P b →
    P (d.apply locale b)

/-! ## Texts of their own -/

theorem all_isProper_ofText {kind : TokenKind} (before : kind ≠ .before) (behind : kind ≠ .behind)
    (s : String) : (Buffer.ofText kind s).all (·.isProper) := by
  unfold Buffer.ofText
  split
  · rfl
  · rename_i filled
    simp [Token.isProper, Token.ofText, filled, before, behind]

theorem all_isProper_plain (s : String) : (Buffer.ofText .plain s).all (·.isProper) :=
  all_isProper_ofText (by simp) (by simp) s

theorem all_isProper_number (form : NumberForm) (locale : Locale) (text : String) :
    (form.writeAll locale text).all (·.isProper) := by
  unfold NumberForm.writeAll
  split
  · rw [List.all_flatMap, List.all_eq_true]
    exact fun token _ => all_isProper_plain _
  · exact all_isProper_plain text

namespace OutputLaw

variable {P : Buffer → Prop} {Allowed : Decoration → Prop} (law : OutputLaw P Allowed)
include law

/-! ## Putting output together -/

theorem ofText {kind : TokenKind} (before : kind ≠ .before) (behind : kind ≠ .behind)
    (s : String) : P (Buffer.ofText kind s) := by
  unfold Buffer.ofText
  split
  · exact law.nil
  · rename_i filled
    exact law.token (by simp [Token.isProper, Token.ofText, filled, before, behind])

theorem plain (s : String) : P (Buffer.ofText .plain s) := law.ofText (by simp) (by simp) s

theorem delimiter (s : String) : P (Buffer.ofText .delimiter s) :=
  law.ofText (by simp) (by simp) s

theorem flatten {bs : List Buffer} (h : ∀ b ∈ bs, P b) : P bs.flatten := by
  induction bs with
  | nil => exact law.nil
  | cons b rest ih =>
    rw [List.flatten_cons]
    exact law.append (h b List.mem_cons_self) (ih fun c mem => h c (List.mem_cons_of_mem b mem))

/-- Proper texts one after the other. -/
theorem proper {b : Buffer} (h : b.all (·.isProper)) : P b := by
  have singles : P (b.map fun t => [t]).flatten := law.flatten <| by
    simpa using fun t mem => law.token (List.all_eq_true.mp h t mem)
  rwa [← List.flatMap_def, List.flatMap_singleton'] at singles

theorem joinWith (separator : String) {bs : List Buffer} (h : ∀ b ∈ bs, P b) :
    P (Buffer.joinWith separator bs) := by
  induction bs using Buffer.joinWith.induct with
  | case1 => exact law.nil
  | case2 b => exact h b List.mem_cons_self
  | case3 b rest ne ih =>
    rw [Buffer.joinWith]
    · have others := ih fun c mem => h c (List.mem_cons_of_mem b mem)
      exact law.append (law.append (h b List.mem_cons_self) (law.delimiter separator)) others
    · exact ne

theorem joinFilled (separator : String) {bs : List Buffer} (h : ∀ b ∈ bs, P b) :
    P (Buffer.joinFilled separator bs) :=
  law.joinWith separator fun b mem => h b (List.mem_filter.mp mem).1

/-! ## Dates -/

theorem datePart (p : DatePart) (locale : Locale) (season : Option String) (date : List Int) :
    P (p.write locale season date) :=
  law.texts locale p.decoration (all_isProper_plain _)

theorem close {r : OpenRange} (first : P r.first) (last : P r.last) : P r.close := by
  unfold OpenRange.close
  split
  · exact last
  · split
    · exact first
    · exact law.append (law.append (law.trimLast first) (law.plain _)) (law.trimFirst last)

theorem writeRangeFrom (locale : Locale) (season : Option String) (first last : List Int)
    (parts : List DatePart) :
    ∀ r : OpenRange, P r.first → P r.last → P (writeRangeFrom locale season first last r parts) := by
  induction parts with
  | nil => exact fun r hf hl => law.close hf hl
  | cons p rest ih =>
    intro r hf hl
    have atFirst := law.datePart p locale season first
    have atLast := law.datePart p locale season last
    unfold CiteStyle.writeRangeFrom
    split
    · exact law.append (law.append (law.close hf hl) atFirst) (ih {} law.nil law.nil)
    · exact ih _ (law.append hf atFirst) (law.append hl atLast)

theorem writeRange (locale : Locale) (season : Option String) (first last : List Int)
    (parts : List DatePart) : P (writeRange locale season first last parts) :=
  law.writeRangeFrom locale season first _ parts {} law.nil law.nil

/-! ## Names -/

omit law in
theorem ne_empty_of_nonEmpty? {found : Option String} {s : String}
    (h : Text.nonEmpty? found = some s) : s ≠ "" := by
  simpa using (Option.filter_eq_some_iff.mp h).2

/-- The text of a part of a name stays there when its case is changed. -/
theorem styled (locale : Locale) (d : Decoration) {s : String} (h : s ≠ "") :
    P [NameFormat.styled locale d s] := by
  refine law.token ?_
  unfold NameFormat.styled
  rcases d.textCase with _ | textCase
  · simp [Token.isProper, h]
  · simp [Token.isProper, textCase.apply_ne_empty (locale.language == "en") h]

theorem withParticle (locale : Locale) (d : Decoration) (particle : Option String) {b : Buffer}
    (hb : P b) : P (NameFormat.withParticle locale d particle b) := by
  unfold NameFormat.withParticle
  split
  · rename_i s found
    have text := law.styled locale d (ne_empty_of_nonEmpty? found)
    exact law.append (law.append text (law.delimiter " ")) hb
  · exact hb

theorem withEnding (ending : Option String) {b : Buffer} (hb : P b) :
    P (NameFormat.withEnding ending b) := by
  unfold NameFormat.withEnding
  split
  · exact law.append (law.append hb (law.delimiter " ")) (law.plain _)
  · exact hb

theorem familyPart (f : NameFormat) (locale : Locale) (n : Name) : P (f.familyPart locale n) := by
  unfold NameFormat.familyPart
  split
  · exact law.nil
  · rename_i s found
    have text := law.styled locale f.family (ne_empty_of_nonEmpty? found)
    have short := law.withParticle locale f.family n.nonDroppingParticle text
    refine law.affixes _ ?_
    split
    · exact short
    · exact law.withEnding _ (law.withParticle locale f.given _ short)

theorem givenPart (f : NameFormat) (o : NameOptions) (locale : Locale) (besideFamily : Bool)
    (n : Name) : P (f.givenPart o locale besideFamily n) := by
  have part (s : String) : P (if s = "" then [] else [NameFormat.styled locale f.given s]) := by
    split
    · exact law.nil
    · rename_i filled
      exact law.styled locale f.given filled
  exact law.affixes f.given.affixes (part _)

theorem writeName (f : NameFormat) (o : NameOptions) (locale : Locale) (inverted : Bool)
    (n : Name) : P (f.writeName o locale inverted n) := by
  have family := law.familyPart f locale n
  have given := law.givenPart f o locale (!(f.familyPart locale n).isEmpty) n
  unfold NameFormat.writeName
  split
  · exact law.plain _
  · dsimp only
    split
    · exact family
    · split
      · exact law.joinFilled _ (by simp [family, given])
      · exact law.joinFilled _ (by simp [family, given])

theorem lastJoint (f : NameFormat) (o : NameOptions) (locale : Locale) (count : Nat) :
    P (f.lastJoint o locale count) := by
  unfold NameFormat.lastJoint
  dsimp only
  split
  · refine law.append (law.delimiter _) ?_
    split
    · exact law.nil
    · exact law.delimiter _
  · exact law.delimiter _

theorem remainder (f : NameFormat) (o : NameOptions) (locale : Locale) (kept : Nat) :
    P (f.remainder o locale kept) := by
  unfold NameFormat.remainder
  dsimp only
  split
  · exact law.append (law.delimiter _) (law.plain _)
  · exact law.plain _

theorem joinNames (separator : String) {joint : Buffer} (hj : P joint) {bs : List Buffer}
    (h : ∀ b ∈ bs, P b) : P (NameFormat.joinNames separator joint bs) := by
  induction bs using NameFormat.joinNames.induct with
  | case1 => exact law.nil
  | case2 b => exact h b List.mem_cons_self
  | case3 a b =>
    exact law.append (law.append (h a (by simp)) hj) (h b (by simp))
  | case4 b rest one two ih =>
    rw [NameFormat.joinNames]
    · have others := ih fun c mem => h c (List.mem_cons_of_mem b mem)
      exact law.append (law.append (h b List.mem_cons_self) (law.delimiter separator)) others
    · exact one
    · exact two

theorem writeNames (f : NameFormat) (allowed : Allowed f.decoration) (inherited : NameOptions)
    (locale : Locale) (names : List Name) : P (f.write inherited locale names) := by
  unfold NameFormat.write
  extract_lets o kept written
  have each : ∀ b ∈ written, P b := by
    intro b mem
    obtain ⟨⟨n, place⟩, -, rfl⟩ := List.mem_map.mp mem
    exact law.writeName f o locale _ n
  refine law.decorated locale allowed ?_
  split
  · exact law.nil
  · split
    · refine law.append (law.joinWith _ fun b mem => each b (List.mem_of_mem_take mem)) ?_
      exact law.remainder f _ locale _
    · exact law.joinNames _ (law.lastJoint f _ locale _) each

end OutputLaw

end CiteStyle
