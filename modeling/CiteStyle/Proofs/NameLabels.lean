-- Labels of lists of names. A label goes by the value of its variable and not by what
-- is written of it, so it also stands where the names write nothing. Then it is all
-- that its variable gives, and neither affixes nor a substitute take the element for
-- an empty one.
import CiteStyle.Proofs.LosingCandidates
import CiteStyle.Proofs.NameDelimiters

namespace CiteStyle

open Rendering

/-! ## Steps that go by what is suppressed -/

namespace Rendering

/-- A step gives what the suppressed variables decide, and suppresses none itself. -/
def GoesBy (x : Rendering α) (value : List String → α) : Prop :=
  ∀ p, (x p).1 = value p.suppressed ∧ (x p).2.2.suppressed = p.suppressed

namespace GoesBy

theorem pure (a : α) : GoesBy (pure a) fun _ => a := fun _ => ⟨rfl, rfl⟩

theorem bind {x : Rendering α} {f : α → Rendering β} {value : List String → α}
    {value' : α → List String → β} (hx : GoesBy x value) (hf : ∀ a, GoesBy (f a) (value' a)) :
    GoesBy (x >>= f) fun names => value' (value names) names := by
  intro p
  obtain ⟨given, kept⟩ := hx p
  obtain ⟨given', kept'⟩ := hf (x p).1 (x p).2.2
  rw [bind_apply, given', kept', given, kept]
  exact ⟨rfl, rfl⟩

theorem map {x : Rendering α} {value : List String → α} (f : α → β) (hx : GoesBy x value) :
    GoesBy (f <$> x) fun names => f (value names) := by
  intro p
  obtain ⟨given, kept⟩ := hx p
  rw [map_apply, given]
  exact ⟨rfl, kept⟩

theorem fetchValue (s : Setting) (name : String) :
    GoesBy (fetchValue s name) fun suppressed => s.value? suppressed name := fun _ => ⟨rfl, rfl⟩

end GoesBy

end Rendering

/-! ## Labels -/

namespace Buffer

theorem mapText_ofText (f : String → String) (kind : TokenKind) {s : String} (some : s ≠ "") :
    (ofText kind s).mapText f = ofText kind (f s) := by
  unfold mapText ofText
  rw [if_neg some]
  by_cases empty : f s = ""
  · simp [Token.ofText, Token.mapText, Token.isEmptyText, empty]
  · simp [Token.ofText, Token.mapText, Token.isEmptyText, empty]

theorem mapText_wrap (f : String → String) (outer : Formatting) (b : Buffer) :
    (b.wrap outer).mapText f = (b.mapText f).wrap outer := by
  induction b with
  | nil => rfl
  | cons t b ih =>
    unfold mapText wrap at *
    have each : (t.wrap outer).mapText f = (t.mapText f).wrap outer := by cases t <;> rfl
    have kept : ((t.mapText f).wrap outer).isEmptyText = (t.mapText f).isEmptyText := by
      cases t <;> rfl
    simp only [List.map_cons, List.filter_cons, each, kept, ih]
    split <;> rfl

/-- Several buffers are joined to nothing if there is nothing in any of them. -/
theorem joinFilled_eq_nil (delimiter : String) (bs : List Buffer) :
    joinFilled delimiter bs = [] ↔ ∀ b ∈ bs, b = [] := by
  unfold joinFilled
  cases filled : bs.filter (!·.isEmpty) with
  | nil => exact iff_of_true rfl (by simpa using filled)
  | cons b rest =>
    have first : b ∈ bs.filter (!·.isEmpty) := filled ▸ List.mem_cons_self
    obtain ⟨mem, some⟩ := List.mem_filter.mp first
    have some : b ≠ [] := by simpa using some
    refine iff_of_false ?_ fun none => some (none b mem)
    cases rest with
    | nil => exact some
    | cons c rest => simp [joinWith, some]

end Buffer

/-- A decoration leaves nothing only of what is nothing without the periods that it strips. -/
theorem Decoration.apply_eq_nil_iff (locale : Locale) (d : Decoration) {b : Buffer}
    (filled : b.NoEmptyText) :
    d.apply locale b = [] ↔ (if d.stripPeriods then b.stripPeriods else b) = [] := by
  by_cases strips : d.stripPeriods
  · have first : d.apply locale b =
        ({ d with stripPeriods := false } : Decoration).apply locale b.stripPeriods := by
      simp only [apply, Stage.inOrder, List.foldl_cons, List.foldl_nil, applyStage, strips, if_true,
        Bool.false_eq_true, if_false, Buffer.stripPeriods, Buffer.mapText_wrap]
    rw [first, if_pos strips]
    constructor
    · exact eq_nil_of_apply rfl (Buffer.noEmptyText_mapText _ b)
    · intro none
      rw [none, apply_nil]
  · rw [if_neg strips]
    constructor
    · exact eq_nil_of_apply (by simpa using strips) filled
    · rintro rfl
      exact apply_nil locale d

namespace LabelElement

variable (l : LabelElement) (s : Setting) (name : String) (place : Nat)

/-- The text of a label: the term for the value of its variable, if there is one. -/
def text (suppressed : List String) : String :=
  ((s.value? suppressed name).bind (l.termText? s name place)).getD ""

/-- What a label shows. -/
def shown (suppressed : List String) : Buffer :=
  l.decoration.apply s.locale (Buffer.ofText .plain (l.text s name place suppressed))

theorem goesBy_renderFor : GoesBy (l.renderFor s name place) (l.shown s name place) := by
  have remember : GoesBy (l.remember name place) fun _ => () := by
    unfold LabelElement.remember
    split
    · exact fun _ => ⟨rfl, rfl⟩
    · exact .pure ()
  exact remember.bind fun _ => (GoesBy.fetchValue s name).bind fun _ => .pure _

/-- A label shows nothing if its text has no characters but periods that are stripped. -/
theorem shown_eq_nil_iff (suppressed : List String) :
    l.shown s name place suppressed = [] ↔
      ∀ c ∈ (l.text s name place suppressed).toList, c = '.' ∧ l.decoration.stripPeriods := by
  unfold shown
  rw [Decoration.apply_eq_nil_iff _ _ (Buffer.noEmptyText_ofText _ _)]
  generalize l.text s name place suppressed = text
  by_cases strips : l.decoration.stripPeriods
  · rw [if_pos strips]
    by_cases empty : text = ""
    · simp [empty, Buffer.ofText, Buffer.stripPeriods, Buffer.mapText]
    · rw [Buffer.stripPeriods, Buffer.mapText_ofText _ _ empty, Buffer.ofText_eq_nil_iff]
      simp [strips, ← String.toList_eq_nil_iff]
  · rw [if_neg strips, Buffer.ofText_eq_nil_iff, ← String.toList_eq_nil_iff,
      List.eq_nil_iff_forall_not_mem]
    simp [strips]

end LabelElement

/-! ## Lists of names -/

namespace NamesFormat

variable (f : NamesFormat) (s : Setting)

/-- What the label of a list of names shows. -/
def shownLabel (name : String) (suppressed : List String) : Buffer :=
  f.label.elim [] fun l => l.shown s name 0 suppressed

/-- What is written of some names. -/
def shownNames (names : List Name) : Buffer := f.name.write s.nameOptions s.locale names

/-- The names of a variable with their label. A variable without names has none. -/
def shownList (name : String) (suppressed : List String) : Buffer :=
  (s.names? suppressed name).elim [] fun names =>
    if f.labelFirst then f.shownLabel s name suppressed ++ f.shownNames s names
    else f.shownNames s names ++ f.shownLabel s name suppressed

theorem goesBy_renderLabel (first : Bool) (name : String) :
    GoesBy (f.renderLabel s first name) fun suppressed =>
      if f.labelFirst = first then f.shownLabel s name suppressed else [] := by
  unfold renderLabel shownLabel
  cases f.label with
  | none =>
    simp only [Option.elim_none, ite_self]
    exact .pure []
  | some l =>
    by_cases side : f.labelFirst = first
    · simp only [if_pos side, Option.elim_some]
      exact l.goesBy_renderFor s name 0
    · simp only [if_neg side]
      exact .pure []

theorem goesBy_renderList (name : String) : GoesBy (f.renderList s name) (f.shownList s name) := by
  intro p
  unfold renderList shownList
  rw [bind_apply, fetchNames_apply]
  dsimp only
  cases s.names? p.suppressed name with
  | none => exact ⟨rfl, rfl⟩
  | some names =>
    have both := (f.goesBy_renderLabel s true name).bind fun before =>
      (f.goesBy_renderLabel s false name).bind fun after =>
        GoesBy.pure (before ++ f.shownNames s names ++ after)
    obtain ⟨given, kept⟩ := both p
    refine ⟨given.trans ?_, kept⟩
    cases f.labelFirst <;> simp

theorem goesBy_renderLists (names : List String) :
    GoesBy (f.renderLists s names) fun suppressed => names.map (f.shownList s · suppressed) := by
  induction names with
  | nil => exact .pure []
  | cons name names ih =>
    unfold renderLists
    exact (f.goesBy_renderList s name).bind fun _ => ih.map _

theorem goesBy_renderContent (notCounted : f.name.form ≠ .count) (names : List String) :
    GoesBy (f.renderContent s names) fun suppressed =>
      Buffer.joinFilled f.delimiter (names.map (f.shownList s · suppressed)) := by
  unfold renderContent
  split
  · contradiction
  · exact (f.goesBy_renderLists s names).map _

theorem shownList_unwritten {name : String} {names : List Name} {suppressed : List String}
    (found : s.names? suppressed name = some names) (unwritten : f.shownNames s names = []) :
    f.shownList s name suppressed = f.shownLabel s name suppressed := by
  unfold shownList
  rw [found, Option.elim_some, unwritten, List.append_nil, List.nil_append, ite_self]

theorem shownLabel_eq_nil_iff (name : String) (suppressed : List String) :
    f.shownLabel s name suppressed = [] ↔ ∀ l, f.label = some l →
      ∀ c ∈ (l.text s name 0 suppressed).toList, c = '.' ∧ l.decoration.stripPeriods := by
  unfold shownLabel
  cases f.label with
  | none => simp
  | some l => simp [l.shown_eq_nil_iff s name 0 suppressed]

theorem shownList_eq_nil_iff (name : String) (suppressed : List String) :
    f.shownList s name suppressed = [] ↔ ∀ names, s.names? suppressed name = some names →
      f.shownNames s names = [] ∧ f.shownLabel s name suppressed = [] := by
  unfold shownList
  cases s.names? suppressed name with
  | none => simp
  | some names => cases f.labelFirst <;> simp [and_comm]

/-- Names that are not just counted give the lists of their variables, each with its label. Where
the names of a variable write nothing, its label alone is left. So the element is empty, for its
affixes and for its substitute, exactly if no names are written and no label has more to it than
periods that it strips. -/
theorem render_labelAlone (notCounted : f.name.form ≠ .count)
    (kept : f.decoration.stripPeriods = false) (subjects : List String) (p : Pass) :
    (f.renderContent s subjects p).1 =
        Buffer.joinFilled f.delimiter (subjects.map (f.shownList s · p.suppressed)) ∧
      (∀ name names, s.names? p.suppressed name = some names → f.shownNames s names = [] →
        f.shownList s name p.suppressed = f.shownLabel s name p.suppressed) ∧
      ((f.render s subjects p).1 = [] ↔
        ∀ name ∈ subjects, ∀ names, s.names? p.suppressed name = some names →
          f.shownNames s names = [] ∧ ∀ l, f.label = some l →
            ∀ c ∈ (l.text s name 0 p.suppressed).toList,
              c = '.' ∧ l.decoration.stripPeriods) := by
  have content := (f.goesBy_renderContent s notCounted subjects p).1
  refine ⟨content, fun name names found unwritten => f.shownList_unwritten s found unwritten, ?_⟩
  have filled := (Handed.nameLists s f subjects p).noEmptyText
  unfold render
  rw [map_apply, Decoration.apply_eq_nil_iff _ _ filled, if_neg (by simp [kept]), content,
    Buffer.joinFilled_eq_nil, List.forall_mem_map]
  simp only [shownList_eq_nil_iff, shownLabel_eq_nil_iff]

/-- The editors with their label in parentheses, but none of them is written. -/
def hiddenEditors : NamesFormat where
  name := { options := { etAlMin := some 1, etAlUseFirst := some 0 } }
  label := some {
    subject := none, form := .long, plural := .contextual,
    decoration := { affixes := { before := " (", behind := ")" } } }
  labelFirst := false
  delimiter := ""
  decoration := { affixes := { before := "[", behind := "]" } }

def soleEditor : Name := { family := some "Doe", given := some "Jane" }

/-- A work with an editor. -/
def editedWork : Setting where
  record := { names := [("editor", [soleEditor])] }
  locale := .english

theorem render_labelAlone_editors :
    hiddenEditors.name.form ≠ .count ∧ hiddenEditors.decoration.stripPeriods = false ∧
      editedWork.names? [] "editor" = some [soleEditor] ∧
      hiddenEditors.shownNames editedWork [soleEditor] = [] ∧
      hiddenEditors.shownList editedWork "editor" [] =
        hiddenEditors.shownLabel editedWork "editor" [] := by
  have notCounted : hiddenEditors.name.form ≠ .count := by decide
  have found : editedWork.names? [] "editor" = some [soleEditor] := by decide +kernel
  have unwritten : hiddenEditors.shownNames editedWork [soleEditor] = [] := by decide +kernel
  have alone := (render_labelAlone hiddenEditors editedWork notCounted rfl ["editor"] {}).2.1
  exact ⟨notCounted, rfl, found, unwritten, alone "editor" _ found unwritten⟩

/-- A label may stand without names. -/
theorem renderList_shows_labelAlone :
    ¬∀ (f : NamesFormat) (s : Setting) (name : String) (names : List Name) (p : Pass),
      f.name.form ≠ .count → s.names? p.suppressed name = some names →
        f.name.write s.nameOptions s.locale names = [] → (f.renderList s name p).1 = [] := by
  intro empty
  have none := empty hiddenEditors editedWork "editor" [soleEditor] {} (by decide)
    (by decide +kernel) (by decide +kernel)
  have label : (hiddenEditors.renderList editedWork "editor" {}).1.plainText = " (editor)" := by
    decide +kernel
  rw [none] at label
  contradiction

end NamesFormat

end CiteStyle
