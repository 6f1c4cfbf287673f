-- Display groups are nested. Whatever is done to output leaves its marks alone, but
-- for the one stage that puts a start in front of it and the end of the same group
-- behind it. So in all that is rendered every end closes the group that was opened
-- last, and no group stays open.
import CiteStyle.Proofs.ShownOutput

namespace CiteStyle

/-! ## Open groups -/

/-- The display groups that are open after a token, the innermost first. An end that does not
close the innermost group leads nowhere. -/
def Token.openAfter (groups : List Display) : Token → Option (List Display)
  | .text .. => some groups
  | .displayStart d => some (d :: groups)
  | .displayEnd d => if groups.head? = some d then some groups.tail else none

namespace Buffer

/-- The display groups that are open once an output is read from left to right. -/
def openAfter (groups : List Display) (b : Buffer) : Option (List Display) :=
  b.foldlM Token.openAfter groups

/-- Every end closes the innermost of the open groups, which is of its kind, and none stays
open. -/
def Balanced (b : Buffer) : Prop := b.openAfter [] = some []

instance (b : Buffer) : Decidable b.Balanced := inferInstanceAs (Decidable (_ = _))

theorem openAfter_append (groups : List Display) (a b : Buffer) :
    (a ++ b).openAfter groups = a.openAfter groups >>= fun g => b.openAfter g :=
  List.foldlM_append

theorem openAfter_cons (groups : List Display) (t : Token) (b : Buffer) :
    openAfter groups (t :: b) = t.openAfter groups >>= fun g => b.openAfter g :=
  List.foldlM_cons

/-- A token that can be read goes by no group that it does not close itself. -/
theorem openAfter_token_outer {t : Token} {groups left : List Display}
    (h : t.openAfter groups = some left) (outer : List Display) :
    t.openAfter (groups ++ outer) = some (left ++ outer) := by
  cases t with
  | text kind s formatting =>
    cases h
    rfl
  | displayStart d =>
    cases h
    rfl
  | displayEnd d =>
    cases groups with
    | nil => simp [Token.openAfter] at h
    | cons innermost groups =>
      simp only [Token.openAfter, List.head?_cons, List.tail_cons, Option.ite_none_right_eq_some,
        Option.some.injEq] at h
      simp [Token.openAfter, h.1, h.2]

theorem openAfter_outer {b : Buffer} {groups left : List Display}
    (h : b.openAfter groups = some left) (outer : List Display) :
    b.openAfter (groups ++ outer) = some (left ++ outer) := by
  induction b generalizing groups with
  | nil =>
    cases h
    rfl
  | cons t rest ih =>
    rw [openAfter_cons] at h
    obtain ⟨next, first, others⟩ := Option.bind_eq_some_iff.mp h
    rw [openAfter_cons, openAfter_token_outer first outer]
    exact ih others

/-- Balanced output may stand within any groups. -/
theorem Balanced.within {b : Buffer} (h : b.Balanced) (groups : List Display) :
    b.openAfter groups = some groups := openAfter_outer h groups

theorem Balanced.append {a b : Buffer} (ha : a.Balanced) (hb : b.Balanced) :
    (a ++ b).Balanced := by
  unfold Balanced
  rw [openAfter_append, ha.within]
  exact hb

/-- A start and an end of one kind around balanced output. -/
theorem Balanced.frame {b : Buffer} (h : b.Balanced) (d : Display) : (d.frame b).Balanced := by
  unfold Display.frame
  split
  · exact h
  · unfold Balanced
    rw [List.cons_append, openAfter_cons]
    show openAfter [d] (b ++ [.displayEnd d]) = some []
    rw [openAfter_append, h.within]
    simp [Buffer.openAfter, Token.openAfter]

/-! ## Marks -/

/-- The marks of an output. -/
def marks (b : Buffer) : Buffer := b.filter Token.isMark

theorem openAfter_marks (b : Buffer) (groups : List Display) :
    b.marks.openAfter groups = b.openAfter groups := by
  induction b generalizing groups with
  | nil => rfl
  | cons t rest ih =>
    cases t with
    | text kind s formatting => exact ih groups
    | displayStart d | displayEnd d =>
      have kept {mark : Token} (isMark : mark.isMark) :
          marks (mark :: rest) = mark :: marks rest := List.filter_cons_of_pos isMark
      rw [kept rfl, openAfter_cons, openAfter_cons]
      simp only [ih]

/-- Output is as balanced as its marks are. -/
theorem Balanced.of_marks {a b : Buffer} (h : a.Balanced) (same : b.marks = a.marks) :
    b.Balanced := by
  unfold Balanced at h ⊢
  rwa [← openAfter_marks, same, openAfter_marks]

theorem marks_append (a b : Buffer) : (a ++ b).marks = a.marks ++ b.marks := List.filter_append ..

theorem marks_ofText (kind : TokenKind) (s : String) : (ofText kind s).marks = [] := by
  unfold ofText
  split <;> rfl

theorem marks_of_isProper {b : Buffer} (h : b.all (·.isProper)) : b.marks = [] := by
  refine List.filter_eq_nil_iff.mpr fun t mem => ?_
  obtain ⟨kind, s, formatting, rfl, -⟩ := Token.isProper_iff.mp (List.all_eq_true.mp h t mem)
  simp [Token.isMark]

theorem marks_wrap (outer : Formatting) (b : Buffer) : (b.wrap outer).marks = b.marks := by
  induction b with
  | nil => rfl
  | cons t rest ih =>
    cases t with
    | text kind s formatting => exact ih
    | displayStart d | displayEnd d => exact congrArg (List.cons _) ih

/-- No mark is dropped with the texts that become empty. -/
theorem marks_mapText (f : String → String) (b : Buffer) : (b.mapText f).marks = b.marks := by
  unfold mapText marks
  rw [List.filter_filter]
  induction b with
  | nil => rfl
  | cons t rest ih =>
    cases t with
    | text kind s formatting => exact ih
    | displayStart d | displayEnd d => exact congrArg (List.cons _) ih

theorem marks_between (b : Buffer) (first last : TokenKind) (s t : String) :
    ((b.prependText first s).appendText last t).marks = b.marks := by
  unfold appendText prependText
  rw [marks_append, marks_append, marks_ofText, marks_ofText, List.nil_append, List.append_nil]

/-- What is trimmed off is no mark. -/
theorem isMark_of_isOfKind {kind : TokenKind} {t : Token} (h : t.isOfKind kind) :
    t.isMark = false := by
  cases t with
  | text k s formatting => rfl
  | displayStart d | displayEnd d => cases h

theorem marks_trimLast (kind : TokenKind) (b : Buffer) : (b.trimLast kind).2.marks = b.marks := by
  unfold trimLast
  split
  · rename_i last found
    split
    · rename_i affix
      obtain ⟨before, rfl⟩ := List.getLast?_eq_some_iff.mp found
      rw [List.dropLast_concat, marks_append]
      simp [marks, isMark_of_isOfKind affix]
    · rfl
  · rfl

theorem marks_trimFirst (kind : TokenKind) (b : Buffer) :
    (b.trimFirst kind).2.marks = b.marks := by
  unfold trimFirst
  split
  · rename_i first rest
    split
    · rename_i affix
      simp [marks, isMark_of_isOfKind affix]
    · rfl
  · rfl

/-! ## Decorations -/

theorem Balanced.affixes {b : Buffer} (h : b.Balanced) (a : Affixes) : (a.apply b).Balanced := by
  unfold Affixes.apply
  split
  · exact h
  · exact h.of_marks (marks_between b _ _ _ _)

theorem Balanced.applyStage {b : Buffer} (h : b.Balanced) (locale : Locale) (d : Decoration)
    (stage : Decoration.Stage) : (d.applyStage locale b stage).Balanced := by
  cases stage with
  | formatting => exact h.of_marks (marks_wrap _ b)
  | stripPeriods =>
    show (if d.stripPeriods then b.stripPeriods else b).Balanced
    split
    · exact h.of_marks (marks_mapText _ b)
    · exact h
  | textCase =>
    show (Decoration.applyTo (Buffer.changeCase locale) d.textCase b).Balanced
    unfold Decoration.applyTo
    split
    · exact h.of_marks (marks_mapText _ b)
    · exact h
  | quotes =>
    show (if d.quotes then b.quoted locale else b).Balanced
    unfold quoted
    split
    · split
      · exact h
      · exact h.of_marks (marks_between b _ _ _ _)
    · exact h
  | affixes => exact h.affixes d.affixes
  | display =>
    show (Decoration.applyTo Display.frame d.display b).Balanced
    unfold Decoration.applyTo
    split
    · exact h.frame _
    · exact h

theorem Balanced.apply {b : Buffer} (h : b.Balanced) (locale : Locale) (d : Decoration) :
    (d.apply locale b).Balanced :=
  Decoration.apply_keeps (fun stage _ h => h.applyStage locale d stage) h

theorem balanced_nil : Balanced [] := rfl

theorem balanced_of_isProper {b : Buffer} (h : b.all (·.isProper)) : b.Balanced :=
  balanced_nil.of_marks (marks_of_isProper h)

/-- That groups are balanced is a law of output, whatever the decorations. -/
theorem balanced_law : OutputLaw Balanced fun _ => True where
  nil := balanced_nil
  append := Balanced.append
  token proper := balanced_of_isProper (by simpa using proper)
  trimLast {b} h := h.of_marks (marks_trimLast .behind b)
  trimFirst {b} h := h.of_marks (marks_trimFirst .before b)
  affixes a _ h := h.affixes a
  texts locale d _ h := (balanced_of_isProper h).apply locale d
  decorated locale _ _ _ h := h.apply locale _

end Buffer

/-! ## Whole outputs -/

theorem Handed.balanced {b : Buffer} (h : Handed b) : b.Balanced :=
  h.holds Buffer.balanced_law
    (fun kind s => Buffer.balanced_nil.of_marks (Buffer.marks_ofText kind s))
    fun locale d stage _ hb => hb.applyStage locale d stage

/-- In the outputs of a style, and in all that is handed on meanwhile, every end of a display group
closes the one that was opened last, and no group stays open. The same is true of all that a
session puts together on its own or adds in place. -/
theorem Style.render_balanced (style : Style) (locale : Locale) (readers : DateReaders) :
    (∀ record cite, (style.renderCite locale record cite readers).1.Balanced) ∧
    (∀ record, (style.renderEntry locale record readers).1.Balanced) ∧
    (∀ cites, (style.renderCitation locale cites readers).1.Balanced) ∧
    (∀ b, Handed b → b.Balanced) ∧
    (∀ depth (session : Session) b, session.HandsOn depth b → b.Balanced) ∧
    ∀ depth elements (session : Session),
      session.Adds Buffer.Balanced (Session.renderEach depth elements session).2 := by
  refine ⟨fun record cite => ?_, fun record => ?_, fun cites => ?_, fun b => Handed.balanced,
    fun depth session b own => own.handed.balanced, fun depth elements session => ?_⟩
  · exact (style.handed_renderIn style.citation locale record cite readers).balanced
  · exact (style.handed_renderEntry locale record readers).balanced
  · exact (style.handed_renderCitation locale cites readers).balanced
  · exact (session.adds_renderEach depth elements).imp Handed.balanced

/-- Groups that overlap are not nested, though each of them is closed. -/
example : ¬Buffer.Balanced [.displayStart .block, .displayStart .indent, .displayEnd .block,
    .displayEnd .indent] := by
  decide

end CiteStyle
