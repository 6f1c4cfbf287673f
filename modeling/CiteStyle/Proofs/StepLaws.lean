-- Laws of the steps of a pass, in general. A law that holds of the small steps
-- of rendering, and of all that is put together from steps for which it holds,
-- holds of every element, however deep macros call each other.
import CiteStyle.Render.Element
import CiteStyle.Style.Macros

namespace CiteStyle

open Rendering

/-! ## Laws of three strengths -/

/-- A law of what stands at the leaves of an element: of variables that are looked up, of dates,
and of tests. It need not hold of a label that is remembered. -/
structure LeafLaw (s : Setting) (K : ∀ {α : Type}, Rendering α → Prop) : Prop where
  pure : ∀ {α : Type} (a : α), K (pure a : Rendering α)
  bind : ∀ {α β : Type} {x : Rendering α} {f : α → Rendering β},
    K x → (∀ a, K (f a)) → K (x >>= f)
  lastLabel : ∀ {α : Type} {f : Option LabelElement → Rendering α}, (∀ l, K (f l)) →
    K (remembered >>= fun p => f p.lastLabel)
  fetchText : ∀ short name, K (fetchText s short name)
  fetchNames : ∀ name, K (fetchNames s name)
  fetchValue : ∀ name, K (fetchValue s name)
  renderDate : ∀ e : DateElement, K (e.render s)
  takes : ∀ condition, K (Element.takes s condition)

/-- A law of all that an element is put together from, apart from calls of macros. -/
structure ElementLaw (s : Setting) (K : ∀ {α : Type}, Rendering α → Prop) : Prop
    extends LeafLaw s K where
  listening : ∀ {α : Type} {x : Rendering α}, K x → K (listening x)
  label : ∀ l, K (change fun p => { p with lastLabel := some l })
  suppress : ∀ names, K (change (Pass.suppress names))

/-- A law of the steps that go by a setting. Of the pass a step sees no more than what is
suppressed, the last label, and what a text is read as. -/
structure StepLaw (s : Setting) (K : ∀ {α : Type}, Rendering α → Prop) : Prop where
  pure : ∀ {α : Type} (a : α), K (pure a : Rendering α)
  bind : ∀ {α β : Type} {x : Rendering α} {f : α → Rendering β},
    K x → (∀ a, K (f a)) → K (x >>= f)
  listening : ∀ {α : Type} {x : Rendering α}, K x → K (listening x)
  report : ∀ name found, K (report name found)
  suppressed : ∀ {α : Type} {f : List String → Rendering α}, (∀ names, K (f names)) →
    K (remembered >>= fun p => f p.suppressed)
  lastLabel : ∀ {α : Type} {f : Option LabelElement → Rendering α}, (∀ l, K (f l)) →
    K (remembered >>= fun p => f p.lastLabel)
  label : ∀ l, K (change fun p => { p with lastLabel := some l })
  suppress : ∀ names, K (change (Pass.suppress names))
  readDate : ∀ text, K (readDate s text)

/-! ## Looking variables up -/

namespace Rendering

variable (s : Setting) (name : String) (p : Pass)

theorem fetchText_apply (short : Bool) :
    fetchText s short name p =
      let text := s.text? p.suppressed short name
      (text, if name = "year-suffix" then [] else [⟨name, text.isSome⟩], p) := by
  unfold fetchText
  rw [bind_apply]
  split <;> rfl

theorem fetchNames_apply :
    fetchNames s name p =
      (s.names? p.suppressed name, [⟨name, (s.names? p.suppressed name).isSome⟩], p) := rfl

theorem fetchValue_apply :
    fetchValue s name p =
      (s.value? p.suppressed name, [⟨name, (s.value? p.suppressed name).isSome⟩], p) := rfl

end Rendering

namespace StepLaw

variable {s : Setting} {K : ∀ {α : Type}, Rendering α → Prop} (law : StepLaw s K)
include law

theorem peekText (short : Bool) (name : String) : K (peekText s short name) :=
  law.suppressed (f := fun names => return s.text? names short name) fun _ => law.pure _

theorem fetchText (short : Bool) (name : String) : K (fetchText s short name) := by
  unfold Rendering.fetchText
  refine law.bind (law.peekText short name) fun text => ?_
  split
  · exact law.pure text
  · exact law.bind (law.report _ _) fun _ => law.pure text

theorem peekDate (name : String) : K (peekDate s name) :=
  law.suppressed (f := fun names => return s.date? names name) fun _ => law.pure _

theorem fetchNames (name : String) : K (fetchNames s name) := by
  unfold Rendering.fetchNames
  exact law.suppressed (f := fun names => do
    Rendering.report name (s.names? names name).isSome
    return s.names? names name) fun _ => law.bind (law.report _ _) fun _ => law.pure _

theorem peekValue (name : String) : K (peekValue s name) :=
  law.suppressed (f := fun names => return s.value? names name) fun _ => law.pure _

theorem fetchValue (name : String) : K (fetchValue s name) := by
  unfold Rendering.fetchValue
  exact law.bind (law.peekValue name) fun value => law.bind (law.report _ _) fun _ => law.pure value

theorem renderValue (e : DateElement) (season : Option String) (value : DateValue) :
    K (e.renderValue s season value) := by
  unfold DateElement.renderValue
  split
  · exact law.pure _
  · exact law.pure _
  · exact law.pure _
  · refine law.bind (law.readDate _) fun date => ?_
    cases date <;> exact law.pure _

theorem renderDate (e : DateElement) : K (e.render s) := by
  unfold DateElement.render DateElement.renderContent
  refine law.bind ?_ fun _ => law.bind (law.report _ _) fun _ => law.pure _
  refine law.bind (law.peekDate _) fun date => ?_
  split
  · exact law.pure []
  · split
    · exact law.renderValue e _ _
    · exact law.pure []

theorem takes (condition : Option Condition) : K (Element.takes s condition) :=
  law.suppressed (f := fun names => return condition.all fun (c : Condition) => c.holds s names)
    fun _ => law.pure _

theorem elementLaw : ElementLaw s K where
  pure := law.pure
  bind := law.bind
  lastLabel := law.lastLabel
  fetchText := law.fetchText
  fetchNames := law.fetchNames
  fetchValue := law.fetchValue
  renderDate := law.renderDate
  takes := law.takes
  listening := law.listening
  label := law.label
  suppress := law.suppress

end StepLaw

/-! ## Labels, texts and numbers -/

/-- The label in front of a part of a locator, which repeats the last label. -/
def TextElement.repeatedLabel (s : Setting) (place : Nat) (part : Locator.Part)
    (last : Option LabelElement) : Rendering Buffer :=
  last.elim (return []) fun l =>
    if 0 < place && part.label.isSome then l.render s place else return []

theorem TextElement.renderPartLabel_eq (s : Setting) (place : Nat) (part : Locator.Part) :
    renderPartLabel s place part =
      (remembered >>= fun p => repeatedLabel s place part p.lastLabel) := by
  unfold renderPartLabel
  refine congrArg (remembered >>= ·) (funext fun p => ?_)
  cases p.lastLabel <;> rfl

namespace LeafLaw

variable {s : Setting} {K : ∀ {α : Type}, Rendering α → Prop} (law : LeafLaw s K)
include law

theorem map {x : Rendering α} (f : α → β) (hx : K x) : K (f <$> x) := by
  rw [map_eq_pure_bind]
  exact law.bind hx fun a => law.pure (f a)

/-- A label keeps to a law if it does so when it is remembered. -/
theorem renderFor {l : LabelElement} {name : String} {place : Nat}
    (remember : K (l.remember name place)) : K (l.renderFor s name place) := by
  unfold LabelElement.renderFor
  exact law.bind remember fun _ => law.bind (law.fetchValue name) fun _ => law.pure _

theorem renderLabel {l : LabelElement} {place : Nat}
    (remember : ∀ name, l.subject = some name → K (l.remember name place)) :
    K (l.render s place) := by
  unfold LabelElement.render
  split
  · exact law.renderFor (remember _ ‹_›)
  · exact law.pure []

/-- Only the label of a first part is remembered. -/
theorem renderPartLabel (place : Nat) (part : Locator.Part) :
    K (TextElement.renderPartLabel s place part) := by
  rw [TextElement.renderPartLabel_eq]
  refine law.lastLabel fun last => ?_
  cases last with
  | none => exact law.pure []
  | some l =>
    dsimp only [TextElement.repeatedLabel, Option.elim_some]
    split
    · rename_i repeated
      have later : 0 < place := by simpa using (Bool.and_eq_true_iff.mp repeated).1
      refine law.renderLabel fun name _ => ?_
      unfold LabelElement.remember
      rw [if_neg (by simp [Nat.ne_of_gt later])]
      exact law.pure ()
    · exact law.pure []

theorem renderParts (parts : List Locator.Part) :
    ∀ place, K (TextElement.renderParts s place parts) := by
  induction parts with
  | nil => exact fun _ => law.pure []
  | cons part rest ih =>
    intro place
    unfold TextElement.renderParts
    exact law.bind (law.renderPartLabel place part) fun _ =>
      law.bind (ih (place + 1)) fun _ => law.pure _

theorem renderVariable (name text : String) : K (TextElement.renderVariable s name text) := by
  unfold TextElement.renderVariable
  split
  · exact law.pure _
  · exact law.renderParts _ 0
  · exact law.renderParts _ 0
  · exact law.pure _
  · exact law.pure _
  · exact law.pure _

theorem renderSource {call : String → Rendering Buffer} (source : TextSource)
    (calls : ∀ name, source = .call name → K (call name)) :
    K (TextElement.renderSource call s source) := by
  unfold TextElement.renderSource
  rcases h : source with ⟨name, short⟩ | name | ⟨name, form, plural⟩ | text
  · refine law.bind (law.fetchText short name) fun text => ?_
    cases text with
    | none => exact law.pure []
    | some text => exact law.renderVariable name text
  · exact calls name h
  · exact law.pure _
  · exact law.pure _

theorem renderText {call : String → Rendering Buffer} (e : TextElement)
    (calls : ∀ name, e.source = .call name → K (call name)) : K (e.render call s) :=
  law.map _ (law.renderSource e.source calls)

theorem renderNumber (e : NumberElement) : K (e.render s) := by
  unfold NumberElement.render
  exact law.bind (law.fetchText false _) fun _ => law.pure _

/-! ## Names -/

section
variable (f : NamesFormat)

theorem renderListLabel {name : String}
    (remember : ∀ l, f.label = some l → K (l.remember name 0)) (first : Bool) :
    K (f.renderLabel s first name) := by
  unfold NamesFormat.renderLabel
  split
  · split
    · exact law.renderFor (remember _ ‹_›)
    · exact law.pure []
  · exact law.pure []

theorem renderList {name : String} (remember : ∀ l, f.label = some l → K (l.remember name 0)) :
    K (f.renderList s name) := by
  unfold NamesFormat.renderList
  refine law.bind (law.fetchNames name) fun names => ?_
  cases names with
  | none => exact law.pure []
  | some names =>
    exact law.bind (law.renderListLabel f remember true) fun _ =>
      law.bind (law.renderListLabel f remember false) fun _ => law.pure _

theorem renderLists {names : List String}
    (remember : ∀ l, f.label = some l → ∀ name ∈ names, K (l.remember name 0)) :
    K (f.renderLists s names) := by
  induction names with
  | nil => exact law.pure []
  | cons name rest ih =>
    have first := law.renderList f fun l h => remember l h name List.mem_cons_self
    have others := ih fun l h name mem => remember l h name (List.mem_cons_of_mem _ mem)
    exact law.bind first fun _ => law.bind others fun _ => law.pure _

theorem countNames (names : List String) : K (f.countNames s names) := by
  induction names with
  | nil => exact law.pure 0
  | cons name rest ih =>
    exact law.bind (law.fetchNames name) fun _ => law.bind ih fun _ => law.pure _

theorem renderNames {names : List String}
    (remember : ∀ l, f.label = some l → ∀ name ∈ names, K (l.remember name 0)) :
    K (f.render s names) := by
  unfold NamesFormat.render NamesFormat.renderContent
  refine law.map _ ?_
  split
  · exact law.map _ (law.countNames f names)
  · exact law.map _ (law.renderLists f remember)

end

end LeafLaw

/-! ## Elements -/

namespace ElementLaw

variable {s : Setting} {K : ∀ {α : Type}, Rendering α → Prop} (law : ElementLaw s K)
include law

theorem remember (l : LabelElement) (name : String) (place : Nat) : K (l.remember name place) := by
  unfold LabelElement.remember
  split
  · exact law.label l
  · exact law.pure ()

mutual
theorem pieces {call : String → Rendering Buffer} (e : Element)
    (calls : ∀ name ∈ e.calls, K (call name)) : K (e.pieces call s) := by
  cases e with
  | text e =>
    refine law.bind (law.renderText e ?_) fun _ => law.pure _
    intro name h
    obtain ⟨source, decoration⟩ := e
    subst h
    exact calls name (by simp [Element.calls])
  | number e => exact law.bind (law.renderNumber e) fun _ => law.pure _
  | label e => exact law.bind (law.renderLabel fun name _ => law.remember e name 0) fun _ => law.pure _
  | date e => exact law.bind (law.renderDate e) fun _ => law.pure _
  | names subjects format substitute =>
    rw [Element.calls] at calls
    rw [Element.pieces]
    refine law.bind (law.renderNames format fun l _ name _ => law.remember l name 0)
      fun content => ?_
    split
    · exact law.bind (firstFilled substitute calls) fun _ => law.pure _
    · exact law.pure _
  | group delimiter decoration children =>
    rw [Element.calls] at calls
    rw [Element.pieces]
    exact law.bind (law.listening (piecesOf children calls)) fun _ => law.pure _
  | choose branches =>
    rw [Element.calls] at calls
    rw [Element.pieces]
    exact branchPieces branches calls

theorem piecesOf {call : String → Rendering Buffer} (es : List Element)
    (calls : ∀ name ∈ Element.callsOf es, K (call name)) : K (Element.piecesOf call s es) := by
  cases es with
  | nil => exact law.pure []
  | cons e rest =>
    rw [Element.callsOf] at calls
    rw [Element.piecesOf]
    have first := pieces e fun name mem => calls name (List.mem_append_left _ mem)
    have others := piecesOf rest fun name mem => calls name (List.mem_append_right _ mem)
    exact law.bind first fun _ => law.bind others fun _ => law.pure _

theorem branchPieces {call : String → Rendering Buffer} (bs : List Branch)
    (calls : ∀ name ∈ Element.branchCalls bs, K (call name)) :
    K (Element.branchPieces call s bs) := by
  match bs with
  | [] => exact law.pure []
  | .mk condition children :: rest =>
    rw [Element.branchCalls] at calls
    rw [Element.branchPieces]
    refine law.bind (law.takes condition) fun taken => ?_
    split
    · exact piecesOf children fun name mem => calls name (List.mem_append_left _ mem)
    · exact branchPieces rest fun name mem => calls name (List.mem_append_right _ mem)

theorem firstFilled {call : String → Rendering Buffer} (es : List Element)
    (calls : ∀ name ∈ Element.callsOf es, K (call name)) : K (Element.firstFilled call s es) := by
  cases es with
  | nil => exact law.pure []
  | cons e rest =>
    rw [Element.callsOf] at calls
    rw [Element.firstFilled]
    have first := pieces e fun name mem => calls name (List.mem_append_left _ mem)
    have others := firstFilled rest fun name mem => calls name (List.mem_append_right _ mem)
    refine law.bind (law.listening first) fun ⟨items, fetches⟩ => ?_
    dsimp only
    split
    · exact others
    · exact law.bind (law.suppress _) fun _ => law.pure _
end

/-! ## Macros -/

/-- If a law holds of calls in vain, then it holds of all calls. -/
theorem renderCall (missed : ∀ name, K (Element.missCall name)) (depth : Nat) :
    ∀ name, K (Element.renderCall s depth name) := by
  induction depth with
  | zero => exact fun name => missed name
  | succ depth ih =>
    intro name
    rw [Element.renderCall]
    split
    · exact law.map _ (law.piecesOf _ fun name _ => ih name)
    · exact missed name

theorem renderWithin (missed : ∀ name, K (Element.missCall name)) (depth : Nat)
    (elements : List Element) : K (Element.renderWithin s depth elements) :=
  law.map _ (law.piecesOf elements fun name _ => law.renderCall missed depth name)

end ElementLaw

end CiteStyle
