-- Formatting decides on nothing else. An element and the same element without
-- formatting take the same steps: what one gives is what the other gives without its
-- formatting, they tell the same look-ups, and they leave the same behind. So styles
-- that differ in formatting alone differ in the formatting of their outputs alone.
import CiteStyle.Proofs.StepLaws
import CiteStyle.Proofs.Unformatted
import CiteStyle.Render.Style

namespace CiteStyle

open Rendering

/-! ## Steps without formatting -/

/-- A step, and what it becomes without formatting: `f` takes the formatting from what it gives. -/
def Erases (f : α → β) (x : Rendering α) (y : Rendering β) : Prop :=
  ∀ p, y p.unformatted = (f (x p).1, (x p).2.1, (x p).2.2.unformatted)

namespace Erases

theorem pure {f : α → β} {a : α} {b : β} (same : f a = b) :
    Erases f (pure a : Rendering α) (pure b) := fun _ => by
  rw [pure_apply, pure_apply, same]

theorem bind {f : α → β} {g : γ → δ} {x : Rendering α} {y : Rendering β}
    {k : α → Rendering γ} {l : β → Rendering δ} (hx : Erases f x y)
    (hk : ∀ a, Erases g (k a) (l (f a))) : Erases g (x >>= k) (y >>= l) := by
  intro p
  rw [bind_apply, bind_apply, hx p]
  dsimp only
  rw [hk]

theorem map {f : α → β} {g : γ → δ} {x : Rendering α} {y : Rendering β} {h : α → γ} {k : β → δ}
    (hx : Erases f x y) (same : ∀ a, g (h a) = k (f a)) : Erases g (h <$> x) (k <$> y) := by
  intro p
  rw [map_apply, map_apply, hx p, ← same]

theorem listening {f : α → β} {x : Rendering α} {y : Rendering β} (hx : Erases f x y) :
    Erases (Prod.map f id) (listening x) (listening y) := by
  intro p
  unfold Rendering.listening
  rw [hx p]
  rfl

theorem report (name : String) (found : Bool) :
    Erases id (report name found) (report name found) := fun _ => rfl

end Erases

/-! ## Looking variables up -/

variable (s : Setting)

theorem erases_fetchText (short : Bool) (name : String) :
    Erases id (fetchText s short name) (fetchText s.unformatted short name) := by
  intro p
  rw [fetchText_apply, fetchText_apply]
  rfl

theorem erases_fetchNames (name : String) :
    Erases id (fetchNames s name) (fetchNames s.unformatted name) := fun _ => rfl

theorem erases_fetchValue (name : String) :
    Erases id (fetchValue s name) (fetchValue s.unformatted name) := fun _ => rfl

theorem erases_peekDate (name : String) :
    Erases id (peekDate s name) (peekDate s.unformatted name) := fun _ => rfl

theorem erases_readDate (text : String) :
    Erases id (readDate s text) (readDate s.unformatted text) := by
  intro p
  have fallback : s.unformatted.fallback = s.fallback := rfl
  unfold readDate
  rw [fallback]
  cases s.fallback <;> rfl

theorem erases_takes (condition : Option Condition) :
    Erases id (Element.takes s condition) (Element.takes s.unformatted condition) := fun _ => rfl

/-! ## Labels, texts and numbers -/

theorem erases_renderFor (l : LabelElement) (name : String) (place : Nat) :
    Erases Buffer.unformatted (l.renderFor s name place)
      (l.unformatted.renderFor s.unformatted name place) := by
  have remember : Erases id (l.remember name place) (l.unformatted.remember name place) := by
    unfold LabelElement.remember
    split <;> exact fun _ => rfl
  unfold LabelElement.renderFor
  refine remember.bind fun _ => (erases_fetchValue s name).bind fun value => .pure ?_
  rw [Decoration.unformatted_apply, Buffer.unformatted_ofText]
  rfl

theorem erases_renderLabel (l : LabelElement) (place : Nat) :
    Erases Buffer.unformatted (l.render s place) (l.unformatted.render s.unformatted place) := by
  have subject : l.unformatted.subject = l.subject := rfl
  unfold LabelElement.render
  rw [subject]
  cases l.subject with
  | some name => exact erases_renderFor s l name place
  | none => exact .pure rfl

theorem erases_renderPartLabel (place : Nat) (part : Locator.Part) :
    Erases Buffer.unformatted (TextElement.renderPartLabel s place part)
      (TextElement.renderPartLabel s.unformatted place part) := by
  intro p
  rw [TextElement.renderPartLabel_eq, TextElement.renderPartLabel_eq]
  show TextElement.repeatedLabel s.unformatted place part
    (p.lastLabel.map LabelElement.unformatted) p.unformatted = _
  rw [bind_apply]
  simp only [remembered]
  cases p.lastLabel with
  | none => rfl
  | some l =>
    dsimp only [TextElement.repeatedLabel, Option.map_some, Option.elim_some]
    split
    · exact erases_renderLabel s l place p
    · rfl

theorem erases_renderParts (parts : List Locator.Part) (place : Nat) :
    Erases Buffer.unformatted (TextElement.renderParts s place parts)
      (TextElement.renderParts s.unformatted place parts) := by
  induction parts generalizing place with
  | nil => exact .pure rfl
  | cons part rest ih =>
    unfold TextElement.renderParts
    refine (erases_renderPartLabel s place part).bind fun label => (ih (place + 1)).bind fun _ => ?_
    exact .pure (by simp)

theorem erases_renderVariable (name text : String) :
    Erases Buffer.unformatted (TextElement.renderVariable s name text)
      (TextElement.renderVariable s.unformatted name text) := by
  unfold TextElement.renderVariable
  split
  · exact .pure (Buffer.unformatted_ofText _ _)
  · exact erases_renderParts s _ 0
  · exact erases_renderParts s _ 0
  · exact .pure (Buffer.unformatted_ofText _ _)
  · exact .pure (Buffer.unformatted_ofText _ _)
  · exact .pure (Buffer.unformatted_ofText _ _)

theorem erases_renderText {call call' : String → Rendering Buffer}
    (calls : ∀ name, Erases Buffer.unformatted (call name) (call' name)) (e : TextElement) :
    Erases Buffer.unformatted (e.render call s) (e.unformatted.render call' s.unformatted) := by
  have source : Erases Buffer.unformatted (TextElement.renderSource call s e.source)
      (TextElement.renderSource call' s.unformatted e.source) := by
    unfold TextElement.renderSource
    cases e.source with
    | ofVariable name short =>
      refine (erases_fetchText s short name).bind fun text => ?_
      cases text with
      | none => exact .pure rfl
      | some text => exact erases_renderVariable s name text
    | call name => exact calls name
    | term name form plural => exact .pure (Buffer.unformatted_ofText _ _)
    | value text => exact .pure (Buffer.unformatted_ofText _ _)
  exact source.map fun b => e.decoration.unformatted_apply s.locale b

theorem erases_renderNumber (e : NumberElement) :
    Erases Buffer.unformatted (e.render s) (e.unformatted.render s.unformatted) := by
  unfold NumberElement.render
  refine (erases_fetchText s false e.subject).bind fun text => .pure ?_
  rw [Decoration.unformatted_apply, NumberForm.unformatted_writeAll]
  rfl

/-! ## Dates and names -/

theorem erases_renderDateContent (e : DateElement) :
    Erases Buffer.unformatted (e.renderContent s) (e.unformatted.renderContent s.unformatted) := by
  have range (season : Option String) (first last : List Int) :
      (writeRange s.locale season first last (e.partsIn s.locale)).unformatted =
        writeRange s.locale season first last (e.unformatted.partsIn s.locale) := by
    rw [unformatted_writeRange, e.unformatted_partsIn]
  have value (season : Option String) (value : DateValue) :
      Erases Buffer.unformatted (e.renderValue s season value)
        (e.unformatted.renderValue s.unformatted season value) := by
    cases value with
    | parts first last => exact .pure (range season first last)
    | literal text => exact .pure (Buffer.unformatted_ofText _ _)
    | season text => exact .pure (Buffer.unformatted_ofText _ _)
    | raw text =>
      refine (erases_readDate s text).bind fun date => ?_
      cases date with
      | none => exact .pure (Buffer.unformatted_ofText _ _)
      | some date => exact .pure (range season _ _)
  unfold DateElement.renderContent
  refine (erases_peekDate s e.subject).bind fun date => ?_
  cases date with
  | none => exact .pure rfl
  | some date =>
    dsimp only [id]
    cases date.value with
    | none => exact .pure rfl
    | some v => exact value _ v

theorem erases_renderDate (e : DateElement) :
    Erases Buffer.unformatted (e.render s) (e.unformatted.render s.unformatted) := by
  unfold DateElement.render
  refine (erases_renderDateContent s e).bind fun content => ?_
  rw [content.isEmpty_unformatted]
  exact (Erases.report _ _).bind fun _ => .pure (e.decoration.unformatted_apply s.locale content)

theorem erases_renderListLabel (f : NamesFormat) (first : Bool) (name : String) :
    Erases Buffer.unformatted (f.renderLabel s first name)
      (f.unformatted.renderLabel s.unformatted first name) := by
  have label : f.unformatted.label = f.label.map LabelElement.unformatted := rfl
  have side : f.unformatted.labelFirst = f.labelFirst := rfl
  unfold NamesFormat.renderLabel
  rw [label, side]
  cases f.label with
  | none => exact .pure rfl
  | some l =>
    dsimp only [Option.map_some]
    split
    · exact erases_renderFor s l name 0
    · exact .pure rfl

theorem erases_renderList (f : NamesFormat) (name : String) :
    Erases Buffer.unformatted (f.renderList s name)
      (f.unformatted.renderList s.unformatted name) := by
  unfold NamesFormat.renderList
  refine (erases_fetchNames s name).bind fun names => ?_
  cases names with
  | none => exact .pure rfl
  | some names =>
    refine (erases_renderListLabel s f true name).bind fun before =>
      (erases_renderListLabel s f false name).bind fun after => .pure ?_
    rw [Buffer.unformatted_append, Buffer.unformatted_append, NameFormat.unformatted_write]
    rfl

theorem erases_renderLists (f : NamesFormat) (names : List String) :
    Erases (List.map Buffer.unformatted) (f.renderLists s names)
      (f.unformatted.renderLists s.unformatted names) := by
  induction names with
  | nil => exact .pure rfl
  | cons name rest ih =>
    exact (erases_renderList s f name).bind fun _ => ih.bind fun _ => .pure rfl

theorem erases_countNames (f : NamesFormat) (names : List String) :
    Erases id (f.countNames s names) (f.unformatted.countNames s.unformatted names) := by
  induction names with
  | nil => exact .pure rfl
  | cons name rest ih =>
    exact (erases_fetchNames s name).bind fun _ => ih.bind fun _ => .pure rfl

theorem erases_renderNames (f : NamesFormat) (names : List String) :
    Erases Buffer.unformatted (f.render s names) (f.unformatted.render s.unformatted names) := by
  have form : f.unformatted.name.form = f.name.form := rfl
  refine Erases.map ?_ fun b => f.decoration.unformatted_apply s.locale b
  unfold NamesFormat.renderContent
  rw [form]
  cases f.name.form with
  | count =>
    refine (erases_countNames s f names).map fun total => ?_
    unfold NamesFormat.writeCount
    rw [apply_ite Buffer.unformatted, Buffer.unformatted_ofText]
    rfl
  | long | short =>
    exact (erases_renderLists s f names).map fun bs => Buffer.unformatted_joinFilled f.delimiter bs

/-! ## Elements -/

namespace Element

variable {call call' : String → Rendering Buffer}

mutual
theorem erases_pieces (calls : ∀ name, Erases Buffer.unformatted (call name) (call' name))
    (e : Element) :
    Erases (List.map Buffer.unformatted) (e.pieces call s)
      (e.unformatted.pieces call' s.unformatted) := by
  cases e with
  | text e => exact (erases_renderText s calls e).bind fun _ => .pure rfl
  | number e => exact (erases_renderNumber s e).bind fun _ => .pure rfl
  | label e => exact (erases_renderLabel s e 0).bind fun _ => .pure rfl
  | date e => exact (erases_renderDate s e).bind fun _ => .pure rfl
  | names subjects format substitute =>
    rw [unformatted, pieces, pieces]
    refine (erases_renderNames s format subjects).bind fun content => ?_
    rw [content.isEmpty_unformatted]
    split
    · exact (erases_firstFilled calls substitute).bind fun _ => .pure rfl
    · exact .pure rfl
  | group delimiter decoration children =>
    rw [unformatted, pieces, pieces]
    refine (erases_piecesOf calls children).listening.bind fun (items, fetches) => .pure ?_
    simp only [List.map_cons, List.map_nil, id, Decoration.unformatted_apply,
      apply_ite Buffer.unformatted, Buffer.unformatted_nil, Buffer.unformatted_joinFilled]
    rfl
  | choose branches => exact erases_branchPieces calls branches

theorem erases_piecesOf (calls : ∀ name, Erases Buffer.unformatted (call name) (call' name))
    (es : List Element) :
    Erases (List.map Buffer.unformatted) (piecesOf call s es)
      (piecesOf call' s.unformatted (unformattedAll es)) := by
  match es with
  | [] => exact .pure rfl
  | e :: rest =>
    exact (erases_pieces calls e).bind fun _ => (erases_piecesOf calls rest).bind fun _ =>
      .pure List.map_append

theorem erases_branchPieces (calls : ∀ name, Erases Buffer.unformatted (call name) (call' name))
    (bs : List Branch) :
    Erases (List.map Buffer.unformatted) (branchPieces call s bs)
      (branchPieces call' s.unformatted (unformattedBranches bs)) := by
  match bs with
  | [] => exact .pure rfl
  | .mk condition children :: rest =>
    rw [unformattedBranches, branchPieces, branchPieces]
    refine (erases_takes s condition).bind fun taken => ?_
    dsimp only [id]
    split
    · exact erases_piecesOf calls children
    · exact erases_branchPieces calls rest

theorem erases_firstFilled (calls : ∀ name, Erases Buffer.unformatted (call name) (call' name))
    (es : List Element) :
    Erases Buffer.unformatted (firstFilled call s es)
      (firstFilled call' s.unformatted (unformattedAll es)) := by
  match es with
  | [] => exact .pure rfl
  | e :: rest =>
    rw [unformattedAll, firstFilled, firstFilled]
    refine (erases_pieces calls e).listening.bind fun (items, fetches) => ?_
    dsimp only [Prod.map, id]
    rw [← Buffer.unformatted_flatten, Buffer.isEmpty_unformatted]
    split
    · exact erases_firstFilled calls rest
    · have suppress : Erases id (change (Pass.suppress (Fetch.names fetches)))
          (change (Pass.suppress (Fetch.names fetches))) := fun _ => rfl
      exact suppress.bind fun _ => .pure rfl
end

theorem erases_renderCall (depth : Nat) (name : String) :
    Erases Buffer.unformatted (renderCall s depth name) (renderCall s.unformatted depth name) := by
  have missed (name : String) : Erases Buffer.unformatted (missCall name) (missCall name) :=
    fun _ => rfl
  induction depth generalizing name with
  | zero => exact missed name
  | succ depth ih =>
    have found : s.unformatted.macros.lookup name = (s.macros.lookup name).map unformattedAll :=
      s.macros.lookup_unformatted name
    rw [renderCall, renderCall, found]
    cases s.macros.lookup name with
    | none => exact missed name
    | some children => exact (erases_piecesOf s ih children).map Buffer.unformatted_flatten

theorem erases_renderWithin (depth : Nat) (elements : List Element) :
    Erases Buffer.unformatted (renderWithin s depth elements)
      (renderWithin s.unformatted depth (unformattedAll elements)) :=
  (erases_piecesOf s (erases_renderCall s depth) elements).map Buffer.unformatted_flatten

end Element

/-! ## Styles -/

namespace Style

variable (style : Style) (locale : Locale)

theorem erases_renderPass (layout : Layout) (record : Record) (cite : Cite) :
    Erases Buffer.unformatted (style.renderPass layout locale record cite)
      (style.unformatted.renderPass layout.unformatted locale record cite) :=
  Element.erases_renderWithin (style.setting layout record locale cite) style.callDepth
    layout.elements

theorem renderBody_unformatted (layout : Layout) (record : Record) (cite : Cite)
    (readers : DateReaders) :
    style.unformatted.renderBody layout.unformatted locale record cite readers =
      ((style.renderBody layout locale record cite readers).1.unformatted,
        (style.renderBody layout locale record cite readers).2) := by
  have pass := style.erases_renderPass locale layout record cite { readers }
  have start : Pass.unformatted { readers } = { readers } := rfl
  rw [start] at pass
  unfold renderBody
  rw [pass]
  rfl

theorem renderIn_unformatted (layout : Layout) (record : Record) (cite : Cite)
    (readers : DateReaders) :
    (style.unformatted.renderIn layout.unformatted locale record cite readers).1 =
      (style.renderIn layout locale record cite readers).1.unformatted := by
  have body := style.renderBody_unformatted locale layout record cite readers
  show layout.unformatted.decoration.apply locale
      (style.unformatted.renderBody layout.unformatted locale record cite readers).1 =
    (layout.decoration.apply locale
      (style.renderBody layout locale record cite readers).1).unformatted
  rw [body, Decoration.unformatted_apply]
  rfl

theorem renderBodies_unformatted (cites : List (Record × Cite)) (readers : DateReaders) :
    (style.unformatted.renderBodies locale cites readers).1 =
      (style.renderBodies locale cites readers).1.map Buffer.unformatted := by
  induction cites generalizing readers with
  | nil => rfl
  | cons cited rest ih =>
    obtain ⟨record, cite⟩ := cited
    have first := style.renderBody_unformatted locale style.citation record cite readers
    have others := ih (style.renderBody style.citation locale record cite readers).2
    show (style.unformatted.renderBody style.citation.unformatted locale record cite readers).1 ::
        (style.unformatted.renderBodies locale rest (style.unformatted.renderBody
          style.citation.unformatted locale record cite readers).2).1 = _
    rw [first]
    exact congrArg (_ :: ·) others

theorem renderEntry_unformatted (record : Record) (readers : DateReaders) :
    (style.unformatted.renderEntry locale record readers).1 =
      (style.renderEntry locale record readers).1.unformatted := by
  have bibliography : style.unformatted.bibliography =
      style.bibliography.map Layout.unformatted := rfl
  unfold renderEntry
  rw [bibliography]
  cases style.bibliography with
  | none => rfl
  | some layout => exact style.renderIn_unformatted locale layout record {} readers

theorem renderCitation_unformatted (cites : List (Record × Cite)) (readers : DateReaders) :
    (style.unformatted.renderCitation locale cites readers).1 =
      (style.renderCitation locale cites readers).1.unformatted := by
  have bodies := style.renderBodies_unformatted locale cites readers
  show style.citation.unformatted.decoration.apply locale
      (Buffer.joinFilled (style.citation.delimiter.getD "")
        (style.unformatted.renderBodies locale cites readers).1) =
    (style.citation.decoration.apply locale (Buffer.joinFilled (style.citation.delimiter.getD "")
      (style.renderBodies locale cites readers).1)).unformatted
  rw [bodies, Decoration.unformatted_apply, Buffer.unformatted_joinFilled]
  rfl

/-- Formatting never decides on content. Two styles that differ in formatting alone, in whatever
elements, give outputs that differ in formatting alone. While a cite is rendered in two layouts
that differ in formatting alone, they tell the same look-ups and suppress the same variables. -/
theorem render_unformatted {style style' : Style} (same : style.unformatted = style'.unformatted)
    (locale : Locale) (readers : DateReaders) :
    (∀ {layout layout' : Layout}, layout.unformatted = layout'.unformatted → ∀ record cite,
      let effect := style.renderPass layout locale record cite { readers }
      let effect' := style'.renderPass layout' locale record cite { readers }
      effect.1.unformatted = effect'.1.unformatted ∧ effect.2.1 = effect'.2.1 ∧
        effect.2.2.suppressed = effect'.2.2.suppressed) ∧
    (∀ record cite, (style.renderCite locale record cite readers).1.unformatted =
      (style'.renderCite locale record cite readers).1.unformatted) ∧
    (∀ record, (style.renderEntry locale record readers).1.unformatted =
      (style'.renderEntry locale record readers).1.unformatted) ∧
    ∀ cites, (style.renderCitation locale cites readers).1.unformatted =
      (style'.renderCitation locale cites readers).1.unformatted := by
  refine ⟨fun {layout layout'} alike record cite => ?_, fun record cite => ?_, fun record => ?_,
    fun cites => ?_⟩
  · have first := style.erases_renderPass locale layout record cite { readers }
    have second := style'.erases_renderPass locale layout' record cite { readers }
    rw [same, alike, second] at first
    simp only [Prod.mk.injEq] at first
    have suppressed := congrArg Pass.suppressed first.2.2
    exact ⟨first.1.symm, first.2.1.symm, suppressed.symm⟩
  · have citation : style.citation.unformatted = style'.citation.unformatted :=
      congrArg Style.citation same
    unfold renderCite
    rw [← renderIn_unformatted, ← renderIn_unformatted, same, citation]
  · rw [← renderEntry_unformatted, ← renderEntry_unformatted, same]
  · rw [← renderCitation_unformatted, ← renderCitation_unformatted, same]

/-- A style with some formatting on a layout, a group, names, a part of a name, a label, a date, a
component of a date, and a macro. -/
def formattedStyle (formatting : Formatting) : Style :=
  let d : Decoration := { formatting }
  let label : LabelElement := ⟨none, .short, .contextual, d⟩
  { macros := [("title", [.text ⟨.ofVariable "title" false, d⟩])]
    citation := {
      elements := [.group ", " d [
        .names ["author"] ⟨{ given := d, decoration := d }, some label, false, "; ", d⟩ [],
        .text ⟨.call "title", {}⟩,
        .date ⟨"issued", none, .day, [⟨.year, none, d, none⟩], d⟩]]
      decoration := d }
    callDepth := 1 }

theorem render_unformatted_bold :
    let plain := formattedStyle .unset
    let bold := formattedStyle { fontWeight := some .bold }
    let beowulf : Record := {
      texts := [("title", "Beowulf")]
      dates := [("issued", .ofRaw "1854")]
      names := [("author", [{ family := some "Doe", given := some "Jane" }])] }
    plain.unformatted = bold.unformatted ∧
      (plain.renderCite .english beowulf {} []).1 ≠ (bold.renderCite .english beowulf {} []).1 ∧
      (plain.renderCite .english beowulf {} []).1.unformatted =
        (bold.renderCite .english beowulf {} []).1.unformatted := by
  intro plain bold beowulf
  have same : plain.unformatted = bold.unformatted := rfl
  obtain ⟨-, cites, -⟩ := render_unformatted same .english []
  exact ⟨same, by decide +kernel, cites beowulf {}⟩

end Style

end CiteStyle
