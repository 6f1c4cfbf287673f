-- What rendering gives, in general. A property of output that is a law holds of
-- all that an element gives, in whatever pass and however deep macros call each
-- other, if it allows the decorations that go over decorated output.
import CiteStyle.Render.Element
import CiteStyle.Proofs.OutputLaws

namespace CiteStyle

open Rendering

/-! ## Steps of a pass -/

/-- What a step gives has a property, in whatever pass. -/
def Gives (P : α → Prop) (x : Rendering α) : Prop := ∀ p, P (x p).1

section Steps

variable {P : α → Prop} {Q : β → Prop}

theorem gives_pure {a : α} (h : P a) : Gives P (pure a : Rendering α) := fun _ => h

theorem gives_any (x : Rendering α) : Gives (fun _ => True) x := fun _ => trivial

theorem gives_bind {x : Rendering α} {f : α → Rendering β} (hx : Gives P x)
    (hf : ∀ a, P a → Gives Q (f a)) : Gives Q (x >>= f) := by
  intro p
  rw [bind_apply]
  exact hf _ (hx p) _

theorem gives_map {x : Rendering α} {f : α → β} (hx : Gives P x) (hf : ∀ a, P a → Q (f a)) :
    Gives Q (f <$> x) := by
  rw [map_eq_pure_bind]
  exact gives_bind hx fun a ha => gives_pure (hf a ha)

theorem gives_listening {x : Rendering α} (hx : Gives P x) :
    Gives (fun heard => P heard.1) (listening x) := hx

end Steps

/-! ## Texts of their own -/

/-- A text whose content is decorated already: that of a macro, or one with labels in it. -/
def TextSource.isDecorated : TextSource → Bool
  | .ofVariable name _ => LabelElement.hasOwnLabels name
  | .call _ => true
  | .term .. | .value _ => false

theorem all_isProper_renderSource (call : String → Rendering Buffer) (s : Setting)
    {source : TextSource} (own : source.isDecorated = false) :
    Gives (fun b => b.all (·.isProper)) (TextElement.renderSource call s source) := by
  rcases source with ⟨name, short⟩ | name | ⟨name, form, plural⟩ | text
  · refine gives_bind (gives_any _) fun text _ => ?_
    cases text with
    | none => exact gives_pure rfl
    | some text =>
      simp only [TextSource.isDecorated, LabelElement.hasOwnLabels, Bool.or_eq_false_iff,
        decide_eq_false_iff_not] at own
      show Gives _ (TextElement.renderVariable s name text)
      unfold TextElement.renderVariable
      split
      · exact gives_pure (all_isProper_plain _)
      · exact absurd rfl own.2
      · exact absurd rfl own.1
      · exact gives_pure (all_isProper_ofText (by simp) (by simp) text)
      · exact gives_pure (all_isProper_ofText (by simp) (by simp) text)
      · exact gives_pure (all_isProper_plain text)
  · exact absurd own (by simp [TextSource.isDecorated])
  · exact gives_pure (all_isProper_plain _)
  · exact gives_pure (all_isProper_plain text)

/-! ## Decorations over decorated output -/

namespace Element

mutual
/-- The decorations of an element that go over output which is decorated already. -/
def overlays : Element → List Decoration
  | .text e => if e.source.isDecorated then [e.decoration] else []
  | .number _ | .label _ => []
  | .date e => [e.decoration]
  | .names _ format substitute =>
    format.decoration :: format.name.decoration :: overlaysOf substitute
  | .group _ decoration children => decoration :: overlaysOf children
  | .choose branches => branchOverlays branches

/-- The decorations of some elements that go over output which is decorated already. -/
def overlaysOf : List Element → List Decoration
  | [] => []
  | e :: rest => overlays e ++ overlaysOf rest

/-- The decorations in some branches that go over output which is decorated already. -/
def branchOverlays : List Branch → List Decoration
  | [] => []
  | .mk _ children :: rest => overlaysOf children ++ branchOverlays rest
end

end Element

namespace OutputLaw

variable {P : Buffer → Prop} {Allowed : Decoration → Prop}

section Parts

variable (law : OutputLaw P Allowed)
include law

/-! ## Labels, texts and numbers -/

theorem gives_renderFor (l : LabelElement) (s : Setting) (name : String) (place : Nat) :
    Gives P (l.renderFor s name place) := by
  unfold LabelElement.renderFor
  refine gives_bind (gives_any _) fun _ _ => gives_bind (gives_any _) fun value _ => ?_
  exact gives_pure (law.texts s.locale l.decoration (all_isProper_plain _))

theorem gives_renderLabel (l : LabelElement) (s : Setting) (place : Nat) :
    Gives P (l.render s place) := by
  unfold LabelElement.render
  split
  · exact law.gives_renderFor l s _ place
  · exact gives_pure law.nil

theorem gives_renderPartLabel (s : Setting) (place : Nat) (part : Locator.Part) :
    Gives P (TextElement.renderPartLabel s place part) := by
  unfold TextElement.renderPartLabel
  refine gives_bind (gives_any _) fun p _ => ?_
  split
  · split
    · exact law.gives_renderLabel _ s place
    · exact gives_pure law.nil
  · exact gives_pure law.nil

theorem gives_renderParts (s : Setting) (parts : List Locator.Part) :
    ∀ place, Gives P (TextElement.renderParts s place parts) := by
  induction parts with
  | nil => exact fun _ => gives_pure law.nil
  | cons part rest ih =>
    intro place
    unfold TextElement.renderParts
    refine gives_bind (law.gives_renderPartLabel s place part) fun label hl => ?_
    refine gives_bind (ih (place + 1)) fun others ho => gives_pure ?_
    exact law.append (law.append hl (law.plain part.text)) ho

theorem gives_renderVariable (s : Setting) (name text : String) :
    Gives P (TextElement.renderVariable s name text) := by
  unfold TextElement.renderVariable
  split
  · exact gives_pure (law.plain _)
  · exact law.gives_renderParts s _ 0
  · exact law.gives_renderParts s _ 0
  · exact gives_pure (law.ofText (by simp) (by simp) text)
  · exact gives_pure (law.ofText (by simp) (by simp) text)
  · exact gives_pure (law.plain text)

theorem gives_renderSource {call : String → Rendering Buffer} (s : Setting) (source : TextSource)
    (calls : ∀ name, Gives P (call name)) : Gives P (TextElement.renderSource call s source) := by
  rcases source with ⟨name, short⟩ | name | ⟨name, form, plural⟩ | text
  · refine gives_bind (gives_any _) fun text _ => ?_
    cases text with
    | none => exact gives_pure law.nil
    | some text => exact law.gives_renderVariable s name text
  · exact calls name
  · exact gives_pure (law.plain _)
  · exact gives_pure (law.plain text)

theorem gives_renderText {call : String → Rendering Buffer} (s : Setting) (e : TextElement)
    (calls : ∀ name, Gives P (call name)) (allowed : e.source.isDecorated → Allowed e.decoration) :
    Gives P (e.render call s) := by
  -- A content of mere texts may be decorated in any way.
  cases decorated : e.source.isDecorated with
  | false =>
    exact gives_map (all_isProper_renderSource call s decorated) fun b hb =>
      law.texts s.locale e.decoration hb
  | true =>
    exact gives_map (law.gives_renderSource s e.source calls) fun b hb =>
      law.decorated s.locale (allowed decorated) hb

theorem gives_renderNumber (s : Setting) (e : NumberElement) : Gives P (e.render s) := by
  unfold NumberElement.render
  exact gives_bind (gives_any _) fun text _ =>
    gives_pure (law.texts s.locale e.decoration (all_isProper_number e.form s.locale _))

/-! ## Dates and names in a pass -/

theorem gives_renderValue (e : DateElement) (s : Setting) (season : Option String)
    (value : DateValue) : Gives P (e.renderValue s season value) := by
  unfold DateElement.renderValue
  split
  · exact gives_pure (law.writeRange s.locale season _ _ _)
  · exact gives_pure (law.plain _)
  · exact gives_pure (law.plain _)
  · refine gives_bind (gives_any _) fun date _ => ?_
    cases date with
    | none => exact gives_pure (law.plain _)
    | some date => exact gives_pure (law.writeRange s.locale season _ _ _)

theorem gives_renderDateContent (s : Setting) (e : DateElement) : Gives P (e.renderContent s) := by
  unfold DateElement.renderContent
  refine gives_bind (gives_any _) fun date _ => ?_
  split
  · exact gives_pure law.nil
  · split
    · exact law.gives_renderValue e s _ _
    · exact gives_pure law.nil

theorem gives_renderDate (s : Setting) (e : DateElement) (allowed : Allowed e.decoration) :
    Gives P (e.render s) := by
  unfold DateElement.render
  exact gives_bind (law.gives_renderDateContent s e) fun content hc =>
    gives_bind (gives_any _) fun _ _ => gives_pure (law.decorated s.locale allowed hc)

theorem gives_renderListLabel (f : NamesFormat) (s : Setting) (first : Bool) (name : String) :
    Gives P (f.renderLabel s first name) := by
  unfold NamesFormat.renderLabel
  split
  · split
    · exact law.gives_renderFor _ s name 0
    · exact gives_pure law.nil
  · exact gives_pure law.nil

theorem gives_renderList (f : NamesFormat) (allowed : Allowed f.name.decoration) (s : Setting)
    (name : String) : Gives P (f.renderList s name) := by
  unfold NamesFormat.renderList
  refine gives_bind (gives_any _) fun names _ => ?_
  cases names with
  | none => exact gives_pure law.nil
  | some names =>
    refine gives_bind (law.gives_renderListLabel f s true name) fun before hb => ?_
    refine gives_bind (law.gives_renderListLabel f s false name) fun after ha => gives_pure ?_
    exact law.append (law.append hb (law.writeNames f.name allowed s.nameOptions s.locale names)) ha

theorem gives_renderLists (f : NamesFormat) (allowed : Allowed f.name.decoration) (s : Setting)
    (names : List String) : Gives (fun lists => ∀ b ∈ lists, P b) (f.renderLists s names) := by
  induction names with
  | nil => exact gives_pure (by simp)
  | cons name rest ih =>
    refine gives_bind (law.gives_renderList f allowed s name) fun b hb => ?_
    refine gives_bind ih fun others ho => gives_pure ?_
    exact List.forall_mem_cons.mpr ⟨hb, ho⟩

theorem gives_renderNamesContent (f : NamesFormat) (allowed : Allowed f.name.decoration)
    (s : Setting) (names : List String) : Gives P (f.renderContent s names) := by
  unfold NamesFormat.renderContent
  split
  · refine gives_map (gives_any _) fun total _ => ?_
    unfold NamesFormat.writeCount
    split
    · exact law.nil
    · exact law.plain _
  · exact gives_map (law.gives_renderLists f allowed s names) fun lists => law.joinFilled f.delimiter

theorem gives_renderNames (f : NamesFormat) (allowed : Allowed f.decoration)
    (each : Allowed f.name.decoration) (s : Setting) (names : List String) :
    Gives P (f.render s names) :=
  gives_map (law.gives_renderNamesContent f each s names) fun _ => law.decorated s.locale allowed

end Parts

/-! ## Elements -/

mutual
theorem gives_pieces (law : OutputLaw P Allowed)
    {call : String → Rendering Buffer} (calls : ∀ name, Gives P (call name))
    (s : Setting) (e : Element) (allowed : ∀ d ∈ e.overlays, Allowed d) :
    Gives (fun items => ∀ b ∈ items, P b) (e.pieces call s) := by
  have single {b : Buffer} (hb : P b) : ∀ c ∈ [b], P c := by simpa using hb
  cases e with
  | text e =>
    have asked (decorated : e.source.isDecorated) : Allowed e.decoration :=
      allowed _ (by simp [Element.overlays, decorated])
    exact gives_bind (law.gives_renderText s e calls asked) fun b hb => gives_pure (single hb)
  | number e =>
    exact gives_bind (law.gives_renderNumber s e) fun b hb => gives_pure (single hb)
  | label e =>
    exact gives_bind (law.gives_renderLabel e s 0) fun b hb => gives_pure (single hb)
  | date e =>
    rw [Element.overlays] at allowed
    exact gives_bind (law.gives_renderDate s e (allowed _ List.mem_cons_self)) fun b hb =>
      gives_pure (single hb)
  | names subjects format substitute =>
    rw [Element.overlays, List.forall_mem_cons, List.forall_mem_cons] at allowed
    obtain ⟨whole, each, others⟩ := allowed
    rw [Element.pieces]
    refine gives_bind (law.gives_renderNames format whole each s subjects) fun content hc => ?_
    split
    · exact gives_bind (gives_firstFilled law calls s substitute others) fun b hb =>
        gives_pure (single hb)
    · exact gives_pure (single hc)
  | group delimiter decoration children =>
    rw [Element.overlays, List.forall_mem_cons] at allowed
    rw [Element.pieces]
    refine gives_bind (gives_listening (gives_piecesOf law calls s children allowed.2))
      fun ⟨items, fetches⟩ hi => gives_pure (single ?_)
    refine law.decorated s.locale allowed.1 ?_
    split
    · exact law.nil
    · exact law.joinFilled delimiter hi
  | choose branches =>
    rw [Element.overlays] at allowed
    rw [Element.pieces]
    exact gives_branchPieces law calls s branches allowed

theorem gives_piecesOf (law : OutputLaw P Allowed)
    {call : String → Rendering Buffer} (calls : ∀ name, Gives P (call name))
    (s : Setting) (es : List Element) (allowed : ∀ d ∈ Element.overlaysOf es, Allowed d) :
    Gives (fun items => ∀ b ∈ items, P b) (Element.piecesOf call s es) := by
  cases es with
  | nil => exact gives_pure (by simp)
  | cons e rest =>
    rw [Element.overlaysOf, List.forall_mem_append] at allowed
    rw [Element.piecesOf]
    refine gives_bind (gives_pieces law calls s e allowed.1) fun first hf => ?_
    refine gives_bind (gives_piecesOf law calls s rest allowed.2) fun others ho => gives_pure ?_
    exact List.forall_mem_append.mpr ⟨hf, ho⟩

theorem gives_branchPieces (law : OutputLaw P Allowed)
    {call : String → Rendering Buffer} (calls : ∀ name, Gives P (call name))
    (s : Setting) (bs : List Branch) (allowed : ∀ d ∈ Element.branchOverlays bs, Allowed d) :
    Gives (fun items => ∀ b ∈ items, P b) (Element.branchPieces call s bs) := by
  match bs with
  | [] => exact gives_pure (by simp)
  | .mk condition children :: rest =>
    rw [Element.branchOverlays, List.forall_mem_append] at allowed
    rw [Element.branchPieces]
    refine gives_bind (gives_any _) fun taken _ => ?_
    split
    · exact gives_piecesOf law calls s children allowed.1
    · exact gives_branchPieces law calls s rest allowed.2

theorem gives_firstFilled (law : OutputLaw P Allowed)
    {call : String → Rendering Buffer} (calls : ∀ name, Gives P (call name))
    (s : Setting) (es : List Element) (allowed : ∀ d ∈ Element.overlaysOf es, Allowed d) :
    Gives P (Element.firstFilled call s es) := by
  cases es with
  | nil => exact gives_pure law.nil
  | cons e rest =>
    rw [Element.overlaysOf, List.forall_mem_append] at allowed
    rw [Element.firstFilled]
    refine gives_bind (gives_listening (gives_pieces law calls s e allowed.1))
      fun ⟨items, fetches⟩ hi => ?_
    dsimp only
    split
    · exact gives_firstFilled law calls s rest allowed.2
    · exact gives_bind (gives_any _) fun _ _ => gives_pure (law.flatten hi)
end

/-! ## Macros -/

section Macros

variable (law : OutputLaw P Allowed) {s : Setting}
  (macros : ∀ m ∈ s.macros, ∀ d ∈ Element.overlaysOf m.2, Allowed d)
include law macros

theorem gives_renderCall (depth : Nat) : ∀ name, Gives P (Element.renderCall s depth name) := by
  have missed (name : String) : Gives P (Element.missCall name) :=
    gives_bind (gives_any _) fun _ _ => gives_pure law.nil
  induction depth with
  | zero => exact missed
  | succ depth ih =>
    intro name
    rw [Element.renderCall]
    split
    · rename_i children found
      have allowed := macros (name, children) (mem_of_lookup found)
      exact gives_map (law.gives_piecesOf ih s children allowed) fun items => law.flatten
    · exact missed name

theorem gives_renderWithin (depth : Nat) {elements : List Element}
    (allowed : ∀ d ∈ Element.overlaysOf elements, Allowed d) :
    Gives P (Element.renderWithin s depth elements) :=
  gives_map (law.gives_piecesOf (law.gives_renderCall macros depth) s elements allowed)
    fun _ => law.flatten

end Macros

end OutputLaw

end CiteStyle
