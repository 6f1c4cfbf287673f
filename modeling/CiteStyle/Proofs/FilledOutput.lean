-- No text is empty. Of all outputs that rendering puts together, from the parts
-- of a name and the ends of a date up to a whole citation, none holds an empty
-- text. So an output is empty just when nothing was written into it.
import CiteStyle.Render.Style
import CiteStyle.Proofs.DateRanges
import CiteStyle.Proofs.ElementOutput
import CiteStyle.Proofs.InPlace

namespace CiteStyle

open Rendering

/-! ## Outputs without empty texts -/

/-- No text of an output is empty. -/
def Buffer.NoEmptyText (b : Buffer) : Prop := ∀ t ∈ b, t.isEmptyText = false

namespace Buffer

theorem noEmptyText_ofText (kind : TokenKind) (s : String) : (ofText kind s).NoEmptyText := by
  intro t mem
  unfold ofText at mem
  split at mem
  · simp at mem
  · rename_i filled
    obtain rfl := List.mem_singleton.mp mem
    simp [Token.ofText, Token.isEmptyText, filled]

theorem NoEmptyText.append {a b : Buffer} (ha : a.NoEmptyText) (hb : b.NoEmptyText) :
    (a ++ b).NoEmptyText :=
  List.forall_mem_append.mpr ⟨ha, hb⟩

/-- Texts that become empty are dropped. -/
theorem noEmptyText_mapText (f : String → String) (b : Buffer) : (b.mapText f).NoEmptyText := by
  intro t mem
  simpa using (List.mem_filter.mp mem).2

theorem NoEmptyText.wrap {b : Buffer} (h : b.NoEmptyText) (outer : Formatting) :
    (b.wrap outer).NoEmptyText := by
  intro t mem
  obtain ⟨u, inside, rfl⟩ := List.mem_map.mp mem
  have same : (u.wrap outer).isEmptyText = u.isEmptyText := by cases u <;> rfl
  rw [same]
  exact h u inside

theorem NoEmptyText.between {b : Buffer} (h : b.NoEmptyText) (first last : TokenKind)
    (s t : String) : ((b.prependText first s).appendText last t).NoEmptyText :=
  ((noEmptyText_ofText first s).append h).append (noEmptyText_ofText last t)

theorem NoEmptyText.frame {b : Buffer} (h : b.NoEmptyText) (d : Display) :
    (d.frame b).NoEmptyText := by
  unfold Display.frame
  split
  · exact h
  · intro t mem
    simp only [List.cons_append, List.mem_cons, List.mem_append, List.not_mem_nil, or_false] at mem
    rcases mem with rfl | inside | rfl
    · rfl
    · exact h t inside
    · rfl

theorem NoEmptyText.affixes {b : Buffer} (h : b.NoEmptyText) (a : Affixes) :
    (a.apply b).NoEmptyText := by
  unfold Affixes.apply
  split
  · exact h
  · exact h.between _ _ _ _

theorem NoEmptyText.applyStage {b : Buffer} (h : b.NoEmptyText) (locale : Locale) (d : Decoration)
    (stage : Decoration.Stage) : (d.applyStage locale b stage).NoEmptyText := by
  cases stage with
  | formatting => exact h.wrap d.formatting
  | stripPeriods =>
    show (if d.stripPeriods then b.stripPeriods else b).NoEmptyText
    split
    · exact noEmptyText_mapText _ b
    · exact h
  | textCase =>
    show (Decoration.applyTo (Buffer.changeCase locale) d.textCase b).NoEmptyText
    unfold Decoration.applyTo
    split
    · exact noEmptyText_mapText _ b
    · exact h
  | quotes =>
    show (if d.quotes then b.quoted locale else b).NoEmptyText
    split
    · unfold quoted
      split
      · exact h
      · exact h.between _ _ _ _
    · exact h
  | affixes => exact h.affixes d.affixes
  | display =>
    show (Decoration.applyTo Display.frame d.display b).NoEmptyText
    unfold Decoration.applyTo
    split
    · exact h.frame _
    · exact h

theorem NoEmptyText.apply {b : Buffer} (h : b.NoEmptyText) (locale : Locale) (d : Decoration) :
    (d.apply locale b).NoEmptyText :=
  Decoration.apply_keeps (fun stage _ h => h.applyStage locale d stage) h

theorem NoEmptyText.trimLast {b : Buffer} (h : b.NoEmptyText) (kind : TokenKind) :
    (b.trimLast kind).2.NoEmptyText := by
  unfold Buffer.trimLast
  split
  · split
    · exact fun t mem => h t (List.dropLast_subset b mem)
    · exact h
  · exact h

theorem NoEmptyText.trimFirst {b : Buffer} (h : b.NoEmptyText) (kind : TokenKind) :
    (b.trimFirst kind).2.NoEmptyText := by
  unfold Buffer.trimFirst
  split
  · split
    · exact fun t mem => h t (List.mem_cons_of_mem _ mem)
    · exact h
  · exact h

theorem noEmptyText_of_isProper {b : Buffer} (h : b.all (·.isProper)) : b.NoEmptyText := by
  intro t mem
  obtain ⟨kind, s, formatting, rfl, filled, -, -⟩ :=
    Token.isProper_iff.mp (List.all_eq_true.mp h t mem)
  simpa [Token.isEmptyText] using filled

/-- That no text is empty is a law of output, whatever the decorations. -/
theorem noEmptyText_law : OutputLaw NoEmptyText fun _ => True where
  nil := by simp [NoEmptyText]
  append := NoEmptyText.append
  token proper := noEmptyText_of_isProper (by simpa using proper)
  trimLast h := h.trimLast _
  trimFirst h := h.trimFirst _
  affixes a _ h := h.affixes a
  texts locale d _ h := (noEmptyText_of_isProper h).apply locale d
  decorated locale _ _ _ h := h.apply locale _

end Buffer

/-! ## What is handed on -/

/-- The outputs that one step of rendering hands to the next, of all settings, macro depths and
passes there may be. -/
inductive Handed : Buffer → Prop
  /-- What a text comes from, as of the elements of a macro. -/
  | source (s : Setting) (depth : Nat) (source : TextSource) (p : Pass) :
      Handed (TextElement.renderSource (Element.renderCall s depth) s source p).1
  | number (locale : Locale) (form : NumberForm) (text : String) :
      Handed (form.writeAll locale text)
  /-- A label, also one of a part of a locator or of a list of names. -/
  | label (s : Setting) (l : LabelElement) (name : String) (place : Nat) (p : Pass) :
      Handed (l.renderFor s name place p).1
  /-- The text of a term, a label or a component of a date. -/
  | text (kind : TokenKind) (text : String) : Handed (Buffer.ofText kind text)
  /-- Components of a date that are written for one end of a range. -/
  | dateEnd (locale : Locale) (season : Option String) (date : List Int) (parts : List DatePart) :
      Handed (DatePart.writeAll locale season date parts)
  | trimLast : Handed b → Handed (b.trimLast .behind).2
  | trimFirst : Handed b → Handed (b.trimFirst .before).2
  | range (locale : Locale) (season : Option String) (first last : List Int)
      (parts : List DatePart) : Handed (writeRange locale season first last parts)
  | date (s : Setting) (e : DateElement) (p : Pass) : Handed (e.renderContent s p).1
  | family (f : NameFormat) (locale : Locale) (n : Name) : Handed (f.familyPart locale n)
  | given (f : NameFormat) (o : NameOptions) (locale : Locale) (besideFamily : Bool) (n : Name) :
      Handed (f.givenPart o locale besideFamily n)
  | name (f : NameFormat) (o : NameOptions) (locale : Locale) (inverted : Bool) (n : Name) :
      Handed (f.writeName o locale inverted n)
  | names (f : NameFormat) (inherited : NameOptions) (locale : Locale) (names : List Name) :
      Handed (f.write inherited locale names)
  /-- The names of one variable with their label. -/
  | nameList (s : Setting) (f : NamesFormat) (name : String) (p : Pass) :
      Handed (f.renderList s name p).1
  | nameLists (s : Setting) (f : NamesFormat) (names : List String) (p : Pass) :
      Handed (f.renderContent s names p).1
  /-- The items of a group. -/
  | item (s : Setting) (depth : Nat) (elements : List Element) (p : Pass) {b : Buffer} :
      b ∈ (Element.piecesOf (Element.renderCall s depth) s elements p).1 → Handed b
  /-- What is found for names that are not there. -/
  | substitute (s : Setting) (depth : Nat) (elements : List Element) (p : Pass) :
      Handed (Element.firstFilled (Element.renderCall s depth) s elements p).1
  /-- The elements of a macro or of a layout, or one element on its own. -/
  | elements (s : Setting) (depth : Nat) (elements : List Element) (p : Pass) :
      Handed (Element.renderWithin s depth elements p).1
  | joined (delimiter : String) {bs : List Buffer} :
      (∀ b ∈ bs, Handed b) → Handed (Buffer.joinFilled delimiter bs)
  /-- What a part of a decoration makes of an output. -/
  | stage (locale : Locale) (d : Decoration) (stage : Decoration.Stage) :
      Handed b → Handed (d.applyStage locale b stage)

namespace Handed

theorem apply (locale : Locale) (d : Decoration) (h : Handed b) : Handed (d.apply locale b) :=
  Decoration.apply_keeps (fun stage _ h => h.stage locale d stage) h

theorem append (ha : Handed a) (hb : Handed b) : Handed (a ++ b) := by
  have whole : Buffer.joinFilled "" [a, b] = a ++ b := by
    cases a <;> cases b <;> simp [Buffer.joinFilled, Buffer.joinWith, Buffer.ofText]
  rw [← whole]
  exact .joined "" (by simp [ha, hb])

/-- What is handed on has every property that is a law of output, if the parts of a decoration and
texts of every kind keep to it. -/
theorem holds {P : Buffer → Prop} (law : OutputLaw P fun _ => True)
    (text : ∀ kind s, P (Buffer.ofText kind s))
    (stages : ∀ locale d stage {b}, P b → P (Decoration.applyStage locale d b stage))
    (h : Handed b) : P b := by
  have calls (s : Setting) (depth : Nat) := law.gives_renderCall (s := s)
    (fun _ _ _ _ => trivial) depth
  induction h with
  | source s depth source p => exact law.gives_renderSource s source (calls s depth) p
  | number locale form text => exact law.proper (all_isProper_number form locale text)
  | label s l name place p => exact law.gives_renderFor l s name place p
  | text kind s => exact text kind s
  | dateEnd locale season date parts =>
    refine law.flatten fun b mem => ?_
    obtain ⟨part, -, rfl⟩ := List.mem_map.mp mem
    exact law.datePart part locale season date
  | trimLast _ ih => exact law.trimLast ih
  | trimFirst _ ih => exact law.trimFirst ih
  | range locale season first last parts => exact law.writeRange locale season first last parts
  | date s e p => exact law.gives_renderDateContent s e p
  | family f locale n => exact law.familyPart f locale n
  | given f o locale besideFamily n => exact law.givenPart f o locale besideFamily n
  | name f o locale inverted n => exact law.writeName f o locale inverted n
  | names f inherited locale names => exact law.writeNames f trivial inherited locale names
  | nameList s f name p => exact law.gives_renderList f trivial s name p
  | nameLists s f names p => exact law.gives_renderNamesContent f trivial s names p
  | item s depth elements p mem =>
    exact law.gives_piecesOf (calls s depth) s elements (fun _ _ => trivial) p _ mem
  | substitute s depth elements p =>
    exact law.gives_firstFilled (calls s depth) s elements (fun _ _ => trivial) p
  | elements s depth elements p =>
    exact law.gives_renderWithin (fun _ _ _ _ => trivial) depth (fun _ _ => trivial) p
  | joined delimiter _ ih => exact law.joinFilled delimiter ih
  | stage locale d stage _ ih => exact stages locale d stage ih

theorem noEmptyText (h : Handed b) : b.NoEmptyText :=
  h.holds Buffer.noEmptyText_law Buffer.noEmptyText_ofText
    fun locale d stage _ hb => hb.applyStage locale d stage

end Handed

/-! ## Outputs of a session -/

namespace Session

/-- The outputs that a session puts together on their own and hands on, one constructor for each
place where rendering opens an output and closes it again, with macros called to some depth. -/
inductive HandsOn (depth : Nat) (session : Session) : Buffer → Prop
  /-- What a text comes from. -/
  | source (source : TextSource) : HandsOn depth session
      (inChild (TextElement.sourceInto (Element.callInto depth) source) session).1
  /-- The names of one variable with their label. -/
  | nameList (f : NamesFormat) (name : String) (names : List Name) : HandsOn depth session
      (inChild (do
        output (f.renderLabel · true name)
        let s := (← get).topSetting
        emit (f.name.write s.nameOptions s.locale names)
        output (f.renderLabel · false name)) session).1
  | nameLists (f : NamesFormat) (names : List String) : HandsOn depth session
      (inChild (f.contentInto names) session).1
  /-- Names, or what stands in for them. -/
  | namesOrElse (f : NamesFormat) (names : List String) (substitute : List Element) :
      HandsOn depth session
        (inChild (do
          decorated f.decoration (f.contentInto names)
          if ← isBlank then Element.firstFilledInto (Element.callInto depth) substitute)
          session).1
  /-- The items of a group. -/
  | items (delimiter : String) (elements : List Element) : HandsOn depth session
      (inChild (Element.itemsInto (Element.callInto depth) delimiter elements) session).1
  /-- A group, of which nothing is left if all that it looks up is absent. -/
  | group (delimiter : String) (elements : List Element) : HandsOn depth session
      (inChild (do
        let (heard, items) ← hearing (.counting 0 0)
          (inChild (Element.itemsInto (Element.callInto depth) delimiter elements))
        if heard.allEmpty then return () else emit items) session).1
  /-- An item of a group, or an element that may stand in for names. -/
  | element (e : Element) : HandsOn depth session
      (inChild (Element.renderInto (Element.callInto depth) e) session).1
  /-- The elements of a macro or of a layout, or one element on its own. -/
  | elements (elements : List Element) : HandsOn depth session
      (inChild (renderEach depth elements) session).1

theorem inChild_renderEach (depth : Nat) (elements : List Element) (session : Session) :
    (inChild (renderEach depth elements) session).1 =
      (Element.renderWithin session.topSetting depth elements session.pass).1 := by
  rw [renderEach_eq, inChild_output, perform_apply]

/-- What one element adds to an output of its own is handed on. -/
theorem handed_renderInto (depth : Nat) (e : Element) (session : Session) :
    Handed (inChild (Element.renderInto (Element.callInto depth) e) session).1 := by
  have alone : renderEach depth [e] = Element.renderInto (Element.callInto depth) e := rfl
  rw [← alone, inChild_renderEach]
  exact .elements session.topSetting depth [e] session.pass

theorem handed_renderLabel (f : NamesFormat) (s : Setting) (first : Bool) (name : String)
    (p : Pass) : Handed (f.renderLabel s first name p).1 := by
  have none : Handed [] := .text .plain ""
  unfold NamesFormat.renderLabel
  cases f.label with
  | none => exact none
  | some l =>
    dsimp only
    split
    · exact .label s l name 0 p
    · exact none

/-- What a session hands on is an output that one step of rendering hands to the next. -/
theorem HandsOn.handed {depth : Nat} {session : Session} {b : Buffer}
    (h : session.HandsOn depth b) : Handed b := by
  have same := Element.callInto_eq depth
  cases h with
  | source source =>
    rw [Element.sourceInto_eq same, inChild_output]
    exact .source session.topSetting depth source session.pass
  | nameList f name names =>
    rw [NamesFormat.inChild_list, perform_apply]
    simp only [bind_apply, pure_apply]
    refine Handed.append (.append (handed_renderLabel ..) ?_) (handed_renderLabel ..)
    exact .names f.name session.topSetting.nameOptions session.topSetting.locale names
  | nameLists f names =>
    rw [NamesFormat.inChild_contentInto]
    exact .nameLists session.topSetting f names session.pass
  | namesOrElse f names substitute =>
    rw [decorated_perform f.decoration (f.inChild_contentInto names),
      Element.firstFilledInto_eq same substitute, inChild_orElse, perform_apply]
    simp only [bind_apply, map_apply]
    split
    · exact .substitute session.topSetting depth substitute _
    · exact (Handed.nameLists session.topSetting f names session.pass).apply _ f.decoration
  | items delimiter elements =>
    rw [Element.itemsInto_eq same, inChild_outputItems, perform_apply]
    dsimp only
    rw [map_apply]
    exact .joined delimiter fun b mem => .item session.topSetting depth elements session.pass mem
  | group delimiter elements =>
    rw [Element.itemsInto_eq same, inChild_outputItems]
    simp only [emit_unless]
    rw [hearing_output, inChild_output, perform_apply]
    simp only [listening_map, bind_apply, map_apply, pure_apply]
    split
    · exact .text .plain ""
    · exact .joined delimiter fun b mem => .item session.topSetting depth elements session.pass mem
  | element e => exact handed_renderInto depth e session
  | elements elements =>
    rw [inChild_renderEach]
    exact .elements session.topSetting depth elements session.pass

/-- From one session to another, only an output with a property was added on top. -/
def Adds (P : Buffer → Prop) (before after : Session) : Prop :=
  ∃ added, P added ∧ after.top.output = before.top.output ++ added ∧ after.below = before.below

/-- What is rendered in place is added as it would be handed on. -/
theorem adds_renderEach (depth : Nat) (elements : List Element) (session : Session) :
    session.Adds Handed (renderEach depth elements session).2 := by
  rw [renderEach_eq, output_apply]
  exact ⟨_, .elements session.topSetting depth elements session.pass, rfl, rfl⟩

theorem Adds.imp {P Q : Buffer → Prop} {before after : Session} (h : before.Adds P after)
    (imp : ∀ {b}, P b → Q b) : before.Adds Q after := by
  obtain ⟨added, has, output, below⟩ := h
  exact ⟨added, imp has, output, below⟩

end Session

/-! ## Whole outputs -/

namespace Style

theorem handed_renderBody (style : Style) (layout : Layout) (locale : Locale) (record : Record)
    (cite : Cite) (readers : DateReaders) :
    Handed (style.renderBody layout locale record cite readers).1 :=
  .elements _ _ layout.elements _

theorem handed_renderIn (style : Style) (layout : Layout) (locale : Locale) (record : Record)
    (cite : Cite) (readers : DateReaders) :
    Handed (style.renderIn layout locale record cite readers).1 :=
  (style.handed_renderBody layout locale record cite readers).apply locale layout.decoration

theorem handed_renderBodies (style : Style) (locale : Locale) (cites : List (Record × Cite))
    (readers : DateReaders) : ∀ b ∈ (style.renderBodies locale cites readers).1, Handed b := by
  induction cites generalizing readers with
  | nil =>
    intro b mem
    exact absurd mem List.not_mem_nil
  | cons cited rest ih =>
    intro b mem
    rcases List.mem_cons.mp mem with rfl | mem
    · exact style.handed_renderBody style.citation locale cited.1 cited.2 readers
    · exact ih _ b mem

theorem handed_renderEntry (style : Style) (locale : Locale) (record : Record)
    (readers : DateReaders) : Handed (style.renderEntry locale record readers).1 := by
  unfold renderEntry
  cases style.bibliography with
  | none => exact .text .plain ""
  | some layout => exact style.handed_renderIn layout locale record {} readers

theorem handed_renderCitation (style : Style) (locale : Locale) (cites : List (Record × Cite))
    (readers : DateReaders) : Handed (style.renderCitation locale cites readers).1 :=
  (Handed.joined _ (style.handed_renderBodies locale cites readers)).apply locale
    style.citation.decoration

/-- Neither the outputs of a style nor any that is handed on meanwhile hold an empty text. In a
session no output that is put together on its own holds one, and none is added in place. -/
theorem render_noEmptyText (style : Style) (locale : Locale) (readers : DateReaders) :
    (∀ record cite, (style.renderCite locale record cite readers).1.NoEmptyText) ∧
    (∀ record, (style.renderEntry locale record readers).1.NoEmptyText) ∧
    (∀ cites, (style.renderCitation locale cites readers).1.NoEmptyText) ∧
    (∀ b, Handed b → b.NoEmptyText) ∧
    (∀ depth (session : Session) b, session.HandsOn depth b → b.NoEmptyText) ∧
    ∀ depth elements (session : Session),
      session.Adds Buffer.NoEmptyText (Session.renderEach depth elements session).2 := by
  refine ⟨fun record cite => ?_, fun record => ?_, fun cites => ?_, fun b => Handed.noEmptyText,
    fun depth session b own => own.handed.noEmptyText, fun depth elements session => ?_⟩
  · exact (style.handed_renderIn style.citation locale record cite readers).noEmptyText
  · exact (style.handed_renderEntry locale record readers).noEmptyText
  · exact (style.handed_renderCitation locale cites readers).noEmptyText
  · exact (session.adds_renderEach depth elements).imp Handed.noEmptyText

end Style

end CiteStyle
