-- Rendering in place is rendering. What an element adds to the output on top
-- of a session is what it gives on its own: the output that stands there
-- already is never looked at, and no listener stays behind. The proofs bring
-- all work in place to one form, a step of the pass whose result is then added
-- to the output on top.
import CiteStyle.Proofs.CallDepth
import CiteStyle.Proofs.SessionSteps

namespace CiteStyle

open Rendering Session

/-! ## Names -/

namespace NamesFormat

/-- The names of one variable are put together in an output of their own. -/
theorem inChild_list (f : NamesFormat) (name : String) (names : List Name) :
    inChild (do
        output (f.renderLabel · true name)
        let s := (← get).topSetting
        emit (f.name.write s.nameOptions s.locale names)
        output (f.renderLabel · false name)) =
      perform fun s => do
        let before ← f.renderLabel s true name
        let after ← f.renderLabel s false name
        return before ++ f.name.write s.nameOptions s.locale names ++ after := by
  let writing (s : Setting) := f.name.write s.nameOptions s.locale names
  calc inChild _
    _ = inChild (do
          output (f.renderLabel · true name)
          (do emit (writing (← get).topSetting))
          output (f.renderLabel · false name)) := rfl
    _ = perform fun s => do
          let before ← f.renderLabel s true name
          let after ← f.renderLabel s false name
          return before ++ writing s ++ after := by
        rw [emit_setting, output_append, output_append, inChild_output]
        simp only [pure_bind, bind_assoc, List.append_assoc]

theorem listInto_eq (f : NamesFormat) (name : String) :
    f.listInto name =
      outputItems f.delimiter fun s => (fun b => [b]) <$> f.renderList s name := by
  unfold listInto renderList
  simp only [inChild_list, emitItem_perform, map_bind]
  rw [← perform_outputItems]
  refine bind_congr fun names => ?_
  cases names with
  | none =>
    simp only [map_pure]
    exact (editBy_pure (fun items b => items.foldl (Buffer.appendItem f.delimiter) b)
      fun _ => [[]]).symm
  | some names => simp only [map_bind]

theorem listsInto_eq (f : NamesFormat) (names : List String) :
    f.listsInto names = outputItems f.delimiter (f.renderLists · names) := by
  induction names with
  | nil => exact (outputItems_nil f.delimiter).symm
  | cons name rest ih =>
    rw [listsInto, ih, listInto_eq, outputItems_append]
    simp only [renderLists, map_eq_pure_bind, bind_assoc, pure_bind, List.singleton_append]

theorem inChild_contentInto (f : NamesFormat) (names : List String) :
    inChild (f.contentInto names) = perform (f.renderContent · names) := by
  have counted : (do emit (writeCount (← perform (f.countNames · names)))) =
      output fun s => writeCount <$> f.countNames s names :=
    (editBy_map (fun added b => b ++ added) writeCount (f.countNames · names)).symm
  have listed : inChild (f.listsInto names) =
      perform fun s => Buffer.joinFilled f.delimiter <$> f.renderLists s names := by
    rw [listsInto_eq, inChild_outputItems]
  unfold contentInto renderContent
  rcases f.name.form with _ | _ | _
  · exact listed
  · exact listed
  · rw [counted, inChild_output]

end NamesFormat

/-! ## Elements -/

theorem listening_map (f : α → β) (x : Rendering α) :
    listening (f <$> x) = (fun heard => (f heard.1, heard.2)) <$> listening x := by
  funext p
  simp only [listening, map_apply]

/-- In place and on their own, macros give the same. -/
def InPlace (call : String → StateM Session Unit) (alone : Setting → String → Rendering Buffer) :
    Prop :=
  ∀ name, call name = output fun s => alone s name

namespace Element

variable {call : String → StateM Session Unit} {alone : Setting → String → Rendering Buffer}

theorem sourceInto_eq (same : InPlace call alone) (source : TextSource) :
    TextElement.sourceInto call source =
      output fun s => TextElement.renderSource (alone s) s source := by
  cases source with
  | ofVariable name short =>
    unfold TextElement.sourceInto TextElement.renderSource
    rw [← perform_output]
    refine bind_congr fun text => ?_
    cases text with
    | none => exact output_nil.symm
    | some text => rfl
  | call name => exact same name
  | term name form plural =>
    exact emit_setting fun s => Buffer.ofText .plain ((s.locale.term? name form plural).getD "")
  | value text => exact emit_eq (Buffer.ofText .plain text)

/-- Apart from choices, an element is one piece. -/
theorem pieces_single (alone : String → Rendering Buffer) (s : Setting) (e : Element)
    (single : ∀ branches, e ≠ .choose branches) :
    (fun b => [b]) <$> List.flatten <$> e.pieces alone s = e.pieces alone s := by
  cases e with
  | choose branches => exact absurd rfl (single branches)
  | names subjects format substitute =>
    simp only [pieces, map_bind]
    refine bind_congr fun content => ?_
    split
    · simp only [map_bind, map_pure, List.flatten_singleton]
    · simp only [map_pure, List.flatten_singleton]
  | _ => simp only [pieces, map_bind, map_pure, List.flatten_singleton]

mutual
theorem renderInto_eq (same : InPlace call alone) (e : Element) :
    renderInto call e = output fun s => List.flatten <$> e.pieces (alone s) s := by
  cases e with
  | text e =>
    have within : inChild (TextElement.sourceInto call e.source) =
        perform fun s => TextElement.renderSource (alone s) s e.source := by
      rw [sourceInto_eq same, inChild_output]
    rw [renderInto, decorated_perform e.decoration within]
    simp only [pieces, TextElement.render, map_bind, map_pure, List.flatten_singleton,
      bind_pure]
  | number e | label e | date e =>
    simp only [renderInto, pieces, map_bind, map_pure, List.flatten_singleton, bind_pure]
  | names subjects format substitute =>
    have written := decorated_perform format.decoration (format.inChild_contentInto subjects)
    rw [renderInto, written, firstFilledInto_eq same substitute, inChild_orElse]
    show output _ = _
    simp only [pieces, NamesFormat.render, map_bind, apply_ite, map_pure, List.flatten_singleton,
      bind_pure]
  | group delimiter decoration children =>
    have within : inChild (itemsInto call delimiter children) = perform fun s =>
        Buffer.joinFilled delimiter <$> piecesOf (alone s) s children := by
      rw [itemsInto_eq same delimiter children, inChild_outputItems]
    have content := inChild_output fun s => do
      let (items, fetches) ← listening
        (Buffer.joinFilled delimiter <$> piecesOf (alone s) s children)
      return if ((Listener.counting 0 0).hearAll fetches).allEmpty then [] else items
    rw [renderInto, within]
    simp only [emit_unless]
    rw [hearing_output, decorated_perform decoration content]
    simp only [pieces, listening_map, Listener.allEmpty_hearAll, map_bind, map_pure,
      bind_map_left, List.flatten_singleton]
  | choose branches =>
    rw [renderInto, branchInto_eq same branches]
    simp only [pieces]

theorem eachInto_eq (same : InPlace call alone) (es : List Element) :
    eachInto call es = output fun s => List.flatten <$> piecesOf (alone s) s es := by
  cases es with
  | nil => exact output_nil.symm
  | cons e rest =>
    rw [eachInto, renderInto_eq same e, eachInto_eq same rest, output_append]
    simp only [piecesOf, map_eq_pure_bind, bind_assoc, pure_bind, List.flatten_append]

theorem itemsInto_eq (same : InPlace call alone) (delimiter : String) (es : List Element) :
    itemsInto call delimiter es = outputItems delimiter fun s => piecesOf (alone s) s es := by
  cases es with
  | nil => exact (outputItems_nil delimiter).symm
  | cons e rest =>
    have first : itemsInto call delimiter (e :: rest) = (do
        outputItems delimiter fun s => e.pieces (alone s) s
        itemsInto call delimiter rest) := by
      -- The elements of a choice are items themselves; anything else is one item.
      by_cases chosen : ∃ branches, e = .choose branches
      · obtain ⟨branches, rfl⟩ := chosen
        rw [itemsInto, branchItemsInto_eq same delimiter branches]
        simp only [pieces]
      · have single : ∀ branches, e ≠ .choose branches := fun branches h => chosen ⟨branches, h⟩
        rw [itemsInto, renderInto_eq same e, inChild_output, ← bind_assoc, emitItem_perform]
        · simp only [pieces_single _ _ e single]
        · exact single
    rw [first, itemsInto_eq same delimiter rest, outputItems_append]
    simp only [piecesOf]

theorem branchInto_eq (same : InPlace call alone) (bs : List Branch) :
    branchInto call bs = output fun s => List.flatten <$> branchPieces (alone s) s bs := by
  match bs with
  | [] => exact output_nil.symm
  | .mk condition children :: rest =>
    simp only [branchInto, branchPieces, map_bind]
    rw [eachInto_eq same children, branchInto_eq same rest, ← perform_output]
    refine bind_congr fun taken => ?_
    cases taken <;> rfl

theorem branchItemsInto_eq (same : InPlace call alone) (delimiter : String) (bs : List Branch) :
    branchItemsInto call delimiter bs =
      outputItems delimiter fun s => branchPieces (alone s) s bs := by
  match bs with
  | [] => exact (outputItems_nil delimiter).symm
  | .mk condition children :: rest =>
    simp only [branchItemsInto, branchPieces]
    rw [itemsInto_eq same delimiter children, branchItemsInto_eq same delimiter rest,
      ← perform_outputItems]
    refine bind_congr fun taken => ?_
    cases taken <;> rfl

theorem firstFilledInto_eq (same : InPlace call alone) (es : List Element) :
    firstFilledInto call es = output fun s => firstFilled (alone s) s es := by
  cases es with
  | nil => exact output_nil.symm
  | cons e rest =>
    -- Either the search goes on, or the names that were heard are suppressed.
    have found : ∀ heard : Listener × Buffer,
        (if heard.2.isEmpty then output fun s => firstFilled (alone s) s rest
          else output fun _ => do
            change (Pass.suppress heard.1.names)
            return heard.2) =
          output fun s =>
            if heard.2.isEmpty then firstFilled (alone s) s rest
            else do
              change (Pass.suppress heard.1.names)
              return heard.2 := by
      intro heard
      by_cases blank : heard.2.isEmpty
      · simp only [if_pos blank]
      · simp only [if_neg blank]
    rw [firstFilledInto, renderInto_eq same e, inChild_output, firstFilledInto_eq same rest]
    simp only [perform_emit, found]
    rw [hearing_output]
    simp only [firstFilled, listening_map, Listener.names_hearAll, bind_map_left]
end

theorem get_bind_apply (k : Session → StateM Session α) (session : Session) :
    (get >>= k) session = k session session := rfl

theorem callInto_eq (depth : Nat) :
    InPlace (callInto depth) fun s name => renderCall s depth name := by
  induction depth with
  | zero => exact fun _ => rfl
  | succ depth ih =>
    intro name
    funext session
    have top : session.topSetting.macros = session.setting.macros := rfl
    rw [callInto, get_bind_apply]
    cases found : session.setting.macros.lookup name with
    | none =>
      dsimp only
      refine output_congr ?_
      rw [renderCall, top, found]
    | some children =>
      dsimp only
      rw [eachInto_eq ih children]
      refine output_congr ?_
      rw [renderCall, top, found]

end Element

/-! ## Empty decorations -/

theorem Formatting.merge_unset (f : Formatting) : Formatting.unset.merge f = f := by
  unfold Formatting.merge Formatting.unset
  simp only [Option.or_none]

theorem Buffer.wrap_unset (b : Buffer) : b.wrap .unset = b := by
  unfold Buffer.wrap
  refine (List.map_congr_left fun t _ => ?_).trans (List.map_id b)
  cases t with
  | text kind s formatting => exact congrArg (Token.text kind s) formatting.merge_unset
  | displayStart display => rfl
  | displayEnd display => rfl

/-- A decoration in which nothing is set changes nothing. -/
theorem Decoration.apply_unset (locale : Locale) : Decoration.apply locale {} = id := by
  funext b
  have affixes : Affixes.apply {} b = b := by
    unfold Affixes.apply
    split
    · rfl
    · exact List.append_nil b
  show Affixes.apply {} (b.wrap .unset) = b
  rw [Buffer.wrap_unset, affixes]

/-! ## Sessions -/

namespace Session

theorem renderEach_eq (depth : Nat) (elements : List Element) :
    renderEach depth elements = output fun s => Element.renderWithin s depth elements :=
  Element.eachInto_eq (Element.callInto_eq depth) elements

/-- An element that is rendered on its own is rendered in place as well. -/
theorem render_eq (e : Element) (session : Session) :
    render e session =
      let effect := Element.render session.topSetting e session.pass
      (effect.1, session.appended effect) := by
  have within : inChild (renderEach session.setting.callDepth [e]) =
      perform fun s => Element.renderWithin s session.setting.callDepth [e] := by
    rw [renderEach_eq, inChild_output]
  show (do
    let b ← inChild (renderEach session.setting.callDepth [e])
    emit b
    return b) session = _
  rw [within]
  rfl

theorem renderEach_call (depth : Nat) (name : String) :
    renderEach depth [.text ⟨.call name, {}⟩] =
      output fun s => Element.renderCall s depth name := by
  rw [renderEach_eq]
  simp only [Element.renderWithin, Element.piecesOf, Element.pieces, TextElement.render,
    TextElement.renderSource, Decoration.apply_unset, id_map, pure_bind, map_bind, map_pure,
    List.append_nil, List.flatten_singleton, bind_pure]

/-- Nothing that is suppressed is forgotten, however deep macros may call each other. -/
theorem keeps_suppressed (s : Setting) (depth : Nat) (elements : List Element) :
    Keeps (fun p q => p.suppressed <+: q.suppressed) (Element.renderWithin s depth elements) :=
  step_suppressed.keeps_renderWithin (fun _ _ => List.prefix_rfl) s depth elements

/-- Rendering some elements in place only appends. What is added, what the listeners hear and what
the pass remembers afterwards go by the setting, the options of the names and the pass alone;
the listeners stay, and nothing that is suppressed is forgotten. So a text that only calls a macro
is no more than the elements of the macro, one level down, and in a style whose macros are
accepted also on the same level. -/
theorem renderEach_appends (depth : Nat) :
    (∀ (elements : List Element) (session : Session),
      let after := (renderEach depth elements session).2
      after = session.appended
          (Element.renderWithin session.topSetting depth elements session.pass) ∧
        after.listeners.map (·.dismissed) = session.listeners.map (·.dismissed) ∧
        session.pass.suppressed <+: after.pass.suppressed) ∧
    ∀ (session : Session) (name : String) (children : List Element),
      session.setting.macros.lookup name = some children →
        let call := Element.text ⟨.call name, {}⟩
        renderEach (depth + 1) [call] session = renderEach depth children session ∧
          ∀ layoutCalls, session.setting.macros.check depth layoutCalls = .ok () →
            renderEach depth [call] session = renderEach depth children session := by
  refine ⟨fun elements session => ?_, fun session name children found =>
    ⟨?_, fun layoutCalls ok => ?_⟩⟩
  · let effect := Element.renderWithin session.topSetting depth elements session.pass
    have after : (renderEach depth elements session).2 = session.appended effect := by
      rw [renderEach_eq]
      rfl
    have grows := keeps_suppressed session.topSetting depth elements session.pass
    simp only [after]
    exact ⟨rfl, dismissed_told session effect.2.1 effect.2.2, grows⟩
  · have top : session.topSetting.macros.lookup name = some children := found
    rw [renderEach_call, renderEach_eq]
    refine output_congr ?_
    rw [Element.renderCall, top]
    rfl
  · have finds := Macros.check_finds session.setting.macros depth layoutCalls
    rw [ok] at finds
    obtain ⟨known, checked⟩ := finds
    have unbounded : Unbounded session.topSetting (Element.renderCall session.topSetting depth) :=
      checked.unbounded rfl
    rw [renderEach_call, renderEach_eq]
    exact output_congr (unbounded 0 name children found)

/-- A session in a style whose names are replaced by a macro. -/
def nestedSession : Session where
  setting := { record := { texts := [("title", "Beowulf")] }
               locale := Locale.english
               macros := Style.nestedStyle.macros }

theorem renderEach_appends_nested :
    nestedSession.setting.macros.check 2 ["author"] = .ok () ∧
      renderEach 2 [.text ⟨.call "author", {}⟩] nestedSession =
        renderEach 2 [.names ["author"] ⟨{}, none, false, "", {}⟩ [.text ⟨.call "title", {}⟩]]
          nestedSession := by
  have ok : nestedSession.setting.macros.check 2 ["author"] = .ok () := by cbv
  exact ⟨ok, ((renderEach_appends 2).2 nestedSession "author" _ rfl).2 ["author"] ok⟩

end Session

end CiteStyle
