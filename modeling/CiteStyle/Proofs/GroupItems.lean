-- The items of groups and of names, and the delimiters between them. In place every item is added
-- to what is there so far, behind a delimiter if neither is empty, and a choice adds the elements
-- of its branch as items of the group around it. So what is collected is joined from the outputs
-- of the items alone, and a choice can be replaced by the branch that it takes when it is reached.
import CiteStyle.Proofs.Citations
import CiteStyle.Proofs.Substitutes

namespace CiteStyle

open Rendering Session

namespace Element

variable (call : String → Rendering Buffer) (s : Setting)

/-! ## Items -/

/-- An element that is an item of the group that it stands in. -/
def IsItem (e : Element) : Prop := ∀ branches, e ≠ .choose branches

mutual
/-- The items that an element stands for when it is reached in a pass: a choice for those of the
branch that it takes, any other element for itself. -/
def items : Element → Pass → List Element
  | .choose branches, p => branchItems branches p
  | e, _ => [e]

/-- The items that some elements stand for, each in the pass that those in front of it leave. -/
def itemsOf : List Element → Pass → List Element
  | [], _ => []
  | e :: rest, p => items e p ++ itemsOf rest (pieces call s e p).2.2

/-- The items of the first branch whose condition holds. -/
def branchItems : List Branch → Pass → List Element
  | [], _ => []
  | .mk condition children :: rest, p =>
    if condition.all (·.holds s p.suppressed) then itemsOf children p else branchItems rest p
end

theorem items_of_isItem {e : Element} (single : e.IsItem) (p : Pass) : items call s e p = [e] := by
  cases e with
  | choose branches => exact absurd rfl (single branches)
  | _ => rfl

mutual
theorem isItem_items (e : Element) (p : Pass) : ∀ item ∈ items call s e p, item.IsItem := by
  by_cases chosen : ∃ branches, e = .choose branches
  · obtain ⟨branches, rfl⟩ := chosen
    rw [items]
    exact isItem_branchItems branches p
  · have single : e.IsItem := not_exists.mp chosen
    rwa [items_of_isItem call s single p, List.forall_mem_singleton]

theorem isItem_itemsOf (es : List Element) (p : Pass) :
    ∀ item ∈ itemsOf call s es p, item.IsItem := by
  cases es with
  | nil => simp [itemsOf]
  | cons e rest =>
    rw [itemsOf, List.forall_mem_append]
    exact ⟨isItem_items e p, isItem_itemsOf rest _⟩

theorem isItem_branchItems (bs : List Branch) (p : Pass) :
    ∀ item ∈ branchItems call s bs p, item.IsItem := by
  match bs with
  | [] => simp [branchItems]
  | .mk condition children :: rest =>
    rw [branchItems]
    split
    · exact isItem_itemsOf children p
    · exact isItem_branchItems rest p
end

/-! ## Branches in the place of choices -/

mutual
theorem pieces_items (e : Element) (p : Pass) :
    piecesOf call s (items call s e p) p = pieces call s e p := by
  by_cases chosen : ∃ branches, e = .choose branches
  · obtain ⟨branches, rfl⟩ := chosen
    rw [items, pieces]
    exact branchPieces_items branches p
  · have single : e.IsItem := not_exists.mp chosen
    rw [items_of_isItem call s single p, piecesOf_singleton]

/-- The items give the same output, tell the same and leave the same as the elements. -/
theorem piecesOf_items (es : List Element) (p : Pass) :
    piecesOf call s (itemsOf call s es p) p = piecesOf call s es p := by
  cases es with
  | nil => rfl
  | cons e rest =>
    have whole := piecesOf_append_apply call s [e] rest p
    rw [List.singleton_append, piecesOf_singleton] at whole
    rw [itemsOf, piecesOf_append_apply, pieces_items e p, whole]
    simp only [piecesOf_items rest]

theorem branchPieces_items (bs : List Branch) (p : Pass) :
    piecesOf call s (branchItems call s bs p) p = branchPieces call s bs p := by
  match bs with
  | [] => rfl
  | .mk condition children :: rest =>
    have taken : takes s condition p = (condition.all (·.holds s p.suppressed), [], p) := rfl
    simp only [branchItems, branchPieces, bind_apply, taken, List.nil_append]
    split
    · exact piecesOf_items children p
    · exact branchPieces_items rest p
end

/-! ## Items alone -/

/-- Items give one output each. -/
theorem piecesOf_alone {es : List Element} (single : ∀ e ∈ es, e.IsItem) :
    piecesOf call s es = es.mapM fun e => List.flatten <$> pieces call s e := by
  induction es with
  | nil => rfl
  | cons e rest ih =>
    rw [List.forall_mem_cons] at single
    rw [piecesOf, ih single.2, List.mapM_cons, ← pieces_single call s e single.1]
    simp only [map_eq_pure_bind, bind_assoc, pure_bind, List.singleton_append,
      List.flatten_singleton]

variable (depth : Nat)

/-- What some elements give, each on its own in the pass that those in front of it leave. -/
def outputs (es : List Element) : Rendering (List Buffer) :=
  es.mapM fun e => renderWithin s depth [e]

theorem piecesOf_outputs (es : List Element) (p : Pass) :
    piecesOf (renderCall s depth) s es p =
      outputs s depth (itemsOf (renderCall s depth) s es p) p := by
  rw [← piecesOf_items, piecesOf_alone _ _ (isItem_itemsOf _ s es p)]
  simp only [outputs, renderWithin_single]

theorem renderWithin_group (delimiter : String) (d : Decoration) (children : List Element)
    (p : Pass) :
    renderWithin s depth [.group delimiter d children] p =
      let given := piecesOf (renderCall s depth) s children p
      (d.apply s.locale
        (if Fetch.allEmpty given.2.1 then [] else Buffer.joinFilled delimiter given.1), given.2) := by
  rw [renderWithin_single, pieces, map_apply]
  simp only [bind_apply, listening, pure_apply, List.flatten_singleton, List.append_nil]
  rfl

theorem renderWithin_names {subjects : List String} {f : NamesFormat} (substitute : List Element)
    {p : Pass} (filled : (f.render s subjects p).1 ≠ []) :
    renderWithin s depth [.names subjects f substitute] p = f.render s subjects p := by
  have some : ¬(f.render s subjects p).1.isEmpty = true := by simpa using filled
  rw [renderWithin_single, pieces, map_apply]
  simp only [bind_apply, if_neg some, pure_apply, List.flatten_singleton, List.append_nil]

end Element

namespace NamesFormat

theorem renderLists_eq (f : NamesFormat) (s : Setting) (names : List String) :
    f.renderLists s names = names.mapM (f.renderList s) := by
  induction names with
  | nil => rfl
  | cons name rest ih => rw [renderLists, ih, List.mapM_cons]

theorem renderContent_eq {f : NamesFormat} (listed : f.name.form ≠ .count) (s : Setting)
    (names : List String) :
    f.renderContent s names = Buffer.joinFilled f.delimiter <$> names.mapM (f.renderList s) := by
  rw [renderContent, renderLists_eq]
  split
  · contradiction
  · rfl

end NamesFormat

theorem Buffer.joinFilled_eq_intercalate (delimiter : String) (bs : List Buffer) :
    joinFilled delimiter bs = (ofText .delimiter delimiter).intercalate (bs.filter (!·.isEmpty)) :=
  joinWith_eq_intercalate delimiter _

/-! ## Groups and names in place -/

namespace Session

open Element

/-- Delimiters stand between the outputs that are not empty, one between two of them, and nowhere
else. The items of a group are its elements with every choice replaced by the elements of the branch
that it takes when it is reached, and a group of these items does just what the group does. Unless
all that was looked up is absent, the group gives what its items give, and names that are not just
counted give what each of their variables gives; their decoration comes last. -/
theorem renderEach_delimited (depth : Nat) (session : Session) :
    let s := session.topSetting
    (∀ (delimiter : String) (d : Decoration) (children : List Element),
      let items := itemsOf (renderCall s depth) s children session.pass
      let given := outputs s depth items session.pass
      let content := (Buffer.ofText .delimiter delimiter).intercalate
        (given.1.filter (!·.isEmpty))
      (∀ item ∈ items, item.IsItem) ∧
        renderEach depth [.group delimiter d children] session =
          renderEach depth [.group delimiter d items] session ∧
        (renderEach depth [.group delimiter d children] session).2 =
          session.appended
            (d.apply s.locale (if Fetch.allEmpty given.2.1 then [] else content), given.2)) ∧
    ∀ (f : NamesFormat) (subjects : List String), f.name.form ≠ .count →
      let given := subjects.mapM (f.renderList s) session.pass
      let content := (Buffer.ofText .delimiter f.delimiter).intercalate
        (given.1.filter (!·.isEmpty))
      let written := f.decoration.apply s.locale content
      inChild (f.contentInto subjects) session = (content, session.told given.2.1 given.2.2) ∧
        ∀ substitute, written ≠ [] →
          (renderEach depth [.names subjects f substitute] session).2 =
            session.appended (written, given.2) := by
  intro s
  refine ⟨fun delimiter d children => ?_, fun f subjects listed => ?_⟩
  · intro items given content
    have group (es : List Element) :
        renderEach depth [.group delimiter d es] session =
          ((), session.appended (renderWithin s depth [.group delimiter d es] session.pass)) := by
      rw [renderEach_eq]
      rfl
    have own : piecesOf (renderCall s depth) s children session.pass = given :=
      piecesOf_outputs s depth children session.pass
    have inlined : piecesOf (renderCall s depth) s items session.pass = given :=
      (piecesOf_items _ s children session.pass).trans own
    refine ⟨isItem_itemsOf _ s children session.pass, ?_, ?_⟩
    · rw [group, group, renderWithin_group, renderWithin_group, own, inlined]
    · simp only [group, renderWithin_group, own, Buffer.joinFilled_eq_intercalate]
      rfl
  · intro given content written
    have rendered : f.renderContent s subjects session.pass = (content, given.2) := by
      rw [NamesFormat.renderContent_eq listed, map_apply, Buffer.joinFilled_eq_intercalate]
    have inside : inChild (f.contentInto subjects) session =
        let given := f.renderContent s subjects session.pass
        (given.1, session.told given.2.1 given.2.2) := by
      rw [NamesFormat.inChild_contentInto]
      rfl
    refine ⟨by rw [inside, rendered], fun substitute filled => ?_⟩
    have decorated : f.render s subjects session.pass = (written, given.2) := by
      rw [NamesFormat.render, map_apply, rendered]
    rw [renderEach_eq, output_apply, renderWithin_names, decorated]
    rwa [decorated]

/-- A work with a title, an author and an editor. -/
def editedSession : Session where
  setting := { record := { texts := [("title", "Beowulf")]
                           names := [("author", [{ family := some "Doe" }]),
                                     ("editor", [{ family := some "Roe" }])] }
               locale := .english }

/-- Names in parentheses. -/
def inParentheses : NamesFormat :=
  ⟨{}, none, false, "; ", { affixes := { before := "(", behind := ")" } }⟩

/-- The title in the place of the translators, after which there is no title anymore. -/
def titleForTranslator : Element :=
  .names ["translator"] ⟨{}, none, false, "", {}⟩ [.text ⟨.ofVariable "title" false, {}⟩]

/-- A choice that asks for the title. -/
def titled (branch otherwise : List Element) : Element :=
  .choose [.mk (some ⟨[], ["title"], [], [], [], [], .all⟩) branch, .mk none otherwise]

theorem renderEach_delimited_edited :
    let absent : Element := .text ⟨.ofVariable "volume" false, {}⟩
    let year : Element := .text ⟨.value "1854", {}⟩
    let children := [titleForTranslator, absent, titled [absent] [titled [] [year]]]
    renderEach 1 [.group ", " {} children] editedSession =
        renderEach 1 [.group ", " {} [titleForTranslator, absent, year]] editedSession ∧
      inParentheses.name.form ≠ .count ∧
      (renderEach 1 [.names ["author", "translator", "editor"] inParentheses []]
          editedSession).2.top.output.plainText = "(Doe; Roe)" := by
  intro absent year children
  have items : Element.itemsOf (renderCall editedSession.topSetting 1) editedSession.topSetting
      children editedSession.pass = [titleForTranslator, absent, year] := by cbv
  obtain ⟨groups, names⟩ := renderEach_delimited 1 editedSession
  obtain ⟨-, inlined, -⟩ := groups ", " {} children
  rw [items] at inlined
  have listed : inParentheses.name.form ≠ .count := by decide
  have written := (names inParentheses ["author", "translator", "editor"] listed).2 []
    (by decide +kernel)
  exact ⟨inlined, listed, by rw [written]; decide +kernel⟩

end Session

end CiteStyle
