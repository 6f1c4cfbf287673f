-- How deep macros call each other while a style renders. An element calls no
-- macros but those that stand in it, and heights fall along calls, so that of
-- an accepted style every call finds its macro and none lies too deep: the
-- bound on the depth of calls makes no difference.
import CiteStyle.Proofs.CheckedSteps
import CiteStyle.Proofs.MacroCheck
import CiteStyle.Proofs.StepRelations
import CiteStyle.Render.Style
import Mathlib

namespace CiteStyle

open Rendering

/-! ## Only the macros that stand in an element are called -/

namespace Element

variable {call call' : String → Rendering Buffer}

mutual
theorem pieces_congr (s : Setting) (e : Element) (same : ∀ name ∈ e.calls, call name = call' name) :
    e.pieces call s = e.pieces call' s := by
  cases e with
  | text e =>
    obtain ⟨source, decoration⟩ := e
    cases source with
    | call name =>
      have eq := same name (by simp [calls])
      simp only [pieces, TextElement.render, TextElement.renderSource, eq]
    | _ => rfl
  | names subjects format substitute =>
    rw [calls] at same
    simp only [pieces, firstFilled_congr s substitute same]
  | group delimiter decoration children =>
    rw [calls] at same
    simp only [pieces, piecesOf_congr s children same]
  | choose branches =>
    rw [calls] at same
    simp only [pieces, branchPieces_congr s branches same]
  | _ => rfl

theorem piecesOf_congr (s : Setting) (es : List Element)
    (same : ∀ name ∈ callsOf es, call name = call' name) :
    piecesOf call s es = piecesOf call' s es := by
  cases es with
  | nil => rfl
  | cons e rest =>
    rw [callsOf] at same
    have first := pieces_congr s e fun name mem => same name (List.mem_append_left _ mem)
    have others := piecesOf_congr s rest fun name mem => same name (List.mem_append_right _ mem)
    simp only [piecesOf, first, others]

theorem branchPieces_congr (s : Setting) (bs : List Branch)
    (same : ∀ name ∈ branchCalls bs, call name = call' name) :
    branchPieces call s bs = branchPieces call' s bs := by
  match bs with
  | [] => rfl
  | .mk condition children :: rest =>
    rw [branchCalls] at same
    have first := piecesOf_congr s children fun name mem => same name (List.mem_append_left _ mem)
    have others := branchPieces_congr s rest fun name mem => same name (List.mem_append_right _ mem)
    simp only [branchPieces, first, others]

theorem firstFilled_congr (s : Setting) (es : List Element)
    (same : ∀ name ∈ callsOf es, call name = call' name) :
    firstFilled call s es = firstFilled call' s es := by
  cases es with
  | nil => rfl
  | cons e rest =>
    rw [callsOf] at same
    have first := pieces_congr s e fun name mem => same name (List.mem_append_left _ mem)
    have others := firstFilled_congr s rest fun name mem => same name (List.mem_append_right _ mem)
    simp only [firstFilled, first, others]
end

end Element

/-! ## Calls without a bound -/

/-- Ways to render macros, one for each depth, of which the one at a depth gives for each macro
what its elements give one level down. -/
def Descends (s : Setting) (calls : Nat → String → Rendering Buffer) : Prop :=
  ∀ depth name children, s.macros.lookup name = some children →
    calls (depth + 1) name = List.flatten <$> Element.piecesOf (calls depth) s children

/-- A way to render macros that gives for each macro what its elements give, however deep the
calls lie. -/
def Unbounded (s : Setting) (call : String → Rendering Buffer) : Prop :=
  Descends s fun _ => call

theorem descends_renderCall (s : Setting) (more : Nat) :
    Descends s fun depth => Element.renderCall s (depth + more) := by
  intro depth name children found
  dsimp only
  rw [Nat.add_right_comm, Element.renderCall, found]

namespace Macros

variable {macros : Macros} {limit : Nat} {layoutCalls : List String} {known : Heights}

/-- A macro of a known height is defined, and what it calls is lower. -/
theorem Checked.lookup (checked : Checked macros limit layoutCalls known) {name : String} {h : Nat}
    (look : known.lookup name = some h) :
    ∃ children, macros.lookup name = some children ∧
      ∀ callee ∈ Element.callsOf children,
        ∃ below, known.lookup callee = some below ∧ below < h := by
  obtain ⟨rest, chain, _⟩ := checked.sound.reached look
  obtain ⟨children, found⟩ := Option.isSome_iff_exists.mp (chain.defined name (by simp))
  exact ⟨children, found, fun _ mem => checked.sound.lower look ⟨children, found, mem⟩⟩

theorem Checked.height_pos (checked : Checked macros limit layoutCalls known) {name : String}
    {h : Nat} (look : known.lookup name = some h) : 0 < h := by
  obtain ⟨rest, _, length⟩ := checked.sound.reached look
  simp only [List.length_cons] at length
  omega

/-- A macro within the depth that is left calls nothing in vain. -/
theorem Checked.renderCall_keeps (checked : Checked macros limit layoutCalls known) {s : Setting}
    (of : s.macros = macros) {R : Pass → Pass → Prop} (step : StepRelation R) (depth : Nat) :
    ∀ (name : String) (h : Nat), known.lookup name = some h → h ≤ depth →
      Keeps R (Element.renderCall s depth name) := by
  induction depth with
  | zero =>
    intro name h look le
    have := checked.height_pos look
    omega
  | succ depth ih =>
    intro name h look le
    obtain ⟨children, found, lower⟩ := checked.lookup look
    rw [Element.renderCall, of, found]
    refine step.keeps_map _ (step.keeps_piecesOf s children fun callee mem => ?_)
    obtain ⟨below, hb, lt⟩ := lower callee mem
    exact ih callee below hb (by omega)

/-- Within the depth that is left, all ways to render macros give the same. -/
theorem Checked.descends_eq (checked : Checked macros limit layoutCalls known) {s : Setting}
    (of : s.macros = macros) {calls calls' : Nat → String → Rendering Buffer}
    (down : Descends s calls) (down' : Descends s calls') (depth : Nat) :
    ∀ (name : String) (h : Nat), known.lookup name = some h → h ≤ depth →
      calls depth name = calls' depth name := by
  induction depth with
  | zero =>
    intro name h look le
    have := checked.height_pos look
    omega
  | succ depth ih =>
    intro name h look le
    obtain ⟨children, found, lower⟩ := checked.lookup look
    rw [down depth name children (by rw [of, found]), down' depth name children (by rw [of, found])]
    have same : Element.piecesOf (calls depth) s children =
        Element.piecesOf (calls' depth) s children :=
      Element.piecesOf_congr s children fun callee mem => by
        obtain ⟨below, hb, lt⟩ := lower callee mem
        exact ih callee below hb (by omega)
    rw [same]

/-- More depth than the height of a macro makes no difference. -/
theorem Checked.renderCall_add (checked : Checked macros limit layoutCalls known) {s : Setting}
    (of : s.macros = macros) {depth more h : Nat} {name : String}
    (look : known.lookup name = some h) (le : h ≤ depth) :
    Element.renderCall s (depth + more) name = Element.renderCall s depth name :=
  checked.descends_eq of (descends_renderCall s more) (descends_renderCall s 0) depth name h look le

/-- With the depth that is checked, macros are rendered as without a bound. -/
theorem Checked.unbounded (checked : Checked macros limit layoutCalls known) {s : Setting}
    (of : s.macros = macros) : Unbounded s (Element.renderCall s limit) := by
  intro _ name children found
  rw [of] at found
  obtain ⟨h, look⟩ := checked.complete name (defines_of_lookup found)
  have le := checked.sound.bounded look
  obtain ⟨depth, rfl⟩ : ∃ depth, limit = depth + 1 := by
    have := checked.height_pos look
    exact ⟨limit - 1, by omega⟩
  dsimp only
  rw [Element.renderCall, of, found]
  have same : Element.piecesOf (Element.renderCall s depth) s children =
      Element.piecesOf (Element.renderCall s (depth + 1)) s children :=
    Element.piecesOf_congr s children fun callee mem => by
      obtain ⟨below, hb, lt⟩ := checked.sound.lower look ⟨children, found, mem⟩
      exact (checked.renderCall_add of hb (by omega)).symm
  simp only [same]

end Macros

/-! ## Accepted styles -/

namespace Style

variable {config : Config} {root : Xml.Element} {style : Style}

theorem unchecked_callDepth (h : unchecked config root = .ok style) :
    style.callDepth = config.callDepth := by
  obtain ⟨found, _, h⟩ := except_bind_ok h
  split at h
  · cases h
  · obtain ⟨rangeFormat, _, h⟩ := except_bind_ok h
    obtain ⟨nameOptions, _, h⟩ := except_bind_ok h
    cases h
    rfl

/-- A style that is accepted has passed the check of its macros. -/
theorem ofXml_ok (h : ofXml config root = .ok style) :
    style.callDepth = config.callDepth ∧
      style.macros.check config.callDepth style.layoutCalls = .ok () := by
  obtain ⟨style', read, h⟩ := except_bind_ok h
  obtain ⟨⟨⟩, check, h⟩ := except_bind_ok h
  cases h
  have depth := unchecked_callDepth read
  exact ⟨depth, depth ▸ check⟩

theorem ofXml_checked (h : ofXml config root = .ok style) :
    ∃ known, style.macros.Checked config.callDepth style.layoutCalls known := by
  have finds := Macros.check_finds style.macros config.callDepth style.layoutCalls
  rw [(ofXml_ok h).2] at finds
  exact finds

/-- The macros that an element of a layout calls have heights within the depth of calls. -/
theorem height_of_mem_calls {known : Macros.Heights}
    (checked : style.macros.Checked config.callDepth style.layoutCalls known) {layout : Layout}
    (used : layout ∈ style.layouts) {name : String} (mem : name ∈ Element.callsOf layout.elements) :
    ∃ h, known.lookup name = some h ∧ h ≤ config.callDepth := by
  have called : name ∈ style.layoutCalls := List.mem_flatMap.mpr ⟨layout, used, mem⟩
  obtain ⟨h, look⟩ := checked.complete name (checked.layouts name called)
  exact ⟨h, look, checked.sound.bounded look⟩

/-- Of an accepted style, every pass over one of its layouts ends, finds each macro that it calls,
and never has more calls open than the settings allow: no call is in vain, and one that is in
vain is never forgotten. So macros are rendered as without a bound, and there is just one way to
do so. Citations, cites and entries are made of such passes. -/
theorem renderPass_calls (accepted : ofXml config root = .ok style) {layout : Layout}
    (used : layout ∈ style.layouts) (locale : Locale) (record : Record) (cite : Cite) :
    let s := style.setting layout record locale cite
    s.callDepth = config.callDepth ∧
      (∀ p, (style.renderPass layout locale record cite p).2.2.missedCalls = p.missedCalls) ∧
      (∀ depth elements p, p.missedCalls <+:
        (Element.piecesOf (Element.renderCall s depth) s elements p).2.2.missedCalls) ∧
      Unbounded s (Element.renderCall s config.callDepth) ∧
      ∀ call, Unbounded s call → style.renderPass layout locale record cite =
        List.flatten <$> Element.piecesOf call s layout.elements := by
  obtain ⟨known, checked⟩ := ofXml_checked accepted
  intro s
  have depth : s.callDepth = config.callDepth := (ofXml_ok accepted).1
  have whole : style.renderPass layout locale record cite =
      List.flatten <$> Element.piecesOf (Element.renderCall s config.callDepth) s
        layout.elements := by
    rw [← depth]
    rfl
  refine ⟨depth, ?_, ?_, checked.unbounded rfl, ?_⟩
  · rw [whole]
    refine step_missedCalls.keeps_map _ (step_missedCalls.keeps_piecesOf s _ fun name mem => ?_)
    obtain ⟨h, look, le⟩ := height_of_mem_calls checked used mem
    exact checked.renderCall_keeps rfl step_missedCalls config.callDepth name h look le
  · intro depth elements
    refine step_missedCalls_prefix.keeps_piecesOf s elements fun name _ => ?_
    exact step_missedCalls_prefix.keeps_renderCall
      (fun name p => List.prefix_append p.missedCalls [name]) s depth name
  · intro call unbounded
    have same := Element.piecesOf_congr s layout.elements fun name mem => by
      obtain ⟨h, look, le⟩ := height_of_mem_calls checked used mem
      exact checked.descends_eq rfl (descends_renderCall s 0) unbounded config.callDepth name h
        look le
    rw [whole, ← same]
    rfl

/-- A style whose names are replaced by a macro, in a macro that the layout calls. -/
def nestedCalls : Xml.Element :=
  ⟨"style", [], none, [
    ⟨"macro", [("name", "title")], none, [⟨"text", [("variable", "title")], none, []⟩]⟩,
    ⟨"macro", [("name", "author")], none, [⟨"names", [("variable", "author")], none,
      [⟨"substitute", [], none, [⟨"text", [("macro", "title")], none, []⟩]⟩]⟩]⟩,
    ⟨"citation", [], none, [⟨"layout", [], none, [⟨"text", [("macro", "author")], none, []⟩]⟩]⟩]⟩

/-- The style that is read from it. -/
def nestedStyle : Style where
  macros := [("title", [.text ⟨.ofVariable "title" false, {}⟩]),
    ("author", [.names ["author"] ⟨{}, none, false, "", {}⟩ [.text ⟨.call "title", {}⟩]])]
  citation := { elements := [.text ⟨.call "author", {}⟩] }
  callDepth := 2

theorem renderPass_calls_nested :
    ofXml { callDepth := 2 } nestedCalls = .ok nestedStyle ∧
      nestedStyle.citation ∈ nestedStyle.layouts ∧
      (nestedStyle.renderPass nestedStyle.citation Locale.english
        { texts := [("title", "Beowulf")] } {} {}).2.2.missedCalls = [] := by
  have accepted : ofXml { callDepth := 2 } nestedCalls = .ok nestedStyle := by cbv
  have used : nestedStyle.citation ∈ nestedStyle.layouts := List.mem_cons_self
  exact ⟨accepted, used, (renderPass_calls accepted used Locale.english
    { texts := [("title", "Beowulf")] } {}).2.1 {}⟩

end Style

end CiteStyle
