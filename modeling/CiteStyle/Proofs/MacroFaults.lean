-- What the faults of the macros say. The check goes by the calls that it has collected from the
-- elements. Here a call is one that stands somewhere within an element, and in these terms a fault
-- shows what is wrong: an undefined macro and where it is called, the macros of a circle one after
-- the other, or the depth that some chain of different macros exceeds.
import CiteStyle.Proofs.MacroCheck
import Mathlib

namespace CiteStyle

namespace Element

/-! ## Calls within elements -/

/-- An element calls a macro itself, or something within it does. -/
inductive HoldsCall (name : String) : Element → Prop
  | text (decoration : Decoration) : HoldsCall name (.text ⟨.call name, decoration⟩)
  | names {subjects : List String} {format : NamesFormat} {substitute : List Element}
      {e : Element} : e ∈ substitute → HoldsCall name e →
      HoldsCall name (.names subjects format substitute)
  | group {delimiter : String} {decoration : Decoration} {children : List Element}
      {e : Element} : e ∈ children → HoldsCall name e →
      HoldsCall name (.group delimiter decoration children)
  | choose {branches : List Branch} {condition : Option Condition} {children : List Element}
      {e : Element} : .mk condition children ∈ branches → e ∈ children → HoldsCall name e →
      HoldsCall name (.choose branches)

theorem mem_callsOf_of_mem {name : String} {e : Element} {es : List Element} (mem : e ∈ es)
    (call : name ∈ e.calls) : name ∈ callsOf es := by
  induction es with
  | nil => cases mem
  | cons first rest ih =>
    rw [callsOf, List.mem_append]
    rcases List.mem_cons.mp mem with rfl | mem
    · exact .inl call
    · exact .inr (ih mem)

theorem mem_branchCalls_of_mem {name : String} {condition : Option Condition}
    {children : List Element} {bs : List Branch} (mem : .mk condition children ∈ bs)
    (call : name ∈ callsOf children) : name ∈ branchCalls bs := by
  induction bs with
  | nil => cases mem
  | cons first rest ih =>
    obtain ⟨condition', children'⟩ := first
    rw [branchCalls, List.mem_append]
    rcases List.mem_cons.mp mem with same | mem
    · cases same
      exact .inl call
    · exact .inr (ih mem)

/-- No call within an element is missed. -/
theorem HoldsCall.mem_calls {name : String} {e : Element} (h : e.HoldsCall name) :
    name ∈ e.calls := by
  induction h with
  | text decoration => simp [calls]
  | names mem _ ih =>
    rw [calls]
    exact mem_callsOf_of_mem mem ih
  | group mem _ ih =>
    rw [calls]
    exact mem_callsOf_of_mem mem ih
  | choose taken mem _ ih =>
    rw [calls]
    exact mem_branchCalls_of_mem taken (mem_callsOf_of_mem mem ih)

mutual
theorem holdsCall_of_mem {name : String} (e : Element) (call : name ∈ e.calls) :
    e.HoldsCall name := by
  match e with
  | .text ⟨.call callee, decoration⟩ =>
    rw [calls, List.mem_singleton] at call
    exact call ▸ .text decoration
  | .names subjects format substitute =>
    rw [calls] at call
    obtain ⟨inner, mem, holds⟩ := exists_of_mem_callsOf substitute call
    exact .names mem holds
  | .group delimiter decoration children =>
    rw [calls] at call
    obtain ⟨inner, mem, holds⟩ := exists_of_mem_callsOf children call
    exact .group mem holds
  | .choose branches =>
    rw [calls] at call
    obtain ⟨condition, children, taken, inner, mem, holds⟩ := exists_of_mem_branchCalls branches call
    exact .choose taken mem holds
  | .text ⟨.ofVariable .., _⟩ | .text ⟨.term .., _⟩ | .text ⟨.value .., _⟩ | .number _ | .label _
  | .date _ => simp [calls] at call

theorem exists_of_mem_callsOf {name : String} (es : List Element) (call : name ∈ callsOf es) :
    ∃ e ∈ es, e.HoldsCall name := by
  match es with
  | [] => simp [callsOf] at call
  | e :: rest =>
    rw [callsOf, List.mem_append] at call
    rcases call with call | call
    · exact ⟨e, List.mem_cons_self, holdsCall_of_mem e call⟩
    · obtain ⟨inner, mem, holds⟩ := exists_of_mem_callsOf rest call
      exact ⟨inner, List.mem_cons_of_mem e mem, holds⟩

theorem exists_of_mem_branchCalls {name : String} (bs : List Branch)
    (call : name ∈ branchCalls bs) :
    ∃ condition children, .mk condition children ∈ bs ∧ ∃ e ∈ children, e.HoldsCall name := by
  match bs with
  | [] => simp [branchCalls] at call
  | .mk condition children :: rest =>
    rw [branchCalls, List.mem_append] at call
    rcases call with call | call
    · exact ⟨condition, children, List.mem_cons_self, exists_of_mem_callsOf children call⟩
    · obtain ⟨condition', children', mem, holds⟩ := exists_of_mem_branchCalls rest call
      exact ⟨condition', children', List.mem_cons_of_mem _ mem, holds⟩
end

/-- The calls that are collected from elements are those that they hold. -/
theorem mem_callsOf_iff {name : String} {es : List Element} :
    name ∈ callsOf es ↔ ∃ e ∈ es, e.HoldsCall name :=
  ⟨exists_of_mem_callsOf es, fun ⟨_, mem, holds⟩ => mem_callsOf_of_mem mem holds.mem_calls⟩

end Element

/-! ## Calls between macros -/

/-- A macro is defined, and an element of it holds a call of another, which need not be. -/
def Macros.HoldsCall (macros : Macros) (caller callee : String) : Prop :=
  ∃ children, macros.lookup caller = some children ∧ ∃ e ∈ children, e.HoldsCall callee

theorem Macros.calls_iff_holdsCall {macros : Macros} {caller callee : String} :
    macros.Calls caller callee ↔ macros.HoldsCall caller callee := by
  unfold Macros.Calls Macros.HoldsCall
  simp only [Element.mem_callsOf_iff]

theorem Macros.CallChain.holdsCall {macros : Macros} {chain : List String}
    (h : macros.CallChain chain) : chain.IsChain macros.HoldsCall :=
  h.linked.imp fun _ _ => calls_iff_holdsCall.mp

theorem Style.mem_layoutCalls_iff {style : Style} {name : String} :
    name ∈ style.layoutCalls ↔
      ∃ layout ∈ style.layouts, ∃ e ∈ layout.elements, e.HoldsCall name := by
  simp only [layoutCalls, Layout.calls, List.mem_flatMap, Element.mem_callsOf_iff]

/-! ## Faults -/

/-- A fault of the macros shows what is wrong with them. A macro that it calls unknown is called, in
a layout or in a macro, and is not defined. A circle has at least two macros, of which the first
comes again as the last and no other comes twice; all are defined and each calls the next. And if
calls go too deep, there is a chain of calls between different macros, all of them defined, that is
longer than the limit. -/
theorem Style.check_macros_fault {style : Style} {limit : Nat} {fault : StyleFault}
    (failed : style.macros.check limit style.layoutCalls = .error fault) :
    (∃ name, fault = .unknownMacro name ∧ style.macros.defines name = false ∧
      ((∃ layout ∈ style.layouts, ∃ e ∈ layout.elements, e.HoldsCall name) ∨
        ∃ caller, style.macros.HoldsCall caller name)) ∨
    (∃ circle, fault = .macroRecursion circle ∧ 2 ≤ circle.length ∧
      circle.head? = circle.getLast? ∧ circle.dropLast.Nodup ∧
      (∀ name ∈ circle, style.macros.defines name = true) ∧
      circle.IsChain style.macros.HoldsCall) ∨
    ∃ chain : List String, fault = .macroDepth limit ∧ limit < chain.length ∧ chain.Nodup ∧
      (∀ name ∈ chain, style.macros.defines name = true) ∧
      chain.IsChain style.macros.HoldsCall := by
  have found := Macros.check_finds style.macros limit style.layoutCalls
  rw [failed] at found
  cases fault with
  | unknownMacro name =>
    obtain ⟨undefined, called⟩ := found
    refine .inl ⟨name, rfl, undefined, called.imp Style.mem_layoutCalls_iff.mp ?_⟩
    rintro ⟨caller, call⟩
    exact ⟨caller, Macros.calls_iff_holdsCall.mp call⟩
  | macroRecursion circle =>
    obtain ⟨name, rest, rfl, nodup, chain⟩ := found
    refine .inr (.inl ⟨_, rfl, ?_, ?_, ?_, chain.defined, chain.holdsCall⟩)
    · simp
    · rw [List.getLast?_concat]
      rfl
    · rwa [List.dropLast_concat]
  | macroDepth depth =>
    obtain ⟨rfl, chain, chained, nodup, long⟩ := found
    exact .inr (.inr ⟨chain, rfl, long, nodup, chained.defined, chained.holdsCall⟩)
  | _ => exact found.elim

/-- A style in which two macros call each other, one within a choice and one in the place of
names, once another macro has been found to be harmless. -/
def circularStyle : Style where
  macros := [
    ("entry", [.text ⟨.call "title", {}⟩, .text ⟨.call "author", {}⟩]),
    ("title", [.text ⟨.ofVariable "title" false, {}⟩]),
    ("author", [.choose [.mk none [.text ⟨.call "title", {}⟩, .text ⟨.call "editor", {}⟩]]]),
    ("editor", [.names ["editor"] ⟨{}, none, false, "", {}⟩ [.text ⟨.call "author", {}⟩]])]
  citation := { elements := [.text ⟨.call "entry", {}⟩] }

theorem Style.check_macros_fault_circle :
    circularStyle.macros.check 32 circularStyle.layoutCalls =
      .error (.macroRecursion ["author", "editor", "author"]) ∧
    (∀ name ∈ ["author", "editor", "author"], circularStyle.macros.defines name = true) ∧
    ["author", "editor", "author"].IsChain circularStyle.macros.HoldsCall := by
  have failed : circularStyle.macros.check 32 circularStyle.layoutCalls =
      .error (.macroRecursion ["author", "editor", "author"]) := by cbv
  refine ⟨failed, ?_⟩
  rcases Style.check_macros_fault failed with ⟨_, other, _⟩ | ⟨circle, same, _, _, _, rest⟩ |
    ⟨_, other, _⟩
  · cases other
  · cases same
    exact rest
  · cases other

end CiteStyle
