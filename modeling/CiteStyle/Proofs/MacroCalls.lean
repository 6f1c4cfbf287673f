-- The laws of the calls between macros. A fault that the check of the macros
-- finds is there, and macros that pass it are defined, free of circles and
-- chained no deeper than the limit. The check remembers heights, and every
-- law below follows from what is true of the heights that it knows.
import CiteStyle.Style.Xml
import Mathlib.Data.List.Chain
import Mathlib.Logic.Relation

namespace CiteStyle

/-! ## Calls and chains of calls -/

namespace Macros

/-- A macro that is defined calls a macro, which need not be. -/
def Calls (macros : Macros) (caller callee : String) : Prop :=
  ∃ children, macros.lookup caller = some children ∧ callee ∈ Element.callsOf children

/-- Macros that are defined and of which each calls the next. -/
structure CallChain (macros : Macros) (chain : List String) : Prop where
  defined : ∀ name ∈ chain, macros.defines name = true
  linked : chain.IsChain macros.Calls

theorem defines_of_lookup {macros : Macros} {name : String} {children : List Element}
    (h : macros.lookup name = some children) : macros.defines name = true := by
  simp [defines, h]

theorem Calls.caller_defined {macros : Macros} {caller callee : String}
    (h : macros.Calls caller callee) : macros.defines caller = true := by
  obtain ⟨children, found, _⟩ := h
  exact defines_of_lookup found

theorem callChain_singleton {macros : Macros} {name : String} (h : macros.defines name = true) :
    macros.CallChain [name] :=
  ⟨by simpa using h, .singleton name⟩

theorem CallChain.cons {macros : Macros} {caller callee : String} {rest : List String}
    (call : macros.Calls caller callee) (h : macros.CallChain (callee :: rest)) :
    macros.CallChain (caller :: callee :: rest) := by
  refine ⟨?_, .cons_cons call h.linked⟩
  intro name mem
  rcases List.mem_cons.mp mem with rfl | mem
  · exact call.caller_defined
  · exact h.defined name mem

theorem CallChain.tail {macros : Macros} {name : String} {rest : List String}
    (h : macros.CallChain (name :: rest)) : macros.CallChain rest :=
  ⟨fun n mem => h.defined n (List.mem_cons_of_mem _ mem), h.linked.tail⟩

/-- Each macro of a chain calls those after it, directly or through others. -/
theorem CallChain.pairwise {macros : Macros} {chain : List String} (h : macros.CallChain chain) :
    chain.Pairwise (Relation.TransGen macros.Calls) := by
  have direct : chain.IsChain (Relation.TransGen macros.Calls) :=
    h.linked.imp fun _ _ call => .single call
  exact List.isChain_iff_pairwise.mp direct

/-- Macros of which each calls the next, from one macro back to itself, and otherwise all
different. -/
def CallCircle (macros : Macros) (circle : List String) : Prop :=
  ∃ name rest, circle = name :: rest ++ [name] ∧ (name :: rest).Nodup ∧ macros.CallChain circle

end Macros

/-- What a fault of the macros says of them is so. -/
def StyleFault.HoldsOf (macros : Macros) (limit : Nat) (layoutCalls : List String) :
    StyleFault → Prop
  | .unknownMacro name =>
    macros.defines name = false ∧ (name ∈ layoutCalls ∨ ∃ caller, macros.Calls caller name)
  | .macroRecursion circle => macros.CallCircle circle
  | .macroDepth depth =>
    depth = limit ∧ ∃ chain, macros.CallChain chain ∧ chain.Nodup ∧ limit < chain.length
  | _ => False

namespace Macros

variable {macros : Macros} {limit : Nat}

/-! ## The invariant of the known heights -/

/-- The known heights are right: a macro calls only macros of lower known heights, and its own
is the length of a chain that starts with it and within the limit. -/
structure Sound (macros : Macros) (limit : Nat) (known : Heights) : Prop where
  lower : ∀ {name height}, known.lookup name = some height → ∀ {callee}, macros.Calls name callee →
    ∃ below, known.lookup callee = some below ∧ below < height
  reached : ∀ {name height}, known.lookup name = some height →
    ∃ rest, macros.CallChain (name :: rest) ∧ (name :: rest).length = height
  bounded : ∀ {name height}, known.lookup name = some height → height ≤ limit

theorem sound_nil : Sound macros limit [] := by
  constructor <;> simp

/-- Along calls, heights fall. -/
theorem Sound.lower_trans {known : Heights} (sound : Sound macros limit known) {name later : String}
    {height : Nat} (h : known.lookup name = some height)
    (calls : Relation.TransGen macros.Calls name later) :
    ∃ below, known.lookup later = some below ∧ below < height := by
  induction calls with
  | single call => exact sound.lower h call
  | tail _ call ih =>
    obtain ⟨middle, hm, lt⟩ := ih
    obtain ⟨below, hb, lt'⟩ := sound.lower hm call
    exact ⟨below, hb, by omega⟩

/-- A macro of a known height never calls itself, not even through others. -/
theorem Sound.not_circular {known : Heights} (sound : Sound macros limit known) {name : String}
    {height : Nat} (h : known.lookup name = some height) :
    ¬ Relation.TransGen macros.Calls name name := by
  intro calls
  obtain ⟨below, hb, lt⟩ := sound.lower_trans h calls
  rw [h] at hb
  cases hb
  omega

/-- The height of a macro bounds the chains that start with it. -/
theorem Sound.length_le {known : Heights} (sound : Sound macros limit known) {rest : List String} :
    ∀ {name : String} {height : Nat}, known.lookup name = some height →
      macros.CallChain (name :: rest) → (name :: rest).length ≤ height := by
  induction rest with
  | nil =>
    intro name height h _
    obtain ⟨rest, _, length⟩ := sound.reached h
    simp only [List.length_cons, List.length_nil] at length ⊢
    omega
  | cons callee rest ih =>
    intro name height h chain
    obtain ⟨below, hb, lt⟩ := sound.lower h (List.isChain_cons_cons.mp chain.linked).1
    have := ih hb chain.tail
    simp only [List.length_cons] at this ⊢
    omega

/-- The macros of a chain that starts with a macro of a known height are known and all
different. -/
theorem Sound.chain_known {known : Heights} (sound : Sound macros limit known) {name : String}
    {rest : List String} {height : Nat} (h : known.lookup name = some height)
    (chain : macros.CallChain (name :: rest)) :
    (∀ n ∈ name :: rest, ∃ below, known.lookup n = some below) ∧ (name :: rest).Nodup := by
  have later := List.pairwise_cons.mp chain.pairwise
  have all : ∀ n ∈ name :: rest, ∃ below, known.lookup n = some below := by
    intro n mem
    rcases List.mem_cons.mp mem with rfl | mem
    · exact ⟨height, h⟩
    · obtain ⟨below, hb, _⟩ := sound.lower_trans h (later.1 n mem)
      exact ⟨below, hb⟩
  refine ⟨all, chain.pairwise.imp_of_mem ?_⟩
  rintro a b ha _ calls rfl
  obtain ⟨below, hb⟩ := all a ha
  exact sound.not_circular hb calls

/-! ## More heights become known -/

/-- Heights that were known stay known, and those of a chain are left alone. -/
structure Extends (chain : List String) (known known' : Heights) : Prop where
  kept : ∀ {name height}, known.lookup name = some height → known'.lookup name = some height
  untouched : ∀ name ∈ chain, known'.lookup name = known.lookup name

theorem extends_refl (chain : List String) (known : Heights) : Extends chain known known :=
  ⟨id, fun _ _ => rfl⟩

theorem Extends.trans {chain : List String} {known known' known'' : Heights}
    (h : Extends chain known known') (h' : Extends chain known' known'') :
    Extends chain known known'' :=
  ⟨fun look => h'.kept (h.kept look),
    fun name mem => (h'.untouched name mem).trans (h.untouched name mem)⟩

theorem lookup_snoc_of_some {known : Heights} {name other : String} {height height' : Nat}
    (h : known.lookup other = some height) :
    List.lookup other (known ++ [(name, height')]) = some height := by
  simp [List.lookup_append, h]

theorem lookup_snoc_self {known : Heights} {name : String} {height : Nat}
    (h : known.lookup name = none) :
    List.lookup name (known ++ [(name, height)]) = some height := by
  simp [List.lookup_append, h]

theorem lookup_snoc_of_ne {known : Heights} {name other : String} {height : Nat}
    (h : other ≠ name) :
    List.lookup other (known ++ [(name, height)]) = known.lookup other := by
  simp [List.lookup_append, List.lookup_cons, beq_false_of_ne h]

/-- A macro that is not yet known becomes known, when all that it calls is known. -/
theorem Sound.snoc {known : Heights} (sound : Sound macros limit known) {name : String}
    {height : Nat} (fresh : known.lookup name = none) (le : height ≤ limit)
    (lower : ∀ callee, macros.Calls name callee →
      ∃ below, known.lookup callee = some below ∧ below < height)
    (reached : ∃ rest, macros.CallChain (name :: rest) ∧ (name :: rest).length = height) :
    Sound macros limit (known ++ [(name, height)]) := by
  constructor
  case lower =>
    intro n hgt h callee call
    obtain ⟨below, hb, lt⟩ : ∃ below, known.lookup callee = some below ∧ below < hgt := by
      by_cases eq : n = name
      · subst eq
        rw [lookup_snoc_self fresh] at h
        cases h
        exact lower callee call
      · rw [lookup_snoc_of_ne eq] at h
        exact sound.lower h call
    exact ⟨below, lookup_snoc_of_some hb, lt⟩
  case reached =>
    intro n hgt h
    by_cases eq : n = name
    · subst eq
      rw [lookup_snoc_self fresh] at h
      cases h
      exact reached
    · rw [lookup_snoc_of_ne eq] at h
      exact sound.reached h
  case bounded =>
    intro n hgt h
    by_cases eq : n = name
    · subst eq
      rw [lookup_snoc_self fresh] at h
      cases h
      exact le
    · rw [lookup_snoc_of_ne eq] at h
      exact sound.bounded h

end Macros

end CiteStyle
