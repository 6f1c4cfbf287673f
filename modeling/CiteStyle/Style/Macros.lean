-- Which macros call which. The macros of a style have to be defined, must not
-- call each other in a circle, and may call each other in short chains only.
import CiteStyle.Style.Basic
import CiteStyle.Style.Fault

namespace CiteStyle

/-! ## Calls -/

namespace Element

mutual
/-- The macros that an element calls, in order. -/
def calls : Element → List String
  | .text ⟨.call name, _⟩ => [name]
  | .names _ _ substitute => callsOf substitute
  | .group _ _ children => callsOf children
  | .choose branches => branchCalls branches
  | _ => []

/-- The macros that some elements call, in order. -/
def callsOf : List Element → List String
  | [] => []
  | e :: rest => calls e ++ callsOf rest

/-- The macros that the elements of some branches call, in order. -/
def branchCalls : List Branch → List String
  | [] => []
  | .mk _ children :: rest => callsOf children ++ branchCalls rest
end

end Element

namespace Macros

/-- A macro of a name is defined. -/
def defines (macros : Macros) (name : String) : Bool := (macros.lookup name).isSome

/-! ## Heights -/

/-- The macros whose height is known: the number of macros in the longest chain of calls that
starts with the macro. -/
abbrev Heights := List (String × Nat)

/-- The macros that are not yet in a chain. -/
def outside (macros : Macros) (chain : List String) : Macros :=
  macros.filter fun entry => !chain.contains entry.1

theorem length_outside_append_le (macros : Macros) (chain : List String) (name : String) :
    (outside macros (chain ++ [name])).length ≤ (outside macros chain).length := by
  simp only [outside, ← List.countP_eq_length_filter]
  refine List.countP_mono_left fun entry _ h => ?_
  simp only [List.contains_append, Bool.not_or, Bool.and_eq_true] at h
  exact h.1

theorem length_outside_lt {macros : Macros} {chain : List String} {name : String}
    {children : List Element} (found : macros.lookup name = some children)
    (fresh : name ∉ chain) :
    (outside macros (chain ++ [name])).length < (outside macros chain).length := by
  induction macros with
  | nil => simp at found
  | cons entry rest ih =>
    obtain ⟨key, value⟩ := entry
    by_cases h : name = key
    · subst h
      have le := length_outside_append_le rest chain name
      have keeps : outside ((name, value) :: rest) chain = (name, value) :: outside rest chain := by
        simp [outside, fresh]
      have drops : outside ((name, value) :: rest) (chain ++ [name])
          = outside rest (chain ++ [name]) := by
        simp [outside]
      rw [keeps, drops, List.length_cons]
      omega
    · have found' : rest.lookup name = some children := by
        simpa [List.lookup_cons, beq_false_of_ne h] using found
      have lt := ih found'
      have other : key ≠ name := fun eq => h eq.symm
      by_cases old : key ∈ chain
      · simpa [outside, old] using lt
      · simpa [outside, old, other] using lt

/-- The circle that closes when the last macro of a chain calls one that is in it. -/
def circle (chain : List String) (name : String) : List String :=
  chain.dropWhile (· ≠ name) ++ [name]

mutual
/-- The height of a macro that the last one of a chain calls, and all heights that are known
then. -/
def height (macros : Macros) (limit : Nat) (chain : List String) (known : Heights)
    (name : String) : Except StyleFault (Nat × Heights) :=
  match known.lookup name with
  | some height => .ok (height, known)
  | none =>
    if _fresh : name ∈ chain then .error (.macroRecursion (circle chain name))
    else match _found : macros.lookup name with
      | none => .error (.unknownMacro name)
      | some children => do
        let (height, known) ←
          tallest macros limit (chain ++ [name]) known 1 (Element.callsOf children)
        if limit < height then .error (.macroDepth limit)
        else .ok (height, known ++ [(name, height)])
termination_by ((outside macros chain).length, 0)
decreasing_by exact Prod.Lex.left _ _ (length_outside_lt _found _fresh)

/-- The height of a macro over the ones that it calls. -/
def tallest (macros : Macros) (limit : Nat) (chain : List String) (known : Heights)
    (least : Nat) : List String → Except StyleFault (Nat × Heights)
  | [] => .ok (least, known)
  | name :: rest => do
    let (height, known) ← height macros limit chain known name
    tallest macros limit chain known (max least (height + 1)) rest
termination_by names => ((outside macros chain).length, names.length + 1)
decreasing_by
  · exact Prod.Lex.right _ (by simp)
  · exact Prod.Lex.right _ (by simp)
end

/-! ## Checking -/

/-- The first of some names that no macro has. -/
def undefined? (macros : Macros) (names : List String) : Option String :=
  names.find? fun name => !macros.defines name

/-- Find the height of one more macro. -/
def addHeight (macros : Macros) (limit : Nat) (known : Heights) (entry : String × List Element) :
    Except StyleFault Heights :=
  (·.2) <$> height macros limit [] known entry.1

/-- Check the macros against each other, and the calls of the layouts against the macros. -/
def check (macros : Macros) (limit : Nat) (layoutCalls : List String) :
    Except StyleFault Unit :=
  match macros.undefined? layoutCalls with
  | some name => .error (.unknownMacro name)
  | none => do
    let _ ← macros.foldlM (addHeight macros limit) []

end Macros

end CiteStyle
