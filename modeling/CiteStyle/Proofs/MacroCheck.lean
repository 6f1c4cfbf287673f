-- What the check of the macros finds: with no fault all heights are known and
-- right, and a fault says what is so. The induction follows the calls of
-- `height` and `tallest`; the chain that both carry is the chain of macros
-- whose heights are being looked for.
import CiteStyle.Proofs.MacroCalls

namespace CiteStyle

namespace Macros

variable {macros : Macros} {limit : Nat} {layoutCalls : List String}

/-! ## The steps of the check -/

theorem height_of_known {chain : List String} {known : Heights} {name : String} {h : Nat}
    (found : known.lookup name = some h) :
    height macros limit chain known name = .ok (h, known) := by
  rw [height]
  split
  · rename_i h' found'
    rw [found] at found'
    cases found'
    rfl
  · rename_i none'
    rw [found] at none'
    cases none'

theorem height_of_mem {chain : List String} {known : Heights} {name : String}
    (fresh : known.lookup name = none) (mem : name ∈ chain) :
    height macros limit chain known name = .error (.macroRecursion (circle chain name)) := by
  rw [height]
  split
  · rename_i found
    rw [fresh] at found
    cases found
  · rw [dif_pos mem]

theorem height_of_undefined {chain : List String} {known : Heights} {name : String}
    (fresh : known.lookup name = none) (new : name ∉ chain) (absent : macros.lookup name = none) :
    height macros limit chain known name = .error (.unknownMacro name) := by
  rw [height]
  split
  · rename_i found
    rw [fresh] at found
    cases found
  · rw [dif_neg new]
    split
    · rfl
    · rename_i found
      rw [absent] at found
      cases found

theorem height_of_defined {chain : List String} {known : Heights} {name : String}
    {children : List Element} (fresh : known.lookup name = none) (new : name ∉ chain)
    (found : macros.lookup name = some children) :
    height macros limit chain known name =
      match tallest macros limit (chain ++ [name]) known 1 (Element.callsOf children) with
      | .error fault => .error fault
      | .ok (h, known') =>
        if limit < h then .error (.macroDepth limit) else .ok (h, known' ++ [(name, h)]) := by
  rw [height]
  split
  · rename_i found'
    rw [fresh] at found'
    cases found'
  · rw [dif_neg new]
    split
    · rename_i absent
      rw [found] at absent
      cases absent
    · rename_i children' found'
      rw [found] at found'
      cases found'
      cases tallest macros limit (chain ++ [name]) known 1 (Element.callsOf children) <;> rfl

theorem tallest_nil (chain : List String) (known : Heights) (least : Nat) :
    tallest macros limit chain known least [] = .ok (least, known) := by
  rw [tallest]

theorem tallest_cons (chain : List String) (known : Heights) (least : Nat) (name : String)
    (rest : List String) :
    tallest macros limit chain known least (name :: rest) =
      match height macros limit chain known name with
      | .error fault => .error fault
      | .ok (h, known') => tallest macros limit chain known' (max least (h + 1)) rest := by
  rw [tallest]
  cases height macros limit chain known name <;> rfl

/-! ## What the steps find -/

/-- The chain of macros whose heights are being looked for, and a macro that the last of them
calls. -/
structure Active (macros : Macros) (chain : List String) (name : String) : Prop where
  chained : macros.CallChain chain
  nodup : chain.Nodup
  called : (chain ++ [name]).IsChain macros.Calls
  start : chain = [] → macros.defines name = true

/-- With no fault, the heights are right, none is forgotten, and the result is as expected; and a
fault says what is so. -/
def Finds (macros : Macros) (limit : Nat) (layoutCalls chain : List String) (known : Heights)
    (expected : Nat → Heights → Prop) : Except StyleFault (Nat × Heights) → Prop
  | .error fault => fault.HoldsOf macros limit layoutCalls
  | .ok (h, known') => Sound macros limit known' ∧ Extends chain known known' ∧ expected h known'

/-- A height is one more than that of the tallest of some macros, or a least height. -/
structure Tallest (least : Nat) (names : List String) (h : Nat) (known : Heights) : Prop where
  least_le : least ≤ h
  lower : ∀ name ∈ names, ∃ below, known.lookup name = some below ∧ below < h
  attained : h = least ∨ ∃ name ∈ names, ∃ below, known.lookup name = some below ∧ h = below + 1

theorem Active.caller {chain : List String} {name : String} (active : Active macros chain name)
    (h : chain ≠ []) : ∃ caller, macros.Calls caller name := by
  have linked := (List.isChain_append.mp active.called).2.2
  refine ⟨chain.getLast h, linked _ ?_ name (by simp)⟩
  simp [List.getLast?_eq_some_getLast h]

/-- A macro of the chain that is called again closes a circle. -/
theorem Active.circle {chain : List String} {name : String} (active : Active macros chain name)
    (mem : name ∈ chain) : macros.CallCircle (circle chain name) := by
  obtain ⟨before, after, rfl, first⟩ : ∃ before after,
      chain = before ++ name :: after ∧ ∀ other ∈ before, other ≠ name := by
    obtain ⟨before, after, eq, new⟩ := List.eq_append_cons_of_mem mem
    exact ⟨before, after, eq, fun other h eq' => new (eq' ▸ h)⟩
  have cut : Macros.circle (before ++ name :: after) name = name :: after ++ [name] := by
    unfold Macros.circle
    rw [List.dropWhile_append_of_pos (by simpa using first)]
    simp
  rw [cut]
  refine ⟨name, after, rfl, (List.nodup_append.mp active.nodup).2.1, ?_, ?_⟩
  · intro other h
    refine active.chained.defined other ?_
    simp only [List.cons_append, List.mem_cons, List.mem_append, List.not_mem_nil, or_false] at h
    rcases h with rfl | h | rfl
    · exact mem
    · simp [h]
    · exact mem
  · have linked := active.called
    rw [List.append_assoc] at linked
    exact (List.isChain_append.mp linked).2.1

/-- The chain grows by the macro that is called, and the macro's own calls come next. -/
theorem Active.snoc {chain : List String} {name callee : String} (active : Active macros chain name)
    (new : name ∉ chain) (call : macros.Calls name callee) :
    Active macros (chain ++ [name]) callee where
  chained := by
    refine ⟨?_, active.called⟩
    intro other h
    rcases List.mem_append.mp h with h | h
    · exact active.chained.defined other h
    · rw [List.mem_singleton.mp h]
      exact call.caller_defined
  nodup := by
    rw [List.nodup_append]
    refine ⟨active.nodup, by simp, ?_⟩
    rintro a ha b hb rfl
    rw [List.mem_singleton.mp hb] at ha
    exact new ha
  called := by
    refine List.isChain_append.mpr ⟨active.called, .singleton callee, ?_⟩
    intro a ha b hb
    simp at ha hb
    rw [← ha, ← hb]
    exact call
  start := by simp

/-- What a macro calls is known after its step, and one chain within the known macros is as long
as the height says. -/
theorem Tallest.reached {known : Heights} {name : String} {children : List Element} {h : Nat}
    (sound : Sound macros limit known) (found : macros.lookup name = some children)
    (tallest : Tallest 1 (Element.callsOf children) h known) :
    ∃ rest, macros.CallChain (name :: rest) ∧ (name :: rest).length = h ∧
      ∀ first ∈ rest.head?, ∃ below, known.lookup first = some below := by
  rcases tallest.attained with one | ⟨callee, mem, below, hb, rfl⟩
  · exact ⟨[], callChain_singleton (defines_of_lookup found), by simp [one], by simp⟩
  · obtain ⟨rest, chain, length⟩ := sound.reached hb
    refine ⟨callee :: rest, chain.cons ⟨children, found, mem⟩, by simp [← length], ?_⟩
    intro first h
    simp only [List.head?_cons, Option.mem_def, Option.some.injEq] at h
    exact ⟨below, h ▸ hb⟩

/-- A macro whose calls are all known becomes known itself, or nests too deep. -/
theorem finds_of_tallest {chain : List String} {known known' : Heights} {name : String}
    {children : List Element} {h : Nat} (new : name ∉ chain) (fresh : known.lookup name = none)
    (found : macros.lookup name = some children) (sound : Sound macros limit known')
    (extends' : Extends (chain ++ [name]) known known')
    (tallest : Tallest 1 (Element.callsOf children) h known') :
    Finds macros limit layoutCalls chain known (fun h known => known.lookup name = some h)
      (if limit < h then .error (.macroDepth limit) else .ok (h, known' ++ [(name, h)])) := by
  have fresh' : known'.lookup name = none :=
    (extends'.untouched name (by simp)).trans fresh
  obtain ⟨rest, chained, length, next⟩ := tallest.reached sound found
  by_cases deep : limit < h
  · rw [if_pos deep]
    refine ⟨rfl, name :: rest, chained, ?_, by omega⟩
    -- The rest of the chain is known, and so it neither repeats a macro nor holds this one.
    rcases rest with _ | ⟨first, rest⟩
    · simp
    · obtain ⟨below, hb⟩ := next first (by simp)
      obtain ⟨all, nodup⟩ := sound.chain_known hb chained.tail
      refine List.nodup_cons.mpr ⟨?_, nodup⟩
      intro mem
      obtain ⟨below', hb'⟩ := all name mem
      rw [fresh'] at hb'
      cases hb'
  · rw [if_neg deep]
    refine ⟨sound.snoc fresh' (by omega) ?_ ⟨rest, chained, length⟩, ⟨?_, ?_⟩,
      lookup_snoc_self fresh'⟩
    · rintro callee ⟨children', found', mem⟩
      rw [found] at found'
      cases found'
      exact tallest.lower callee mem
    · intro other k look
      exact lookup_snoc_of_some (extends'.kept look)
    · intro other mem
      have ne : other ≠ name := fun eq => new (eq ▸ mem)
      rw [lookup_snoc_of_ne ne]
      exact extends'.untouched other (by simp [mem])

/-- The height of one macro and then those of the others together make a tallest. -/
theorem Tallest.cons {known known' : Heights} {chain rest : List String} {name : String}
    {least below h : Nat} (look : known.lookup name = some below)
    (extends' : Extends chain known known')
    (tallest : Tallest (max least (below + 1)) rest h known') :
    Tallest least (name :: rest) h known' where
  least_le := le_trans (le_max_left _ _) tallest.least_le
  lower := by
    intro other mem
    rcases List.mem_cons.mp mem with rfl | mem
    · have := tallest.least_le
      exact ⟨below, extends'.kept look, by omega⟩
    · exact tallest.lower other mem
  attained := by
    rcases tallest.attained with eq | ⟨other, mem, k, hk, eq⟩
    · by_cases le : below + 1 ≤ least
      · exact .inl (by omega)
      · exact .inr ⟨name, by simp, below, extends'.kept look, by omega⟩
    · exact .inr ⟨other, List.mem_cons_of_mem _ mem, k, hk, eq⟩

/-- What the search for a height finds. -/
theorem height_finds (macros : Macros) (limit : Nat) (layoutCalls chain : List String)
    (known : Heights) (name : String) : Sound macros limit known → Active macros chain name →
    Finds macros limit layoutCalls chain known (fun h known => known.lookup name = some h)
      (height macros limit chain known name) := by
  refine height.induct macros
    (fun chain known name => Sound macros limit known → Active macros chain name →
      Finds macros limit layoutCalls chain known (fun h known => known.lookup name = some h)
        (height macros limit chain known name))
    (fun chain known least names =>
      Sound macros limit known → (∀ name ∈ names, Active macros chain name) →
      Finds macros limit layoutCalls chain known (Tallest least names)
        (tallest macros limit chain known least names))
    ?isKnown ?inChain ?isUndefined ?isDefined ?noMore ?oneMore chain known name
  case isKnown =>
    intro chain known name h found sound _
    rw [height_of_known found]
    exact ⟨sound, extends_refl chain known, found⟩
  case inChain =>
    intro chain known name fresh mem _ active
    rw [height_of_mem fresh mem]
    exact active.circle mem
  case isUndefined =>
    intro chain known name fresh new absent _ active
    rw [height_of_undefined fresh new absent]
    refine ⟨by simp [defines, absent], .inr (active.caller ?_)⟩
    intro empty
    simpa [defines, absent] using active.start empty
  case isDefined =>
    intro chain known name fresh new children found ih sound active
    rw [height_of_defined fresh new found]
    have next := ih sound fun callee mem => active.snoc new ⟨children, found, mem⟩
    rcases eq : tallest macros limit (chain ++ [name]) known 1 (Element.callsOf children) with
      fault | ⟨h, known'⟩
    · rw [eq] at next
      exact next
    · rw [eq] at next
      exact finds_of_tallest new fresh found next.1 next.2.1 next.2.2
  case noMore =>
    intro chain known least sound _
    rw [tallest_nil]
    exact ⟨sound, extends_refl chain known, le_refl least, by simp, .inl rfl⟩
  case oneMore =>
    intro chain known least name rest ih1 ih2 sound active
    rw [tallest_cons]
    have first := ih1 sound (active name (by simp))
    rcases eq : height macros limit chain known name with fault | ⟨below, known'⟩
    · rw [eq] at first
      exact first
    · rw [eq] at first
      obtain ⟨sound', extends', look⟩ := first
      have others := ih2 below known' sound' fun n mem => active n (List.mem_cons_of_mem _ mem)
      simp only
      rcases eq' : tallest macros limit chain known' (max least (below + 1)) rest with
        fault | ⟨h, known''⟩
      · rw [eq'] at others
        exact others
      · rw [eq'] at others
        obtain ⟨sound'', extends'', tallest⟩ := others
        exact ⟨sound'', extends'.trans extends'', tallest.cons look extends''⟩

/-! ## The whole check -/

theorem defines_iff_mem {name : String} :
    macros.defines name = true ↔ ∃ children, (name, children) ∈ macros := by
  unfold defines
  constructor
  · intro h
    obtain ⟨children, found⟩ := Option.isSome_iff_exists.mp h
    exact ⟨children, mem_of_lookup found⟩
  · rintro ⟨children, mem⟩
    rw [List.lookup_isSome_iff]
    exact ⟨_, mem, by simp⟩

/-- Each step keeps the known heights right, so they are right after all steps. -/
theorem foldlM_finds (macros : Macros) (limit : Nat) (layoutCalls : List String)
    (entries : Macros) (known : Heights) (sound : Sound macros limit known)
    (defined : ∀ entry ∈ entries, macros.defines entry.1 = true) :
    match entries.foldlM (addHeight macros limit) known with
    | .error fault => fault.HoldsOf macros limit layoutCalls
    | .ok known' => Sound macros limit known' ∧ Extends [] known known' ∧
        ∀ entry ∈ entries, ∃ h, known'.lookup entry.1 = some h := by
  induction entries generalizing known with
  | nil => exact ⟨sound, extends_refl [] known, by simp⟩
  | cons entry rest ih =>
    have active : Active macros [] entry.1 :=
      ⟨⟨by simp, .nil⟩, .nil, .singleton entry.1, fun _ => defined entry (by simp)⟩
    have first := height_finds macros limit layoutCalls [] known entry.1 sound active
    rw [List.foldlM_cons]
    unfold addHeight
    rcases eq : height macros limit [] known entry.1 with fault | ⟨h, known'⟩
    · rw [eq] at first
      exact first
    · rw [eq] at first
      obtain ⟨sound', extends', look⟩ := first
      have others := ih known' sound' fun e mem => defined e (List.mem_cons_of_mem _ mem)
      show match rest.foldlM (addHeight macros limit) known' with | .error _ => _ | .ok _ => _
      rcases eq' : rest.foldlM (addHeight macros limit) known' with fault | known''
      · rw [eq'] at others
        exact others
      · rw [eq'] at others
        obtain ⟨sound'', extends'', all⟩ := others
        refine ⟨sound'', extends'.trans extends'', ?_⟩
        intro e mem
        rcases List.mem_cons.mp mem with rfl | mem
        · exact ⟨h, extends''.kept look⟩
        · exact all e mem

/-- The heights of all macros are known and right, and the layouts call only macros. -/
structure Checked (macros : Macros) (limit : Nat) (layoutCalls : List String) (known : Heights) :
    Prop where
  sound : Sound macros limit known
  complete : ∀ name, macros.defines name = true → ∃ h, known.lookup name = some h
  layouts : ∀ name ∈ layoutCalls, macros.defines name = true

/-- A check without a fault has found all heights, and a fault of the check says what is so. -/
theorem check_finds (macros : Macros) (limit : Nat) (layoutCalls : List String) :
    match macros.check limit layoutCalls with
    | .error fault => fault.HoldsOf macros limit layoutCalls
    | .ok () => ∃ known, Checked macros limit layoutCalls known := by
  unfold check undefined?
  rcases first : layoutCalls.find? fun name => !macros.defines name with _ | name
  · have all : ∀ entry ∈ macros, macros.defines entry.1 = true :=
      fun entry mem => defines_iff_mem.mpr ⟨entry.2, mem⟩
    have found := foldlM_finds macros limit layoutCalls macros [] sound_nil all
    simp only
    rcases eq : macros.foldlM (addHeight macros limit) [] with fault | known
    · rw [eq] at found
      exact found
    · rw [eq] at found
      obtain ⟨sound, _, complete⟩ := found
      refine ⟨known, sound, ?_, ?_⟩
      · intro name defined
        obtain ⟨children, mem⟩ := defines_iff_mem.mp defined
        exact complete _ mem
      · intro name mem
        simpa using List.find?_eq_none.mp first name mem
  · refine ⟨?_, .inl (List.mem_of_find?_eq_some first)⟩
    simpa using List.find?_some first

/-- What is asked of the macros of a style, in terms of their calls. -/
structure Acceptable (macros : Macros) (limit : Nat) (layoutCalls : List String) : Prop where
  layouts : ∀ name ∈ layoutCalls, macros.defines name = true
  bodies : ∀ caller callee, macros.Calls caller callee → macros.defines callee = true
  acyclic : ∀ name, ¬ Relation.TransGen macros.Calls name name
  shallow : ∀ chain, macros.CallChain chain → chain.length ≤ limit

/-- With all heights known, no circle and no chain that is too long is left. -/
theorem Checked.acceptable {known : Heights} (checked : Checked macros limit layoutCalls known) :
    Acceptable macros limit layoutCalls where
  layouts := checked.layouts
  bodies := by
    intro caller callee call
    obtain ⟨h, look⟩ := checked.complete caller call.caller_defined
    obtain ⟨below, hb, _⟩ := checked.sound.lower look call
    obtain ⟨rest, chain, _⟩ := checked.sound.reached hb
    exact chain.defined callee (by simp)
  acyclic := by
    intro name calls
    have defined : macros.defines name = true := by
      obtain ⟨next, call, _⟩ := Relation.TransGen.head'_iff.mp calls
      exact call.caller_defined
    obtain ⟨h, look⟩ := checked.complete name defined
    exact checked.sound.not_circular look calls
  shallow := by
    intro chain chained
    rcases chain with _ | ⟨name, rest⟩
    · exact Nat.zero_le limit
    · obtain ⟨h, look⟩ := checked.complete name (chained.defined name (by simp))
      exact le_trans (checked.sound.length_le look chained) (checked.sound.bounded look)

/-- Of acceptable macros, no fault of the check can be so. -/
theorem Acceptable.no_fault (h : Acceptable macros limit layoutCalls) (fault : StyleFault) :
    ¬ fault.HoldsOf macros limit layoutCalls := by
  intro holds
  cases fault with
  | unknownMacro name =>
    obtain ⟨undefined, mem | ⟨caller, call⟩⟩ := holds
    · rw [h.layouts name mem] at undefined
      cases undefined
    · rw [h.bodies caller name call] at undefined
      cases undefined
  | macroRecursion circle =>
    obtain ⟨name, rest, rfl, _, chain⟩ := holds
    have later := (List.pairwise_cons.mp chain.pairwise).1
    exact h.acyclic name (later name (by simp))
  | macroDepth depth =>
    obtain ⟨_, chain, chained, _, long⟩ := holds
    have := h.shallow chain chained
    omega
  | _ => exact holds

theorem check_ok_iff_acceptable (macros : Macros) (limit : Nat) (layoutCalls : List String) :
    macros.check limit layoutCalls = .ok () ↔ Acceptable macros limit layoutCalls := by
  have finds := check_finds macros limit layoutCalls
  constructor
  · intro ok
    rw [ok] at finds
    obtain ⟨known, checked⟩ := finds
    exact checked.acceptable
  · intro acceptable
    rcases eq : macros.check limit layoutCalls with fault | u
    · rw [eq] at finds
      exact absurd finds (acceptable.no_fault fault)
    · rfl

end Macros

/-! ## Accepted macros -/

/-- The macros of a style pass the check just if the layouts and the macros call only macros that
are defined, no macro calls itself, not even through others, and no chain of calls has more
macros than the call depth of the style. -/
theorem Style.check_macros_ok_iff (style : Style) :
    style.macros.check style.callDepth style.layoutCalls = .ok () ↔
      ((∀ name ∈ style.layoutCalls, style.macros.defines name = true) ∧
        ∀ caller callee, style.macros.Calls caller callee → style.macros.defines callee = true) ∧
      (∀ name, ¬ Relation.TransGen style.macros.Calls name name) ∧
      ∀ chain, style.macros.CallChain chain → chain.length ≤ style.callDepth := by
  rw [Macros.check_ok_iff_acceptable]
  constructor
  · rintro ⟨layouts, bodies, acyclic, shallow⟩
    exact ⟨⟨layouts, bodies⟩, acyclic, shallow⟩
  · rintro ⟨⟨layouts, bodies⟩, acyclic, shallow⟩
    exact ⟨layouts, bodies, acyclic, shallow⟩

end CiteStyle
