-- The branches of a choice. Their names have to be those of a small grammar: an if with any number
-- of else-ifs behind it, or none of these, and then at most one else. Reading keeps only the place
-- it has come to, and the place says which names stand in front, so that the first name that
-- breaks the grammar is found, and with it the fault that fits.
import CiteStyle.Style.ElementXml
import Mathlib

namespace CiteStyle

/-! ## The grammar -/

/-- The names of branches with conditions: an if, and else-ifs behind it. -/
def IsConditional (names : List String) : Prop :=
  names = [] ∨ ∃ n, names = "if" :: List.replicate n "else-if"

/-- The names of the branches of a choice: branches with conditions, and then at most one else. -/
def IsChoice (names : List String) : Prop :=
  ∃ conditional otherwise, names = conditional ++ otherwise ∧ IsConditional conditional ∧
    (otherwise = [] ∨ otherwise = ["else"])

/-- A name that cannot follow those in front of it, by its fault. -/
inductive BreaksChoice (before : List String) (name : String) : StyleFault → Prop
  | unknown : name ≠ "if" → name ≠ "else-if" → name ≠ "else" →
      BreaksChoice before name (.unknownConditional name)
  | secondElse : name = "else" → "else" ∈ before → BreaksChoice before name .multipleElse
  | behindElse : name = "if" ∨ name = "else-if" → "else" ∈ before →
      BreaksChoice before name (.elementAfterElse name)
  | secondIf : name = "if" → before ≠ [] → "else" ∉ before → BreaksChoice before name .multipleIf
  | leadingElseIf : name = "else-if" → before = [] → BreaksChoice before name .elseIfWithoutIf

/-- A name has one fault at most. -/
theorem BreaksChoice.unique {before : List String} {name : String} {fault fault' : StyleFault}
    (h : BreaksChoice before name fault) (h' : BreaksChoice before name fault') :
    fault = fault' := by
  cases h <;> cases h' <;> simp_all

theorem isConditional_nil : IsConditional [] := .inl rfl

theorem IsConditional.isChoice {names : List String} (h : IsConditional names) : IsChoice names :=
  ⟨names, [], (List.append_nil names).symm, h, .inl rfl⟩

theorem IsConditional.concat_else {names : List String} (h : IsConditional names) :
    IsChoice (names ++ ["else"]) :=
  ⟨names, ["else"], rfl, h, .inr rfl⟩

theorem IsConditional.not_mem_else {names : List String} (h : IsConditional names) :
    "else" ∉ names := by
  obtain rfl | ⟨n, rfl⟩ := h
  · simp
  · simp [List.mem_replicate]

theorem isConditional_concat_iff {names : List String} {name : String} :
    IsConditional (names ++ [name]) ↔
      names = [] ∧ name = "if" ∨ names ≠ [] ∧ IsConditional names ∧ name = "else-if" := by
  constructor
  · rintro (empty | ⟨n, eq⟩)
    · simp at empty
    · cases n with
      | zero =>
        obtain ⟨rfl, same⟩ := List.append_inj' (show names ++ [name] = [] ++ ["if"] from eq) rfl
        exact .inl ⟨rfl, List.singleton_inj.mp same⟩
      | succ n =>
        rw [List.replicate_succ', ← List.cons_append] at eq
        obtain ⟨rfl, same⟩ := List.append_inj' eq rfl
        exact .inr ⟨List.cons_ne_nil _ _, .inr ⟨n, rfl⟩, List.singleton_inj.mp same⟩
  · rintro (⟨rfl, rfl⟩ | ⟨some, rfl | ⟨n, rfl⟩, rfl⟩)
    · exact .inr ⟨0, rfl⟩
    · exact absurd rfl some
    · exact .inr ⟨n + 1, by rw [List.replicate_succ', List.cons_append]⟩

/-- The grammar, from the last name on. -/
theorem isChoice_concat_iff {names : List String} {name : String} :
    IsChoice (names ++ [name]) ↔
      IsConditional (names ++ [name]) ∨ IsConditional names ∧ name = "else" := by
  constructor
  · rintro ⟨conditional, otherwise, eq, h, rfl | rfl⟩
    · rw [List.append_nil] at eq
      exact .inl (eq ▸ h)
    · obtain ⟨rfl, same⟩ := List.append_inj' eq rfl
      exact .inr ⟨h, List.singleton_inj.mp same⟩
  · rintro (h | ⟨h, rfl⟩)
    · exact h.isChoice
    · exact h.concat_else

theorem IsChoice.init {names : List String} {name : String} (h : IsChoice (names ++ [name])) :
    IsConditional names := by
  rcases isChoice_concat_iff.mp h with h | h
  · rcases isConditional_concat_iff.mp h with ⟨rfl, -⟩ | ⟨-, h, -⟩
    · exact isConditional_nil
    · exact h
  · exact h.1

/-- What stands in front in a choice is a choice. -/
theorem IsChoice.of_append {names more : List String} (h : IsChoice (names ++ more)) :
    IsChoice names := by
  induction more using List.reverseRecOn with
  | nil => rwa [List.append_nil] at h
  | append_singleton more name ih =>
    rw [← List.append_assoc] at h
    exact ih h.init.isChoice

/-- A name with a fault is not one that the grammar has there. -/
theorem BreaksChoice.not_isChoice {before : List String} {name : String} {fault : StyleFault}
    (h : BreaksChoice before name fault) : ¬IsChoice (before ++ [name]) := by
  intro choice
  have noElse := choice.init.not_mem_else
  have last := isChoice_concat_iff.mp choice
  rw [isConditional_concat_iff] at last
  cases h with
  | unknown notIf notElseIf notElse => simp [notIf, notElseIf, notElse] at last
  | secondElse _ mem => exact noElse mem
  | behindElse _ mem => exact noElse mem
  | secondIf same some _ => simp [same, some] at last
  | leadingElseIf same none => simp [same, none] at last

/-- A choice may end at any of its names. -/
theorem IsChoice.upTo {front back : List String} {name : String}
    (h : IsChoice (front ++ name :: back)) : IsChoice (front ++ [name]) := by
  rw [List.append_cons] at h
  exact h.of_append

/-! ## The first name that breaks the grammar -/

/-- The fault of the first of some names that breaks the grammar. -/
def BreaksFirst (names : List String) (fault : StyleFault) : Prop :=
  ∃ front name back, names = front ++ name :: back ∧ IsChoice front ∧
    ¬IsChoice (front ++ [name]) ∧ BreaksChoice front name fault

theorem BreaksFirst.not_isChoice {names : List String} {fault : StyleFault}
    (h : BreaksFirst names fault) : ¬IsChoice names := by
  obtain ⟨front, name, back, rfl, -, broken, -⟩ := h
  exact fun choice => broken choice.upTo

theorem BreaksFirst.unique {names : List String} {fault fault' : StyleFault}
    (h : BreaksFirst names fault) (h' : BreaksFirst names fault') : fault = fault' := by
  obtain ⟨front, name, back, rfl, choice, broken, breaks⟩ := h
  obtain ⟨front', name', back', same, choice', broken', breaks'⟩ := h'
  -- Were one of the two fronts longer, it would hold the name that breaks the grammar.
  rcases List.append_eq_append_iff.mp same with ⟨more, rfl, eq⟩ | ⟨more, rfl, eq⟩
  · cases more with
    | nil =>
      obtain ⟨rfl, -⟩ := List.cons.inj eq
      rw [List.append_nil] at breaks'
      exact breaks.unique breaks'
    | cons x more =>
      obtain ⟨rfl, -⟩ := List.cons.inj eq
      exact absurd choice'.upTo broken
  · cases more with
    | nil =>
      obtain ⟨rfl, -⟩ := List.cons.inj eq
      rw [List.append_nil] at breaks
      exact breaks.unique breaks'
    | cons x more =>
      obtain ⟨rfl, -⟩ := List.cons.inj eq
      exact absurd choice.upTo broken'

/-! ## Places -/

namespace ChoicePlace

/-- The names that stand in front of a place. -/
def Follows : ChoicePlace → List String → Prop
  | .start, before => before = []
  | .afterCondition, before => before ≠ [] ∧ IsConditional before
  | .afterElse, before => ∃ conditional, before = conditional ++ ["else"] ∧ IsConditional conditional

theorem Follows.isChoice {place : ChoicePlace} {before : List String} (h : place.Follows before) :
    IsChoice before := by
  cases place with
  | start => exact (h : before = []) ▸ isConditional_nil.isChoice
  | afterCondition => exact h.2.isChoice
  | afterElse =>
    obtain ⟨conditional, rfl, h⟩ := h
    exact h.concat_else

theorem next_unknown (place : ChoicePlace) {name : String} (notIf : name ≠ "if")
    (notElseIf : name ≠ "else-if") (notElse : name ≠ "else") :
    place.next name = .error (.unknownConditional name) := by
  unfold next
  split <;> first | rfl | contradiction

/-- A name leads to a place that follows it, or breaks the grammar. -/
theorem Follows.next {place : ChoicePlace} {before : List String} (h : place.Follows before)
    (name : String) :
    match place.next name with
    | .ok place' => place'.Follows (before ++ [name]) ∧ (place' = .afterElse ↔ name = "else")
    | .error fault => BreaksChoice before name fault := by
  by_cases isIf : name = "if"
  · subst isIf
    cases place with
    | start =>
      obtain rfl : before = [] := h
      exact ⟨⟨by simp, .inr ⟨0, rfl⟩⟩, by simp⟩
    | afterCondition => exact .secondIf rfl h.1 h.2.not_mem_else
    | afterElse =>
      obtain ⟨conditional, rfl, -⟩ := h
      exact .behindElse (.inl rfl) (by simp)
  by_cases isElseIf : name = "else-if"
  · subst isElseIf
    cases place with
    | start => exact .leadingElseIf rfl h
    | afterCondition =>
      exact ⟨⟨by simp, isConditional_concat_iff.mpr (.inr ⟨h.1, h.2, rfl⟩)⟩, by simp⟩
    | afterElse =>
      obtain ⟨conditional, rfl, -⟩ := h
      exact .behindElse (.inr rfl) (by simp)
  by_cases isElse : name = "else"
  · subst isElse
    cases place with
    | start =>
      obtain rfl : before = [] := h
      exact ⟨⟨[], rfl, isConditional_nil⟩, by simp⟩
    | afterCondition => exact ⟨⟨before, rfl, h.2⟩, by simp⟩
    | afterElse =>
      obtain ⟨conditional, rfl, -⟩ := h
      exact .secondElse rfl (by simp)
  · rw [next_unknown place isIf isElseIf isElse]
    exact .unknown isIf isElseIf isElse

end ChoicePlace

/-! ## Reading -/

namespace Element

/-- An element is without a fault as a branch: its children can be read, and its condition if it is
to have one. -/
structure ReadsAsBranch (e : Xml.Element) : Prop where
  condition : e.name = "if" ∨ e.name = "else-if" → ∃ condition, Condition.ofXml e = .ok condition
  children : ∃ children, listOfXml e.children = .ok children

/-- The branch that an element stands for. Only an else has no condition. -/
inductive IsBranchOf (e : Xml.Element) : Branch → Prop
  | conditional {condition : Condition} {children : List Element} : e.name ≠ "else" →
      Condition.ofXml e = .ok condition → listOfXml e.children = .ok children →
      IsBranchOf e (.mk (some condition) children)
  | otherwise {children : List Element} : e.name = "else" → listOfXml e.children = .ok children →
      IsBranchOf e (.mk none children)

theorem branchesOf_of_fault {place : ChoicePlace} {e : Xml.Element} {rest : List Xml.Element}
    {fault : StyleFault} (broken : place.next e.name = .error fault) :
    branchesOf place (e :: rest) = .error fault := by
  obtain ⟨name, attributes, text, children⟩ := e
  rw [branchesOf, broken]
  rfl

theorem branchesOf_of_branch {place place' : ChoicePlace} {e : Xml.Element}
    {rest : List Xml.Element} {condition : Option Condition} {children : List Element}
    (next : place.next e.name = .ok place') (tests : place'.condition e = .ok condition)
    (content : listOfXml e.children = .ok children) :
    branchesOf place (e :: rest) = (Branch.mk condition children :: ·) <$> branchesOf place' rest := by
  obtain ⟨name, attributes, text, children'⟩ := e
  rw [branchesOf, next]
  simp only [bind, Except.bind]
  rw [tests, content]
  cases branchesOf place' rest <;> rfl

/-- An element that has a place in the grammar is read as its branch. -/
theorem ReadsAsBranch.exists_branch {e : Xml.Element} (reads : ReadsAsBranch e)
    {place place' : ChoicePlace} (next : place.next e.name = .ok place')
    (last : place' = .afterElse ↔ e.name = "else") :
    ∃ condition children, place'.condition e = .ok condition ∧
      listOfXml e.children = .ok children ∧ IsBranchOf e (.mk condition children) := by
  obtain ⟨children, content⟩ := reads.children
  by_cases isElse : e.name = "else"
  · rw [last.mpr isElse]
    exact ⟨none, children, rfl, content, .otherwise isElse content⟩
  · have named : e.name = "if" ∨ e.name = "else-if" := by
      by_contra other
      rw [not_or] at other
      rw [place.next_unknown other.1 other.2 isElse] at next
      cases next
    obtain ⟨condition, tests⟩ := reads.condition named
    refine ⟨some condition, children, ?_, content, .conditional isElse tests content⟩
    cases place' with
    | afterElse => exact absurd (last.mp rfl) isElse
    | start | afterCondition => exact congrArg (some <$> ·) tests

/-- What reading finds from a place on: a branch for each element, or the first name that breaks the
grammar. -/
theorem branchesOf_finds {place : ChoicePlace} {before : List String}
    (follows : place.Follows before) {es : List Xml.Element} (reads : ∀ e ∈ es, ReadsAsBranch e) :
    match branchesOf place es with
    | .ok branches => IsChoice (before ++ es.map (·.name)) ∧ List.Forall₂ IsBranchOf es branches
    | .error fault => BreaksFirst (before ++ es.map (·.name)) fault := by
  induction es generalizing place before with
  | nil =>
    rw [branchesOf, List.map_nil, List.append_nil]
    exact ⟨follows.isChoice, .nil⟩
  | cons e rest ih =>
    have step := follows.next e.name
    rcases next : place.next e.name with fault | place'
    · rw [next] at step
      rw [branchesOf_of_fault next]
      exact ⟨before, e.name, rest.map (·.name), rfl, follows.isChoice, step.not_isChoice, step⟩
    · rw [next] at step
      obtain ⟨follows', last⟩ := step
      obtain ⟨condition, children, tests, content, isBranch⟩ :=
        (reads e List.mem_cons_self).exists_branch next last
      have others := ih follows' fun e' mem => reads e' (List.mem_cons_of_mem e mem)
      rw [branchesOf_of_branch next tests content, List.map_cons, List.append_cons]
      rcases read : branchesOf place' rest with fault | branches
      · rw [read] at others
        exact others
      · rw [read] at others
        exact ⟨others.1, .cons isBranch others.2⟩

theorem ofXml_choose (attributes : List (String × String)) (text : Option String)
    (es : List Xml.Element) :
    ofXml ⟨"choose", attributes, text, es⟩ =
      (fun branches => some (.choose branches)) <$> branchesOf .start es := by
  rw [ofXml]
  cases branchesOf .start es <;> rfl

end Element

/-- A choice of elements that can be read as branches is read just if their names are those of the
grammar, and then as one branch for each of them, of which only an else has no condition. Otherwise
the first element that breaks the grammar gives the fault. -/
theorem Element.ofXml_choose_grammar (attributes : List (String × String)) (text : Option String)
    {es : List Xml.Element} (reads : ∀ e ∈ es, ReadsAsBranch e) :
    ((∃ choice, ofXml ⟨"choose", attributes, text, es⟩ = .ok choice) ↔
      IsChoice (es.map (·.name))) ∧
    (∀ choice, ofXml ⟨"choose", attributes, text, es⟩ = .ok choice →
      ∃ branches, choice = some (.choose branches) ∧ List.Forall₂ IsBranchOf es branches) ∧
    ∀ fault, ofXml ⟨"choose", attributes, text, es⟩ = .error fault ↔
      BreaksFirst (es.map (·.name)) fault := by
  have start : ChoicePlace.start.Follows [] := rfl
  have found := branchesOf_finds start reads
  rw [ofXml_choose]
  rcases read : branchesOf .start es with fault | branches
  · rw [read] at found
    refine ⟨⟨?_, fun choice => absurd choice found.not_isChoice⟩, ?_, fun fault' => ⟨?_, ?_⟩⟩
    · rintro ⟨_, none⟩
      cases none
    · intro _ none
      cases none
    · intro same
      cases same
      exact found
    · intro breaks
      rw [breaks.unique found]
      rfl
  · rw [read] at found
    refine ⟨⟨fun _ => found.1, fun _ => ⟨_, rfl⟩⟩, ?_, fun fault => ⟨?_, ?_⟩⟩
    · intro _ same
      cases same
      exact ⟨branches, rfl, found.2⟩
    · intro none
      cases none
    · intro breaks
      exact absurd found.1 breaks.not_isChoice

/-- A choice with a choice inside of it. -/
def editionBranches : List Xml.Element :=
  [⟨"if", [("type", "book")], none, [⟨"text", [("variable", "title")], none, []⟩]⟩,
   ⟨"else-if", [("variable", "edition"), ("match", "any")], none, []⟩,
   ⟨"else", [("match", "some")], none, [⟨"choose", [], none,
     [⟨"if", [("is-numeric", "edition")], none,
       [⟨"number", [("variable", "edition")], none, []⟩]⟩]⟩]⟩]

/-- A branch that stands behind an else there. -/
def chapterBranch : Xml.Element := ⟨"else-if", [("type", "chapter")], none, []⟩

theorem Element.ofXml_choose_grammar_editions :
    (∀ e ∈ editionBranches ++ [chapterBranch], ReadsAsBranch e) ∧
      (∃ branches, ofXml ⟨"choose", [], none, editionBranches⟩ = .ok (some (.choose branches)) ∧
        List.Forall₂ IsBranchOf editionBranches branches) ∧
      ofXml ⟨"choose", [], none, editionBranches ++ [chapterBranch]⟩ =
        .error (.elementAfterElse "else-if") := by
  have reads : ∀ e ∈ editionBranches ++ [chapterBranch], ReadsAsBranch e := by
    simp only [editionBranches, chapterBranch, List.cons_append, List.nil_append,
      List.forall_mem_cons]
    refine ⟨?_, ?_, ?_, ?_, by simp⟩
    · exact ⟨fun _ => ⟨_, rfl⟩, ⟨_, by cbv⟩⟩
    · exact ⟨fun _ => ⟨_, rfl⟩, ⟨_, by cbv⟩⟩
    · exact ⟨by simp, ⟨_, by cbv⟩⟩
    · exact ⟨fun _ => ⟨_, rfl⟩, ⟨_, by cbv⟩⟩
  have choice : IsChoice (editionBranches.map (·.name)) :=
    ⟨["if", "else-if"], ["else"], rfl, .inr ⟨1, rfl⟩, .inr rfl⟩
  have breaks : BreaksChoice (editionBranches.map (·.name)) "else-if"
      (.elementAfterElse "else-if") := .behindElse (.inr rfl) (by decide)
  refine ⟨reads, ?_, ?_⟩
  · have these : ∀ e ∈ editionBranches, ReadsAsBranch e :=
      fun e mem => reads e (List.mem_append_left _ mem)
    obtain ⟨accepted, shape, -⟩ := ofXml_choose_grammar [] none these
    obtain ⟨_, read⟩ := accepted.mpr choice
    obtain ⟨branches, rfl, each⟩ := shape _ read
    exact ⟨branches, read, each⟩
  · exact ((ofXml_choose_grammar [] none reads).2.2 _).mpr
      ⟨_, "else-if", [], rfl, choice, breaks.not_isChoice, breaks⟩

end CiteStyle
