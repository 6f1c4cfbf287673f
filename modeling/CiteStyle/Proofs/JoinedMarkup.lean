-- Writing output piece by piece. The walk only ever adds behind what is written already, so a text
-- that stands in front stays in front, and output that leaves no display group open can be written
-- alone, whatever follows and whatever the markup. Output that leaves a group open cannot: what
-- follows would be written into the group.
import CiteStyle.Output.Markup
import CiteStyle.Proofs.DisplayGroups

namespace CiteStyle

/-! ## Groups left open -/

/-- The number of display groups that are open after a token. An end with no group to close counts
for nothing. -/
def Token.countOpen (n : Nat) : Token → Nat
  | .text .. => n
  | .displayStart _ => n + 1
  | .displayEnd _ => n - 1

/-- The number of display groups that are open at the end of an output. -/
def Buffer.countOpen (b : Buffer) (n : Nat) : Nat := b.foldl Token.countOpen n

theorem Buffer.countOpen_cons (t : Token) (b : Buffer) (n : Nat) :
    Buffer.countOpen (t :: b) n = b.countOpen (t.countOpen n) := rfl

theorem Token.countOpen_of_openAfter {t : Token} {groups left : List Display}
    (h : t.openAfter groups = some left) : t.countOpen groups.length = left.length := by
  cases t with
  | text kind s formatting =>
    cases h
    rfl
  | displayStart d =>
    cases h
    rfl
  | displayEnd d =>
    simp only [openAfter, Option.ite_none_right_eq_some, Option.some.injEq] at h
    rw [← h.2, List.length_tail]
    rfl

theorem Buffer.countOpen_of_openAfter {b : Buffer} {groups left : List Display}
    (h : b.openAfter groups = some left) : b.countOpen groups.length = left.length := by
  induction b generalizing groups with
  | nil =>
    cases h
    rfl
  | cons t rest ih =>
    rw [openAfter_cons] at h
    obtain ⟨next, first, others⟩ := Option.bind_eq_some_iff.mp h
    rw [countOpen_cons, Token.countOpen_of_openAfter first, ih others]

/-- Balanced output leaves no group open. -/
theorem Buffer.Balanced.countOpen_eq_zero {b : Buffer} (h : b.Balanced) : b.countOpen 0 = 0 :=
  Buffer.countOpen_of_openAfter h

namespace Markup

variable (m : Markup)

/-! ## A text in front -/

namespace Written

/-- A text in front of all that is written. -/
def behind (front : String) (w : Written) : Written := { w with outside := front ++ w.outside }

theorem add_behind (front : String) (w : Written) (s : String) :
    (w.behind front).add s = (w.add s).behind front := by
  obtain ⟨outside, groups⟩ := w
  cases groups with
  | nil => simp [add, behind, String.append_assoc]
  | cons g rest => rfl

theorem close_behind (front : String) (w : Written) :
    (w.behind front).close m = (w.close m).behind front := by
  obtain ⟨outside, groups⟩ := w
  cases groups with
  | nil => rfl
  | cons g rest => exact add_behind front ⟨outside, rest⟩ (m.display g.1 g.2)

theorem finish_behind (front outside : String) (groups : List (Display × String)) :
    finish m (front ++ outside) groups = front ++ finish m outside groups := by
  fun_induction finish m outside groups with
  | case1 => rw [finish]
  | case2 display content => rw [finish, String.append_assoc]
  | case3 display content outer text rest ih => rw [finish, ih]

theorem length_add (w : Written) (s : String) : (w.add s).groups.length = w.groups.length := by
  obtain ⟨outside, groups⟩ := w
  cases groups <;> rfl

theorem length_close (w : Written) : (w.close m).groups.length = w.groups.length - 1 := by
  obtain ⟨outside, groups⟩ := w
  cases groups with
  | nil => rfl
  | cons g rest => exact length_add ⟨outside, rest⟩ (m.display g.1 g.2)

end Written

theorem step_behind (front : String) (w : Written) (t : Token) :
    m.step (w.behind front) t = (m.step w t).behind front := by
  cases t with
  | text kind s formatting => exact Written.add_behind front w _
  | displayStart d => rfl
  | displayEnd d => exact Written.close_behind m front w

/-- The walk goes by no text in front of it. -/
theorem foldl_step_behind (front : String) (b : Buffer) (w : Written) :
    b.foldl m.step (w.behind front) = (b.foldl m.step w).behind front := by
  induction b generalizing w with
  | nil => rfl
  | cons t rest ih => rw [List.foldl_cons, List.foldl_cons, step_behind, ih]

/-! ## Groups of the walk -/

theorem length_step (w : Written) (t : Token) :
    (m.step w t).groups.length = t.countOpen w.groups.length := by
  cases t with
  | text kind s formatting => exact Written.length_add w _
  | displayStart d => rfl
  | displayEnd d => exact Written.length_close m w

/-- The walk is in as many groups as the output leaves open. -/
theorem length_foldl_step (b : Buffer) (w : Written) :
    (b.foldl m.step w).groups.length = b.countOpen w.groups.length := by
  induction b generalizing w with
  | nil => rfl
  | cons t rest ih => rw [List.foldl_cons, ih, length_step, Buffer.countOpen_cons]

/-- With no group left open, what is written is outside of all groups. -/
theorem walk_closed {b : Buffer} (closed : b.countOpen 0 = 0) :
    b.foldl m.step ⟨"", []⟩ = ⟨m.write b, []⟩ := by
  have length := m.length_foldl_step b ⟨"", []⟩
  unfold write
  generalize b.foldl m.step ⟨"", []⟩ = w at length ⊢
  obtain ⟨outside, groups⟩ := w
  obtain rfl : groups = [] := List.eq_nil_of_length_eq_zero (length.trans closed)
  simp only [Written.finish]

/-- Output that leaves no group open can be written alone. -/
theorem write_append_of_closed {a : Buffer} (closed : a.countOpen 0 = 0) (b : Buffer) :
    m.write (a ++ b) = m.write a ++ m.write b := by
  have start : (⟨m.write a, []⟩ : Written) = Written.behind (m.write a) ⟨"", []⟩ := by
    rw [Written.behind, String.append_empty]
  have walked : (a ++ b).foldl m.step ⟨"", []⟩ =
      (b.foldl m.step ⟨"", []⟩).behind (m.write a) := by
    rw [List.foldl_append, m.walk_closed closed, start, foldl_step_behind]
  show Written.finish m ((a ++ b).foldl m.step ⟨"", []⟩).outside _ = _
  rw [walked]
  exact Written.finish_behind m _ _ _

/-! ## Output that cannot be written alone -/

/-- Plain text with a mark at the end of each display group. -/
def endMarked : Markup := { plain with display := fun _ s => s ++ "]" }

/-- A text without a group. -/
def lastText : Buffer := [Token.ofText .plain "."]

theorem countOpen_lastText (a : Buffer) (n : Nat) : (a ++ lastText).countOpen n = a.countOpen n := by
  simp [Buffer.countOpen, Token.countOpen, lastText, Token.ofText]

/-- When a group is open, the mark of the outermost one is written last. -/
theorem Written.finish_endMarked (outside : String) {groups : List (Display × String)}
    (inside : groups ≠ []) : ∃ s, finish endMarked outside groups = s ++ "]" := by
  fun_induction finish endMarked outside groups with
  | case1 => exact absurd rfl inside
  | case2 display content => exact ⟨outside ++ content, (String.append_assoc ..).symm⟩
  | case3 display content outer text rest ih => exact ih (List.cons_ne_nil _ _)

/-- A text behind output that leaves a group open is written into the group. -/
theorem write_endMarked_ne {a : Buffer} (isOpen : a.countOpen 0 ≠ 0) :
    endMarked.write (a ++ lastText) ≠ endMarked.write a ++ endMarked.write lastText := by
  have length := endMarked.length_foldl_step (a ++ lastText) ⟨"", []⟩
  have inside : ((a ++ lastText).foldl endMarked.step ⟨"", []⟩).groups ≠ [] := by
    intro none
    rw [none, countOpen_lastText] at length
    exact isOpen length.symm
  obtain ⟨s, written⟩ := Written.finish_endMarked
    ((a ++ lastText).foldl endMarked.step ⟨"", []⟩).outside inside
  have whole : endMarked.write (a ++ lastText) = s ++ "]" := written
  have alone : endMarked.write lastText = "." := by cbv
  rw [whole, alone]
  intro same
  have ends := congrArg (fun r => r.toList.getLast?) same
  simp at ends

/-! ## Pieces of output -/

/-- In every markup, balanced output and any output behind it are written one after the other. This
is so just for output that leaves no group open. -/
theorem write_append (a : Buffer) :
    (a.Balanced → ∀ (m : Markup) (b : Buffer), m.write (a ++ b) = m.write a ++ m.write b) ∧
      ((∀ (m : Markup) (b : Buffer), m.write (a ++ b) = m.write a ++ m.write b) ↔
        a.countOpen 0 = 0) := by
  refine ⟨fun balanced m b => m.write_append_of_closed balanced.countOpen_eq_zero b, ?_, ?_⟩
  · intro all
    by_contra isOpen
    exact write_endMarked_ne isOpen (all endMarked _)
  · intro closed m b
    exact m.write_append_of_closed closed b

/-- A display group within another, with texts in both. -/
def nestedGroups : Buffer :=
  [.displayStart .block, Token.ofText .plain "Beowulf", .displayStart .indent,
    Token.ofText .doi "10.1000/1", .displayEnd .indent, .displayEnd .block]

/-- Output that closes a group which is not open, and leaves one open. -/
def looseGroups : Buffer :=
  [.displayEnd .block, Token.ofText .plain "1854", .displayStart .indent, Token.ofText .plain "p. 4"]

theorem write_append_nested :
    nestedGroups.Balanced ∧ html.write (nestedGroups ++ looseGroups) =
      html.write nestedGroups ++ html.write looseGroups := by
  have balanced : nestedGroups.Balanced := by decide
  exact ⟨balanced, (write_append nestedGroups).1 balanced html looseGroups⟩

end Markup

end CiteStyle
