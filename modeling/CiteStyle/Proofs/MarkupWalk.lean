-- The walk over the tokens, for two markups side by side. A relation that the
-- ways to write a piece keep is kept by the walk, whatever marks it meets. One
-- markup writes nothing but the texts: with it the walk gives the plain text.
import CiteStyle.Output.Markup
import Mathlib

namespace CiteStyle.Markup

/-! ## Two markups -/

/-- What one markup writes for a text is related to what another one writes for the changed
text, and so is what they write around related contents. -/
structure SideBySide (m m' : Markup) (change : String → String) (R : String → String → Prop) :
    Prop where
  empty : R "" ""
  append : ∀ {s s' t t'}, R s s' → R t t' → R (s ++ t) (s' ++ t')
  text : ∀ s, R (m.text s) (m'.text (change s))
  emphasis : ∀ {s s'}, R s s' → R (m.emphasis s) (m'.emphasis s')
  strong : ∀ {s s'}, R s s' → R (m.strong s) (m'.strong s')
  smallCaps : ∀ {s s'}, R s s' → R (m.smallCaps s) (m'.smallCaps s')
  underline : ∀ {s s'}, R s s' → R (m.underline s) (m'.underline s')
  superscript : ∀ {s s'}, R s s' → R (m.superscript s) (m'.superscript s')
  subscript : ∀ {s s'}, R s s' → R (m.subscript s) (m'.subscript s')
  link : ∀ location location' {s s'}, R s s' → R (m.link location s) (m'.link location' s')
  display : ∀ d {s s'}, R s s' → R (m.display d s) (m'.display d s')

/-- Two walks stand in the same groups, with related texts in each. -/
structure Written.Related (R : String → String → Prop) (w w' : Written) : Prop where
  outside : R w.outside w'.outside
  groups : List.Forall₂ (fun g g' => g.1 = g'.1 ∧ R g.2 g'.2) w.groups w'.groups

theorem applyIf_related {R : String → String → Prop} {f f' : String → String} {s s' : String}
    (condition : Bool) (changed : R s s' → R (f s) (f' s')) (h : R s s') :
    R (applyIf condition f s) (applyIf condition f' s') := by
  unfold applyIf
  split
  · exact changed h
  · exact h

namespace SideBySide

variable {m m' : Markup} {change : String → String} {R : String → String → Prop}
  (same : SideBySide m m' change R)
include same

theorem linked (kind : TokenKind) (s : String) :
    R (m.linked kind s) (m'.linked kind (change s)) := by
  unfold Markup.linked
  split
  · exact same.link _ _ (same.text s)
  · exact same.link _ _ (same.text s)
  · exact same.text s

theorem formatted (f : Formatting) {s s' : String} (h : R s s') :
    R (m.formatted f s) (m'.formatted f s') := by
  unfold Markup.formatted
  extract_lets slanted weighted lettered lined slanted' weighted' lettered' lined'
  have slant : R slanted slanted' := applyIf_related _ same.emphasis h
  have weight : R weighted weighted' := applyIf_related _ same.strong slant
  have letters : R lettered lettered' := applyIf_related _ same.smallCaps weight
  have line : R lined lined' := applyIf_related _ same.underline letters
  split
  · exact same.superscript line
  · exact same.subscript line
  · exact line

theorem add {w w' : Written} (h : w.Related R w') {s s' : String} (hs : R s s') :
    (w.add s).Related R (w'.add s') := by
  obtain ⟨outside, groups⟩ := w
  obtain ⟨outside', groups'⟩ := w'
  obtain ⟨ho, hg⟩ := h
  cases hg with
  | nil => exact ⟨same.append ho hs, .nil⟩
  | cons first others => exact ⟨ho, .cons ⟨first.1, same.append first.2 hs⟩ others⟩

theorem close {w w' : Written} (h : w.Related R w') : (w.close m).Related R (w'.close m') := by
  obtain ⟨outside, groups⟩ := w
  obtain ⟨outside', groups'⟩ := w'
  obtain ⟨ho, hg⟩ := h
  cases hg with
  | nil => exact ⟨ho, .nil⟩
  | @cons g g' rest rest' first others =>
    obtain ⟨display, content⟩ := g
    obtain ⟨display', content'⟩ := g'
    obtain ⟨rfl, hc⟩ := first
    have below : Written.Related R ⟨outside, rest⟩ ⟨outside', rest'⟩ := ⟨ho, others⟩
    exact same.add below (same.display display hc)

theorem step {w w' : Written} (h : w.Related R w') (t : Token) :
    (m.step w t).Related R (m'.step w' (t.mapText change)) := by
  cases t with
  | text kind s formatting => exact same.add h (same.formatted formatting (same.linked kind s))
  | displayStart display => exact ⟨h.outside, .cons ⟨rfl, same.empty⟩ h.groups⟩
  | displayEnd display => exact same.close h

theorem finish {outside outside' : String} (ho : R outside outside')
    {groups groups' : List (Display × String)}
    (hg : List.Forall₂ (fun g g' => g.1 = g'.1 ∧ R g.2 g'.2) groups groups') :
    R (Written.finish m outside groups) (Written.finish m' outside' groups') := by
  cases hg with
  | nil => simpa only [Written.finish] using ho
  | @cons g g' rest rest' first others =>
    -- Closing a group lengthens the text of the next one, so the innermost group is any.
    induction others generalizing g g' with
    | nil =>
      obtain ⟨display, content⟩ := g
      obtain ⟨display', content'⟩ := g'
      obtain ⟨rfl, hc⟩ := first
      simpa only [Written.finish] using same.append ho (same.display display hc)
    | cons next _ ih =>
      obtain ⟨display, content⟩ := g
      obtain ⟨display', content'⟩ := g'
      obtain ⟨rfl, hc⟩ := first
      rw [Written.finish, Written.finish]
      exact ih ⟨next.1, same.append next.2 (same.display display hc)⟩

/-- Whatever marks there are, what the two markups write is related. -/
theorem write (b : Buffer) : R (m.write b) (m'.write (b.map (·.mapText change))) := by
  have start : Written.Related R ⟨"", []⟩ ⟨"", []⟩ := ⟨same.empty, .nil⟩
  have walked : (b.foldl m.step ⟨"", []⟩).Related R
      ((b.map (·.mapText change)).foldl m'.step ⟨"", []⟩) := by
    rw [List.foldl_map]
    exact List.foldl_rel start fun t _ w w' h => same.step h t
  exact same.finish walked.outside walked.groups

end SideBySide

/-! ## The texts alone -/

/-- A markup that writes the texts and nothing else. -/
def bare : Markup where
  text s := s
  emphasis s := s
  strong s := s
  smallCaps s := s
  underline s := s
  superscript s := s
  subscript s := s
  link _ s := s
  display _ s := s

namespace Written

/-- The texts of some groups, from the outside in. -/
def inside : List (Display × String) → String
  | [] => ""
  | (_, content) :: rest => inside rest ++ content

/-- All that is written so far. -/
def whole (w : Written) : String := w.outside ++ inside w.groups

theorem whole_add (w : Written) (s : String) : (w.add s).whole = w.whole ++ s := by
  obtain ⟨outside, groups⟩ := w
  cases groups with
  | nil => simp [add, whole, inside]
  | cons g rest => simp [add, whole, inside, String.append_assoc]

theorem whole_close (w : Written) : (w.close bare).whole = w.whole := by
  obtain ⟨outside, groups⟩ := w
  cases groups with
  | nil => rfl
  | cons g rest =>
    rw [close, whole_add]
    simp [whole, inside, bare, String.append_assoc]

theorem finish_bare (outside : String) (groups : List (Display × String)) :
    finish bare outside groups = outside ++ inside groups := by
  fun_induction finish bare outside groups with
  | case1 => simp [inside]
  | case2 display content => simp [inside, bare]
  | case3 display content outer text rest ih =>
    rw [ih]
    simp [inside, bare, String.append_assoc]

end Written

theorem formatted_bare (f : Formatting) (s : String) : bare.formatted f s = s := by
  have unchanged (condition : Bool) (t : String) : applyIf condition (fun s => s) t = t := by
    cases condition <;> rfl
  unfold Markup.formatted
  simp only [bare, unchanged]
  split <;> rfl

theorem linked_bare (kind : TokenKind) (s : String) : bare.linked kind s = s := by
  cases kind <;> rfl

theorem whole_step (w : Written) (t : Token) : (bare.step w t).whole = w.whole ++ t.content := by
  cases t with
  | text kind s formatting =>
    rw [step, Written.whole_add, formatted_bare, linked_bare, Token.content]
  | displayStart display => simp [step, Written.whole, Written.inside, Token.content]
  | displayEnd display => simp [step, Written.whole_close, Token.content]

/-- The texts alone are the plain text, wherever the marks stand. -/
theorem write_bare (b : Buffer) : bare.write b = b.plainText := by
  have walked (w : Written) : (b.foldl bare.step w).whole = w.whole ++ b.plainText := by
    induction b generalizing w with
    | nil => simp [Buffer.plainText, String.join]
    | cons t rest ih =>
      rw [List.foldl_cons, ih, whole_step, String.append_assoc]
      simp [Buffer.plainText, String.join_cons]
  unfold write
  rw [Written.finish_bare]
  simpa [Written.whole, Written.inside] using walked ⟨"", []⟩

end CiteStyle.Markup
