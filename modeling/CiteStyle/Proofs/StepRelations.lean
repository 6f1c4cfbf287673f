-- What rendering does to a pass, in general. A relation between passes that
-- holds of each small change holds between the pass before any element and
-- the pass after it. Each law about passes is such a relation. Two passes that are
-- taken side by side keep to a relation in the same way, step by step.
import CiteStyle.Proofs.StepLaws

namespace CiteStyle

open Rendering

/-- A relation between an earlier and a later pass that the small changes of rendering keep to. -/
structure StepRelation (R : Pass → Pass → Prop) : Prop where
  refl : ∀ p, R p p
  trans : ∀ {p q r}, R p q → R q r → R p r
  label : ∀ p l, R p { p with lastLabel := some l }
  readers : ∀ p readers, R p { p with readers }
  suppress : ∀ p names, R p (p.suppress names)

/-- The pass before a step and the pass after it are related. -/
def Keeps (R : Pass → Pass → Prop) (x : Rendering α) : Prop := ∀ p, R p (x p).2.2

namespace StepRelation

variable {R : Pass → Pass → Prop} (step : StepRelation R)
include step

theorem law (s : Setting) : StepLaw s (Keeps R) where
  pure _ p := step.refl p
  bind hx hf p := step.trans (hx p) (hf _ _)
  listening hx := hx
  report _ _ p := step.refl p
  suppressed hf p := hf _ p
  lastLabel hf p := hf _ p
  label l p := step.label p l
  suppress names p := step.suppress p names
  readDate text := by
    unfold readDate
    split
    · exact fun p => step.refl p
    · exact fun p => step.readers p _

theorem keeps_map {x : Rendering α} (f : α → β) (hx : Keeps R x) : Keeps R (f <$> x) := by
  rw [map_eq_pure_bind]
  exact fun p => step.trans (hx p) (step.refl _)

theorem keeps_piecesOf {call : String → Rendering Buffer} (s : Setting) (es : List Element)
    (calls : ∀ name ∈ Element.callsOf es, Keeps R (call name)) :
    Keeps R (Element.piecesOf call s es) := (step.law s).elementLaw.piecesOf es calls

/-- If also calls in vain keep to a relation, then all calls do. -/
theorem keeps_renderCall (missed : ∀ name, Keeps R (Element.missCall name)) (s : Setting)
    (depth : Nat) : ∀ name, Keeps R (Element.renderCall s depth name) :=
  (step.law s).elementLaw.renderCall missed depth

theorem keeps_renderWithin (missed : ∀ name, Keeps R (Element.missCall name)) (s : Setting)
    (depth : Nat) (elements : List Element) : Keeps R (Element.renderWithin s depth elements) :=
  (step.law s).elementLaw.renderWithin missed depth elements

end StepRelation

/-! ## Two passes side by side -/

/-- A step gives and tells the same in two passes that are related, and leaves them related. -/
def Alike (R : Pass → Pass → Prop) (x : Rendering α) : Prop :=
  ∀ p q, R p q → (x p).1 = (x q).1 ∧ (x p).2.1 = (x q).2.1 ∧ R (x p).2.2 (x q).2.2

/-- A relation between two passes that are taken side by side. What a step sees of them is the
same, and small changes that are made in both keep to it. -/
structure PassMatch (s : Setting) (R : Pass → Pass → Prop) : Prop where
  suppressed : ∀ {p q}, R p q → p.suppressed = q.suppressed
  lastLabel : ∀ {p q}, R p q → p.lastLabel = q.lastLabel
  label : ∀ {p q}, R p q → ∀ l, R { p with lastLabel := some l } { q with lastLabel := some l }
  suppress : ∀ {p q}, R p q → ∀ names, R (p.suppress names) (q.suppress names)
  readDate : ∀ text, Alike R (readDate s text)

namespace Alike

variable {R : Pass → Pass → Prop}

theorem pure (a : α) : Alike R (pure a : Rendering α) := fun _ _ h => ⟨rfl, rfl, h⟩

theorem bind {x : Rendering α} {f : α → Rendering β} (hx : Alike R x)
    (hf : ∀ a, Alike R (f a)) : Alike R (x >>= f) := by
  intro p q h
  obtain ⟨result, told, after⟩ := hx p q h
  obtain ⟨result', told', after'⟩ := hf (x p).1 _ _ after
  rw [bind_apply, bind_apply, ← result]
  exact ⟨result', by rw [told, told'], after'⟩

theorem listening {x : Rendering α} (hx : Alike R x) : Alike R (listening x) := by
  intro p q h
  obtain ⟨result, told, after⟩ := hx p q h
  exact ⟨Prod.ext result told, told, after⟩

/-- If calls in vain keep to a relation, they are alike. -/
theorem missCall {name : String} (missed : ∀ p q, R p q →
    R { p with missedCalls := p.missedCalls ++ [name] }
      { q with missedCalls := q.missedCalls ++ [name] }) : Alike R (Element.missCall name) :=
  bind (fun p q h => ⟨rfl, rfl, missed p q h⟩) fun _ => pure []

end Alike

theorem PassMatch.law {s : Setting} {R : Pass → Pass → Prop} (matched : PassMatch s R) :
    StepLaw s (Alike R) where
  pure := Alike.pure
  bind := Alike.bind
  listening := Alike.listening
  report _ _ _ _ h := ⟨rfl, rfl, h⟩
  suppressed {_ f} hf p q h := by
    rw [bind_apply, bind_apply]
    have same : f q.suppressed = f p.suppressed := by rw [matched.suppressed h]
    exact same ▸ hf p.suppressed p q h
  lastLabel {_ f} hf p q h := by
    rw [bind_apply, bind_apply]
    have same : f q.lastLabel = f p.lastLabel := by rw [matched.lastLabel h]
    exact same ▸ hf p.lastLabel p q h
  label l _ _ h := ⟨rfl, rfl, matched.label h l⟩
  suppress names _ _ h := ⟨rfl, rfl, matched.suppress h names⟩
  readDate := matched.readDate

/-! ## Relations that hold -/

/-- Nothing that is suppressed is forgotten. -/
theorem step_suppressed : StepRelation fun p q => p.suppressed <+: q.suppressed where
  refl _ := List.prefix_rfl
  trans h h' := h.trans h'
  label _ _ := List.prefix_rfl
  readers _ _ := List.prefix_rfl
  suppress _ names := List.prefix_append _ names

/-- Apart from macros, nothing is called in vain. -/
theorem step_missedCalls : StepRelation fun p q => q.missedCalls = p.missedCalls where
  refl _ := rfl
  trans h h' := h'.trans h
  label _ _ := rfl
  readers _ _ := rfl
  suppress _ _ := rfl

/-- Nothing that was called in vain is forgotten. -/
theorem step_missedCalls_prefix : StepRelation fun p q => p.missedCalls <+: q.missedCalls where
  refl _ := List.prefix_rfl
  trans h h' := h.trans h'
  label _ _ := List.prefix_rfl
  readers _ _ := List.prefix_rfl
  suppress _ _ := List.prefix_rfl

end CiteStyle
