-- Formatting within formatting. Each element lays its formatting under that of its content, so that
-- an attribute of a text is decided by the innermost formatting that sets it, the text's own first.
-- One step of the chain adds one more formatting at the outside, and the law of the chain is the
-- induction over these steps.
import CiteStyle.Decoration
import CiteStyle.Proofs.FormattingWords
import Mathlib.Data.List.Forall2

namespace CiteStyle

namespace Formatting

/-! ## Chains of formatting -/

/-- The value that the innermost formatting of a chain sets for an attribute, if one sets it. The
outermost formatting stands first. -/
def innermost? (chain : List Formatting) (a : Attribute) : Option a.Value :=
  chain.reverse.findSome? (·.get a)

theorem innermost?_nil (a : Attribute) : innermost? [] a = none := rfl

theorem innermost?_cons (outer : Formatting) (chain : List Formatting) (a : Attribute) :
    innermost? (outer :: chain) a = (innermost? chain a).or (outer.get a) := by
  unfold innermost?
  rw [List.reverse_cons, List.findSome?_append, List.findSome?_singleton]

theorem merge_assoc (f g h : Formatting) : (f.merge g).merge h = f.merge (g.merge h) := by
  refine ext_get fun a => ?_
  rw [get_merge, get_merge, get_merge, get_merge, Option.or_assoc]

end Formatting

/-! ## Texts in a chain -/

/-- A token within a chain of formatting. A text has for each attribute its own value, or else that
of the innermost formatting that sets it; all else is the same. -/
inductive Token.Inherits (chain : List Formatting) : Token → Token → Prop
  | text (kind : TokenKind) (s : String) {own result : Formatting} :
      (∀ a, result.get a = (own.get a).or (Formatting.innermost? chain a)) →
      Inherits chain (.text kind s own) (.text kind s result)
  | displayStart (d : Display) : Inherits chain (.displayStart d) (.displayStart d)
  | displayEnd (d : Display) : Inherits chain (.displayEnd d) (.displayEnd d)

theorem Token.inherits_nil (t : Token) : t.Inherits [] t := by
  cases t with
  | text kind s own =>
    refine .text kind s fun a => ?_
    rw [Formatting.innermost?_nil, Option.or_none]
  | displayStart d => exact .displayStart d
  | displayEnd d => exact .displayEnd d

/-- One more formatting at the outside. -/
theorem Token.Inherits.wrap {chain : List Formatting} {t t' : Token} (h : t.Inherits chain t')
    (outer : Formatting) : t.Inherits (outer :: chain) (t'.wrap outer) := by
  cases h with
  | text kind s inherited =>
    refine .text kind s fun a => ?_
    rw [Formatting.get_merge, inherited, Formatting.innermost?_cons, Option.or_assoc]
  | displayStart d => exact .displayStart d
  | displayEnd d => exact .displayEnd d

namespace Buffer

theorem inherits_nil (b : Buffer) : List.Forall₂ (Token.Inherits []) b b :=
  List.forall₂_same.mpr fun t _ => t.inherits_nil

theorem inherits_wrap {chain : List Formatting} {b b' : Buffer}
    (h : List.Forall₂ (Token.Inherits chain) b b') (outer : Formatting) :
    List.Forall₂ (Token.Inherits (outer :: chain)) b (b'.wrap outer) :=
  List.forall₂_map_right_iff.mpr (h.imp fun _ _ inherits => inherits.wrap outer)

theorem wrap_wrap (b : Buffer) (outer inner : Formatting) :
    (b.wrap inner).wrap outer = b.wrap (outer.merge inner) := by
  unfold wrap
  rw [List.map_map]
  refine List.map_congr_left fun t _ => ?_
  cases t with
  | text kind s own => exact congrArg (Token.text kind s) (outer.merge_assoc inner own).symm
  | displayStart d | displayEnd d => rfl

end Buffer

/-! ## Chains of decorations -/

/-- The formatting of a chain of decorations, given from the outside in and applied from the inside
out, leaves each text with its own value of each attribute if that is set, or else with the value of
the innermost formatting that sets it, and leaves the tokens the same in all else. Two of them one
after the other are the same as both in one, the inner laid over the outer; and laying one over
another is what merging the fields of their words does, from which the values can be read back. -/
theorem Decoration.formatting_innermost (locale : Locale) (chain : List Decoration) (b : Buffer) :
    List.Forall₂ (Token.Inherits (chain.map (·.formatting))) b
      (chain.foldr (fun d inner => d.applyStage locale inner .formatting) b) ∧
    (∀ outer inner : Decoration,
      outer.applyStage locale (inner.applyStage locale b .formatting) .formatting =
        ({ formatting := outer.formatting.merge inner.formatting } : Decoration).applyStage locale b
          .formatting) ∧
    (∀ outer inner : Formatting, (outer.merge inner).word = outer.word.merge inner.word) ∧
    ∀ f : Formatting, f.word.toNat = f.bits ∧ ∀ a, f.word.get? a = f.get a := by
  refine ⟨?_, ?_, Formatting.word_merge, fun f => ⟨f.toNat_word, f.get?_word⟩⟩
  · induction chain with
    | nil => exact b.inherits_nil
    | cons outer chain ih => exact Buffer.inherits_wrap ih outer.formatting
  · intro outer inner
    exact b.wrap_wrap outer.formatting inner.formatting

/-- What is set to be upright stays upright within what is slanted and bold. -/
example (locale : Locale) :
    [{ formatting := { fontStyle := some .italic, fontWeight := some .bold } },
      { formatting := { fontStyle := some .normal } }].foldr
        (fun d inner => Decoration.applyStage locale d inner .formatting)
        [.ofText .plain "Beowulf", .displayEnd .block] =
      [.text .plain "Beowulf" { fontStyle := some .normal, fontWeight := some .bold },
        .displayEnd .block] := rfl

end CiteStyle
