-- The labels of the parts of a locator, one after the other. They are those that count in the
-- text, with nothing in front of them if the text does not open with one, and with equal
-- neighbours taken together. So only the first part may be without a label, and neighbours
-- never have the same one, whatever words and marks stand between the labels.
import CiteStyle.Proofs.LocatorTokens
import Mathlib.Data.List.Destutter

namespace CiteStyle.Locator

open Text

/-! ## The labels that count -/

/-- The label that a token spells. -/
def Token.label? : Token → Option Label
  | .word text => Label.ofWord? text
  | _ => none

/-- The labels that count among some tokens: those with a token behind them that stand at the
start, where `opens` says that this is a place for one, or right after a comma or a semicolon. -/
def labelsOf (opens : Bool) : List Token → List Label
  | [] => []
  | t :: rest =>
    (if opens && !rest.isEmpty then t.label?.toList else []) ++ labelsOf t.endsPart rest

theorem labelsOf_of_label {ts after : List Token} {label : Label}
    (h : leadingLabel? ts = some (label, after)) :
    labelsOf true ts = label :: labelsOf false after := by
  unfold leadingLabel? at h
  split at h
  · rename_i text next rest
    obtain ⟨found, known, same⟩ := Option.map_eq_some_iff.mp h
    obtain ⟨rfl, rfl⟩ := Prod.mk.inj same
    simp [labelsOf, Token.label?, known, Token.endsPart]
  · contradiction

theorem labelsOf_of_none {ts : List Token} (h : leadingLabel? ts = none) (opens : Bool) :
    labelsOf opens ts = labelsOf false ts := by
  rcases ts with _ | ⟨t, _ | ⟨next, rest⟩⟩
  · rfl
  · simp [labelsOf]
  · cases t with
    | word text =>
      rw [leadingLabel?, Option.map_eq_none_iff] at h
      simp [labelsOf, Token.label?, h]
    | _ => simp [labelsOf, Token.label?]

/-! ## The labels of segments -/

/-- Apart from the first, a segment starts at a label that counts, and each of these starts one. -/
theorem labels_segmentsFrom (label : Option Label) (taken ts : List Token) :
    (segmentsFrom label taken ts).map (·.label) = label :: (labelsOf false ts).map some := by
  induction label, taken, ts using segmentsFrom.induct with
  | case1 label taken =>
    rw [segmentsFrom]
    rfl
  | case2 label taken t rest next after h ends ih =>
    have labels : labelsOf false (t :: rest) = next :: labelsOf false after := by
      rw [labelsOf, ends, labelsOf_of_label h]
      rfl
    rw [segmentsFrom_cut h ends, List.map_cons, ih, labels, List.map_cons]
  | case3 label taken t rest next after h noEnd ih =>
    have labels : labelsOf false (t :: rest) = labelsOf false rest := by
      rw [labelsOf, Bool.eq_false_iff.mpr noEnd]
      rfl
    rw [segmentsFrom_take (absurd · noEnd), ih, labels]
  | case4 label taken t rest h ih =>
    have labels : labelsOf false (t :: rest) = labelsOf false rest := by
      rw [labelsOf, labelsOf_of_none h]
      rfl
    rw [segmentsFrom_take fun _ => h, ih, labels]

/-- The labels that count, behind the lack of one if the tokens do not start with a label. -/
def openedLabels (ts : List Token) : List (Option Label) :=
  (if (leadingLabel? ts).isSome then [] else [none]) ++ (labelsOf true ts).map some

theorem labels_segments (ts : List Token) : (segments ts).map (·.label) = openedLabels ts := by
  unfold segments openedLabels
  split
  · rename_i label after h
    rw [labels_segmentsFrom, h, labelsOf_of_label h]
    rfl
  · rename_i h
    rw [labels_segmentsFrom, h, labelsOf_of_none h true]
    rfl

theorem labels_trimLast (segs : List Segment) :
    (trimLast segs).map (·.label) = segs.map (·.label) := by
  fun_induction trimLast segs with
  | case1 => rfl
  | case2 => rfl
  | case3 s rest _ ih => rw [List.map_cons, ih, List.map_cons]

theorem openedLabels_eq_cons (ts : List Token) :
    ∃ (first : Option Label) (others : List Label), openedLabels ts = first :: others.map some := by
  unfold openedLabels
  rcases h : leadingLabel? ts with _ | ⟨label, after⟩
  · exact ⟨none, labelsOf true ts, rfl⟩
  · exact ⟨some label, labelsOf false after, by rw [labelsOf_of_label h]; rfl⟩

/-! ## Neighbours with one label -/

/-- Joining takes equal labels together, if none is missing behind the first part. -/
theorem labels_joinSame (current : Part) {rest : List Part}
    (labelled : ∀ part ∈ rest, part.label.isSome) :
    (joinSame current rest).map (·.label) =
      (rest.map (·.label)).destutter' (· ≠ ·) current.label := by
  induction rest generalizing current with
  | nil => rfl
  | cons next rest ih =>
    rw [List.forall_mem_cons] at labelled
    rw [joinSame, List.map_cons]
    by_cases same : current.label = next.label
    · rw [if_pos (by simp [same, labelled.1]), List.destutter'_cons_neg _ (not_not_intro same)]
      exact ih ⟨_, current.label, true⟩ labelled.2
    · rw [List.destutter'_cons_pos _ same, ← ih next labelled.2]
      simp [same]

/-- The labels of a locator's parts, one by one: the labels that count, and neighbours that are
equal are taken together. -/
theorem labels_parts (value : String) :
    (parts value).map (·.label) =
      ((openedLabels ((tokensOf? value.toList).getD [])).map (·.map (·.term))).destutter
        (· ≠ ·) := by
  unfold parts
  split
  · rename_i unread
    rw [unread]
    rfl
  · rename_i empty
    rw [empty]
    rfl
  · rename_i ts _ read
    obtain ⟨first, others, opened⟩ := openedLabels_eq_cons ts
    have labels : (trimLast (segments ts)).map (·.label) = first :: others.map some := by
      rw [labels_trimLast, labels_segments, opened]
    obtain ⟨s, segs, same⟩ := List.exists_cons_of_ne_nil (l := trimLast (segments ts)) (by
      rintro none
      simp [none] at labels)
    rw [same, List.map_cons, List.cons.injEq] at labels
    have behind : (segs.map Segment.toPart).map (·.label) = others.map (some ·.term) := by
      have terms := congrArg (List.map (Option.map Label.term)) labels.2
      rw [List.map_map, List.map_map] at terms
      rw [List.map_map]
      exact terms
    have labelled : ∀ part ∈ segs.map Segment.toPart, part.label.isSome := by
      rw [← List.forall_mem_map (f := Part.label) (P := (·.isSome)), behind]
      simp
    rw [read, Option.getD_some, opened, same, List.map_cons, labels_joinSame _ labelled, behind,
      List.map_cons, List.destutter_cons', List.map_map, ← labels.1]
    rfl

/-! ## The first part and the others -/

/-- Taking equal neighbours together keeps the first, and adds nothing. -/
theorem destutter'_eq_cons [DecidableEq α] (first : α) (others : List α) :
    ∃ kept, others.destutter' (· ≠ ·) first = first :: kept ∧ kept ⊆ others := by
  induction others generalizing first with
  | nil => exact ⟨[], rfl, List.nil_subset _⟩
  | cons next others ih =>
    by_cases same : first = next
    · obtain ⟨kept, joined, within⟩ := ih first
      rw [List.destutter'_cons_neg _ (not_not_intro same)]
      exact ⟨kept, joined, List.subset_cons_of_subset next within⟩
    · obtain ⟨kept, joined, within⟩ := ih next
      rw [List.destutter'_cons_pos _ same, joined]
      exact ⟨next :: kept, rfl, List.cons_subset_cons next within⟩

/-- There is a part, and only the first one may be without a label. -/
theorem exists_parts (value : String) :
    ∃ first rest, parts value = first :: rest ∧ ∀ part ∈ rest, part.label.isSome := by
  obtain ⟨label, others, opened⟩ := openedLabels_eq_cons ((tokensOf? value.toList).getD [])
  have labels := labels_parts value
  rw [opened, List.map_cons, List.destutter_cons'] at labels
  obtain ⟨kept, joined, within⟩ := destutter'_eq_cons (label.map (·.term))
    ((others.map some).map (·.map (·.term)))
  rw [joined] at labels
  obtain ⟨first, rest, same, -, behind⟩ := List.map_eq_cons_iff.mp labels
  refine ⟨first, rest, same, fun part mem => ?_⟩
  have listed := within (behind ▸ List.mem_map_of_mem mem)
  simp only [List.map_map, List.mem_map, Function.comp_apply] at listed
  obtain ⟨other, -, known⟩ := listed
  simp [← known]

/-- Neighbouring parts have different labels. -/
theorem isChain_parts (value : String) :
    (parts value).IsChain fun part next => part.label ≠ next.label := by
  rw [← List.isChain_map (f := Part.label) (R := (· ≠ ·)), labels_parts]
  exact List.isChain_destutter _ _

/-- A locator has a part, only the first of its parts may be without a label, and no two
neighbours have the same one. The labels of the parts are those that count in the text, in their
order, with equal neighbours taken together; a text that does not open with a label has a part
without one in front. -/
theorem parts_labels (value : String) :
    parts value ≠ [] ∧ (∀ part ∈ (parts value).tail, part.label.isSome) ∧
      ((parts value).IsChain fun part next => part.label ≠ next.label) ∧
      (parts value).map (·.label) =
        ((openedLabels ((tokensOf? value.toList).getD [])).map (·.map (·.term))).destutter
          (· ≠ ·) := by
  obtain ⟨first, rest, same, named⟩ := exists_parts value
  refine ⟨?_, ?_, isChain_parts value, labels_parts value⟩
  · rw [same]
    exact List.cons_ne_nil first rest
  · rw [same]
    exact named

/-- Two sections in a row are one part, and a label that comes back later is a part again. -/
example : (parts "12, ch. 10, sec. 40; sections 41, 42, ch. 2").map (·.label) =
    [none, some "chapter", some "section", some "chapter"] := by
  decide +kernel

end CiteStyle.Locator
