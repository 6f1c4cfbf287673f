-- The candidates of a substitute. They are rendered one after the other in the
-- pass itself until one gives output: those in front of it are what elements are
-- that give none, and all that the winner looks up counts as absent afterwards.
import CiteStyle.Proofs.StepRelations

namespace CiteStyle

open Rendering

namespace Element

/-! ## Elements one after the other -/

theorem renderWithin_nil (s : Setting) (depth : Nat) (p : Pass) :
    renderWithin s depth [] p = ([], [], p) := by
  unfold renderWithin piecesOf
  rw [map_apply, pure_apply]
  rfl

theorem piecesOf_append (call : String → Rendering Buffer) (s : Setting)
    (first others : List Element) :
    piecesOf call s (first ++ others) =
      (do return (← piecesOf call s first) ++ (← piecesOf call s others)) := by
  induction first with
  | nil => simp only [List.nil_append, piecesOf, pure_bind, bind_pure]
  | cons e rest ih =>
    simp only [List.cons_append, piecesOf, ih, bind_assoc, pure_bind, List.append_assoc]

theorem piecesOf_append_apply (call : String → Rendering Buffer) (s : Setting)
    (first others : List Element) (p : Pass) :
    piecesOf call s (first ++ others) p =
      let before := piecesOf call s first p
      let after := piecesOf call s others before.2.2
      (before.1 ++ after.1, before.2.1 ++ after.2.1, after.2.2) := by
  simp only [piecesOf_append, bind_apply, pure_apply, List.append_nil]

theorem piecesOf_singleton (call : String → Rendering Buffer) (s : Setting) (e : Element) :
    piecesOf call s [e] = pieces call s e := by
  simp only [piecesOf, pure_bind, List.append_nil, bind_pure]

theorem renderWithin_single (s : Setting) (depth : Nat) (e : Element) :
    renderWithin s depth [e] = List.flatten <$> pieces (renderCall s depth) s e := by
  rw [renderWithin, piecesOf_singleton]

theorem renderWithin_append (s : Setting) (depth : Nat) (first others : List Element) (p : Pass) :
    renderWithin s depth (first ++ others) p =
      let before := renderWithin s depth first p
      let after := renderWithin s depth others before.2.2
      (before.1 ++ after.1, before.2.1 ++ after.2.1, after.2.2) := by
  unfold renderWithin
  simp only [piecesOf_append, map_apply, bind_apply, pure_apply, List.flatten_append,
    List.append_nil]

theorem renderWithin_cons (s : Setting) (depth : Nat) (e : Element) (rest : List Element)
    (p : Pass) :
    renderWithin s depth (e :: rest) p =
      let before := renderWithin s depth [e] p
      let after := renderWithin s depth rest before.2.2
      (before.1 ++ after.1, before.2.1 ++ after.2.1, after.2.2) :=
  renderWithin_append s depth [e] rest p

/-! ## Candidates -/

theorem firstFilled_cons (call : String → Rendering Buffer) (s : Setting) (e : Element)
    (rest : List Element) (p : Pass) :
    firstFilled call s (e :: rest) p =
      let (items, fetches, left) := e.pieces call s p
      if items.flatten.isEmpty then
        let found := firstFilled call s rest left
        (found.1, fetches ++ found.2.1, found.2.2)
      else (items.flatten, fetches, left.suppress (Fetch.names fetches)) := by
  rcases h : e.pieces call s p with ⟨items, fetches, left⟩
  have heard : listening (e.pieces call s) p = ((items, fetches), fetches, left) := by
    simp only [listening, h]
  rw [firstFilled, bind_apply, heard]
  by_cases blank : items.flatten.isEmpty
  · simp only [if_pos blank]
  · simp only [if_neg blank, bind_apply, change, pure_apply, List.append_nil]

/-- What stands in the place of names, with macros called to some depth. -/
def substituteWithin (s : Setting) (depth : Nat) (candidates : List Element) : Rendering Buffer :=
  firstFilled (renderCall s depth) s candidates

theorem substituteWithin_cons (s : Setting) (depth : Nat) (e : Element) (rest : List Element)
    (p : Pass) :
    substituteWithin s depth (e :: rest) p =
      let (content, fetches, left) := renderWithin s depth [e] p
      if content.isEmpty then
        let found := substituteWithin s depth rest left
        (found.1, fetches ++ found.2.1, found.2.2)
      else (content, fetches, left.suppress (Fetch.names fetches)) := by
  rcases h : e.pieces (renderCall s depth) s p with ⟨items, fetches, left⟩
  have alone : renderWithin s depth [e] p = (items.flatten, fetches, left) := by
    simp [renderWithin, piecesOf, map_apply, h]
  unfold substituteWithin
  rw [firstFilled_cons, h, alone]

/-- Candidates without output are rendered all the same, as elements that follow each other. Then
the others have their turn. -/
theorem substituteWithin_losers {s : Setting} {depth : Nat} {losers : List Element} {p : Pass}
    (lost : (renderWithin s depth losers p).1 = []) (rest : List Element) :
    substituteWithin s depth (losers ++ rest) p =
      let left := renderWithin s depth losers p
      let found := substituteWithin s depth rest left.2.2
      (found.1, left.2.1 ++ found.2.1, found.2.2) := by
  induction losers generalizing p with
  | nil =>
    rw [renderWithin_nil]
    rfl
  | cons e losers ih =>
    rw [renderWithin_cons] at lost
    obtain ⟨blank, others⟩ := List.append_eq_nil_iff.mp lost
    rw [List.cons_append, substituteWithin_cons, renderWithin_cons s depth e losers]
    simp only [blank, List.isEmpty_nil, if_true, ih others, List.append_assoc]

/-- A candidate with output wins. All that it looks up is suppressed, and no candidate behind it is
rendered. -/
theorem substituteWithin_winner {s : Setting} {depth : Nat} {winner : Element} {p : Pass}
    (filled : (renderWithin s depth [winner] p).1 ≠ []) (rest : List Element) :
    substituteWithin s depth (winner :: rest) p =
      let won := renderWithin s depth [winner] p
      (won.1, won.2.1, won.2.2.suppress (Fetch.names won.2.1)) := by
  rw [substituteWithin_cons]
  simp [filled]

end Element

/-! ## What the winner looks up -/

theorem Fetch.mem_addName {names : List String} {fetch : Fetch} {name : String} :
    name ∈ Fetch.addName names fetch ↔ name ∈ names ∨ name = fetch.name := by
  unfold addName
  split
  · rename_i known
    have mem : fetch.name ∈ names := by simpa using known
    exact ⟨.inl, fun h => h.elim id (· ▸ mem)⟩
  · simp

/-- The names of some look-ups are those that were looked up. -/
theorem Fetch.mem_names {fetches : List Fetch} {name : String} :
    name ∈ Fetch.names fetches ↔ ∃ fetch ∈ fetches, fetch.name = name := by
  have collected (names : List String) : name ∈ fetches.foldl addName names ↔
      name ∈ names ∨ ∃ fetch ∈ fetches, fetch.name = name := by
    induction fetches generalizing names with
    | nil => simp
    | cons fetch rest ih =>
      rw [List.foldl_cons, ih, mem_addName]
      simp [or_assoc, eq_comm]
  exact (collected []).trans (by simp)

end CiteStyle
