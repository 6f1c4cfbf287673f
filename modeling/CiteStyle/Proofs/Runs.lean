-- Runs of characters of one class, and what ends them. A reader that takes the
-- longest run takes exactly the run that was written, if what follows does not
-- go on with the same class. A list is read item by item.
import CiteStyle.Text.Cut
import Mathlib.Data.List.Forall2

namespace CiteStyle.Text

variable {p : α → Bool} {run rest : List α}

/-! ## The longest run -/

theorem takeWhile_run (all : ∀ c ∈ run, p c) (stop : ∀ c ∈ rest.head?, p c = false) :
    (run ++ rest).takeWhile p = run := by
  rw [List.takeWhile_append_of_pos all]
  obtain _ | ⟨c, cs⟩ := rest
  · exact List.append_nil run
  · rw [List.takeWhile_cons_of_neg (by simp [stop c rfl]), List.append_nil]

theorem dropWhile_run (all : ∀ c ∈ run, p c) (stop : ∀ c ∈ rest.head?, p c = false) :
    (run ++ rest).dropWhile p = rest := by
  have whole := List.takeWhile_append_dropWhile (p := p) (l := run ++ rest)
  rw [takeWhile_run all stop] at whole
  exact List.append_cancel_left whole

/-- What is left behind the longest run does not go on with it. -/
theorem head?_dropWhile {p : α → Bool} {cs : List α} :
    ∀ c ∈ (cs.dropWhile p).head?, p c = false := by
  intro c hc
  have outside := List.head?_dropWhile_not p cs
  rw [Option.mem_def.mp hc] at outside
  simpa using outside

/-- What does not go on with a run does not make the first one longer. -/
theorem takeWhile_concat {d : α} (stop : p d = false) (cs : List α) :
    (cs ++ [d]).takeWhile p = cs.takeWhile p := by
  induction cs with
  | nil => simp [stop]
  | cons c cs ih => rw [List.cons_append, List.takeWhile_cons, List.takeWhile_cons, ih]

theorem dropWhile_concat {d : α} (stop : p d = false) (cs : List α) :
    (cs ++ [d]).dropWhile p = cs.dropWhile p ++ [d] := by
  induction cs with
  | nil => simp [stop]
  | cons c cs ih =>
    rw [List.cons_append, List.dropWhile_cons, List.dropWhile_cons, ih]
    split
    · rfl
    · rfl

theorem mem_of_head?_append {c : α} (filled : run ≠ []) (h : c ∈ (run ++ rest).head?) :
    c ∈ run := by
  obtain _ | ⟨d, ds⟩ := run
  · exact absurd rfl filled
  · rw [List.cons_append, List.head?_cons, Option.mem_some_iff] at h
    exact h ▸ List.mem_cons_self

theorem mem_or_of_head?_append {c : α} (h : c ∈ (run ++ rest).head?) :
    c ∈ run ∨ c ∈ rest.head? := by
  obtain _ | ⟨d, ds⟩ := run
  · exact .inr h
  · exact .inl (mem_of_head?_append (List.cons_ne_nil d ds) h)

theorem mem_of_getLast?_append {c : α} (filled : run ≠ []) (h : c ∈ (rest ++ run).getLast?) :
    c ∈ run := by
  rw [← List.head?_reverse, List.reverse_append] at h
  exact List.mem_reverse.mp (mem_of_head?_append (by simpa using filled) h)

theorem dropEndWhile_run {front : List α} (all : ∀ c ∈ run, p c)
    (stop : ∀ c ∈ front.getLast?, p c = false) : dropEndWhile p (front ++ run) = front := by
  unfold dropEndWhile
  rw [List.reverse_append, dropWhile_run, List.reverse_reverse]
  · exact fun c hc => all c (List.mem_reverse.mp hc)
  · rwa [List.head?_reverse]

theorem getLast?_dropEndWhile {p : α → Bool} {cs : List α} :
    ∀ c ∈ (dropEndWhile p cs).getLast?, p c = false := by
  intro c hc
  rw [dropEndWhile, List.getLast?_reverse] at hc
  have outside := List.head?_dropWhile_not p cs.reverse
  rw [Option.mem_def.mp hc] at outside
  simpa using outside

/-- What is dropped from the end is a run. -/
theorem exists_dropEndWhile (p : α → Bool) (cs : List α) :
    ∃ run, cs = dropEndWhile p cs ++ run ∧ ∀ c ∈ run, p c := by
  refine ⟨(cs.reverse.takeWhile p).reverse, ?_, fun c mem => ?_⟩
  · have whole := List.takeWhile_append_dropWhile (p := p) (l := cs.reverse)
    rw [dropEndWhile, ← List.reverse_append, whole, List.reverse_reverse]
  · exact List.all_eq_true.mp List.all_takeWhile c (List.mem_reverse.mp mem)

theorem length_dropEndWhile_le (p : α → Bool) (cs : List α) :
    (dropEndWhile p cs).length ≤ cs.length := by
  have le := (List.dropWhile_suffix (l := cs.reverse) p).length_le
  simpa [dropEndWhile] using le

/-! ## Pieces -/

theorem splitWhere_eq_splitOnP (p : α → Bool) (cs : List α) : splitWhere p cs = cs.splitOnP p := by
  induction cs with
  | nil => rw [splitWhere, List.splitOnP_nil]
  | cons c cs ih =>
    rw [splitWhere, List.splitOnP_cons_eq_if_modifyHead, ih]
    rcases h : cs.splitOnP p with _ | ⟨piece, pieces⟩
    · exact absurd h (List.splitOnP_ne_nil p cs)
    · simp only [List.modifyHead_cons]

/-- Pieces that were joined by a mark are found again. -/
theorem splitWhere_intercalate [BEq α] [LawfulBEq α] {mark : α} {pieces : List (List α)}
    (free : ∀ piece ∈ pieces, mark ∉ piece) (filled : pieces ≠ []) :
    splitWhere (· == mark) ([mark].intercalate pieces) = pieces := by
  rw [splitWhere_eq_splitOnP]
  exact List.splitOn_intercalate mark free filled

/-- No piece contains what the text is split at. -/
theorem splitWhere_free (p : α → Bool) (cs : List α) :
    ∀ piece ∈ splitWhere p cs, ∀ c ∈ piece, p c = false := by
  induction cs with
  | nil => simp [splitWhere]
  | cons c cs ih =>
    rw [splitWhere]
    split
    · exact List.forall_mem_cons.mpr ⟨by simp, ih⟩
    · rename_i kept
      split
      · simpa using kept
      · rename_i piece pieces same
        rw [same, List.forall_mem_cons] at ih
        refine List.forall_mem_cons.mpr ⟨?_, ih.2⟩
        exact List.forall_mem_cons.mpr ⟨Bool.eq_false_iff.mpr kept, ih.1⟩

/-- A text is split at a mark into the pieces without the mark that give it when they are joined
by the mark. -/
theorem splitWhere_eq_iff [BEq α] [LawfulBEq α] {mark : α} {cs : List α} {pieces : List (List α)} :
    splitWhere (· == mark) cs = pieces ↔
      cs = [mark].intercalate pieces ∧ pieces ≠ [] ∧ ∀ piece ∈ pieces, mark ∉ piece := by
  constructor
  · rintro rfl
    refine ⟨?_, ?_, ?_⟩
    · rw [splitWhere_eq_splitOnP]
      exact (List.intercalate_splitOn mark).symm
    · rw [splitWhere_eq_splitOnP]
      exact List.splitOnP_ne_nil _ _
    · intro piece mem inside
      simpa using splitWhere_free (· == mark) cs piece mem mark inside
  · rintro ⟨rfl, filled, free⟩
    exact splitWhere_intercalate free filled

/-! ## Item by item -/

/-- A list is read when all its items are. -/
theorem mapM_eq_some_iff {α β : Type} {f : α → Option β} {xs : List α} {ys : List β} :
    xs.mapM f = some ys ↔ List.Forall₂ (fun x y => f x = some y) xs ys := by
  induction xs generalizing ys with
  | nil => simp [eq_comm]
  | cons x xs ih =>
    rw [List.mapM_cons, List.forall₂_cons_left_iff]
    constructor
    · intro read
      obtain ⟨y, first, read⟩ := Option.bind_eq_some_iff.mp read
      obtain ⟨others, rest, same⟩ := Option.bind_eq_some_iff.mp read
      exact ⟨y, others, first, ih.mp rest, (Option.some.inj same).symm⟩
    · rintro ⟨y, others, first, rest, rfl⟩
      rw [first, ih.mpr rest]
      rfl

theorem exists_of_mapM_eq_some {α β : Type} {f : α → Option β} {xs : List α} {ys : List β}
    (read : xs.mapM f = some ys) {y : β} (mem : y ∈ ys) : ∃ x ∈ xs, f x = some y := by
  have each := mapM_eq_some_iff.mp read
  clear read
  induction each with
  | nil => cases mem
  | cons first _ ih =>
    rcases List.mem_cons.mp mem with rfl | mem
    · exact ⟨_, List.mem_cons_self, first⟩
    · obtain ⟨x, among, read⟩ := ih mem
      exact ⟨x, List.mem_cons_of_mem _ among, read⟩

/-- What was written item by item is read item by item. -/
theorem mapM_map_eq_some {α β γ : Type} {f : β → Option γ} {g : α → β} {h : α → γ} {xs : List α}
    (each : ∀ x ∈ xs, f (g x) = some (h x)) : (xs.map g).mapM f = some (xs.map h) := by
  rw [mapM_eq_some_iff, List.forall₂_map_left_iff, List.forall₂_map_right_iff]
  exact List.forall₂_same.mpr each

/-! ## White space -/

/-- The code points that are white space. -/
def blanks : List Nat :=
  [9, 10, 11, 12, 13, 32, 133, 160, 5760, 8192, 8193, 8194, 8195, 8196, 8197, 8198, 8199, 8200,
    8201, 8202, 8232, 8233, 8239, 8287, 12288]

theorem mem_blanks {c : Char} (h : isBlank c) : c.toNat ∈ blanks := by
  unfold isBlank at h
  generalize c.toNat = n at h
  simp only [Bool.or_eq_true, Bool.and_eq_true, decide_eq_true_eq, beq_iff_eq] at h
  simp only [blanks, List.mem_cons, List.not_mem_nil, or_false]
  omega

/-- What holds of each of these characters holds of white space. -/
theorem of_blank {p : Char → Bool} (all : (blanks.map Char.ofNat).all p) {c : Char}
    (h : isBlank c) : p c := by
  have mem : Char.ofNat c.toNat ∈ blanks.map Char.ofNat := List.mem_map_of_mem (mem_blanks h)
  rw [Char.ofNat_toNat] at mem
  exact List.all_eq_true.mp all c mem

theorem isBlank_alphanumeric {c : Char} (h : isAlphanumeric c) : isBlank c = false := by
  have apart : ∀ n ∈ blanks, ¬(inRanges alphabeticRanges n || inRanges numberRanges n) := by
    decide +kernel
  refine Bool.eq_false_iff.mpr fun blank => ?_
  unfold isAlphanumeric isAlphabetic isNumber at h
  exact apart c.toNat (mem_blanks blank) h

theorem isPlainBlank_eq_false {c : Char} (h : isBlank c = false) : isPlainBlank c = false := by
  refine Bool.eq_false_iff.mpr fun plain => ?_
  simp only [isPlainBlank, Bool.or_eq_true, beq_iff_eq] at plain
  rcases plain with ((rfl | rfl) | rfl) | rfl <;> contradiction

/-- A text that neither starts nor ends with white space is kept as it is. -/
theorem trimChars_of_ends {cs : List Char} (first : ∀ c ∈ cs.head?, isBlank c = false)
    (last : ∀ c ∈ cs.getLast?, isBlank c = false) : trimChars cs = cs := by
  have keep : cs.dropWhile isBlank = cs := @dropWhile_run _ isBlank [] cs (by simp) first
  have kept := @dropEndWhile_run _ isBlank [] cs (by simp) last
  rw [List.append_nil] at kept
  rw [trimChars, keep, kept]

/-- A text that is trimmed already does not start or end with white space. -/
theorem ends_of_trimChars {cs : List Char} (trimmed : trimChars cs = cs) :
    (∀ c ∈ cs.head?, isBlank c = false) ∧ ∀ c ∈ cs.getLast?, isBlank c = false := by
  have last : ∀ c ∈ (trimChars cs).getLast?, isBlank c = false := getLast?_dropEndWhile
  have whole : cs.dropWhile isBlank = cs := by
    refine (List.dropWhile_suffix isBlank).eq_of_length_le ?_
    have le := length_dropEndWhile_le isBlank (cs.dropWhile isBlank)
    rwa [← trimChars, trimmed] at le
  have first := List.head?_dropWhile_not isBlank cs
  rw [whole] at first
  rw [trimmed] at last
  refine ⟨fun c hc => ?_, last⟩
  rw [Option.mem_def.mp hc] at first
  simpa using first

end CiteStyle.Text
