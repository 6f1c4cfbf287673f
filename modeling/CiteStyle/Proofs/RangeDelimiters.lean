-- How many delimiters a range of dates takes. The components that both ends
-- share are the more significant ones. So if the components stand in order of
-- significance, those in which the ends differ are one run, at the end or at the
-- start, and the ends are joined once at most.
import CiteStyle.Proofs.DateRanges

namespace CiteStyle

/-! ## A range in pieces -/

/-- A piece of a range as it is written: output of one end or of both, or what is put between the
ends. -/
inductive RangePiece where
  | output (content : Buffer)
  | delimiter (text : String)
  deriving DecidableEq, Repr

namespace RangePiece

/-- What a piece adds to the range. -/
def written : RangePiece → Buffer
  | .output content => content
  | .delimiter text => Buffer.ofText .plain text

/-- A piece that is put between the ends. -/
def isDelimiter : RangePiece → Bool
  | .output _ => false
  | .delimiter _ => true

/-- How many delimiters there are among some pieces. -/
def delimiters (pieces : List RangePiece) : Nat := pieces.countP isDelimiter

@[simp] theorem delimiters_nil : delimiters [] = 0 := rfl

@[simp] theorem delimiters_append (pieces more : List RangePiece) :
    delimiters (pieces ++ more) = delimiters pieces + delimiters more := List.countP_append

@[simp] theorem delimiters_output (content : Buffer) (pieces : List RangePiece) :
    delimiters (.output content :: pieces) = delimiters pieces :=
  List.countP_cons_of_neg (by simp [isDelimiter])

@[simp] theorem delimiters_delimiter (text : String) (pieces : List RangePiece) :
    delimiters (.delimiter text :: pieces) = delimiters pieces + 1 :=
  List.countP_cons_of_pos rfl

end RangePiece

open DatePart RangePiece

/-- The pieces of two ends that are joined. -/
def OpenRange.pieces (r : OpenRange) : List RangePiece :=
  if r.first.isEmpty then [.output r.last]
  else if r.last.isEmpty then [.output r.first]
  else [.output (Buffer.trimLast .behind r.first).2,
    .delimiter ((r.leading.map DatePart.delimiter).getD "–"),
    .output (Buffer.trimFirst .before r.last).2]

/-- The pieces of the rest of a range, after components that are not yet joined. -/
def rangePieces (locale : Locale) (season : Option String) (first last : List Int)
    (r : OpenRange) : List DatePart → List RangePiece
  | [] => r.pieces
  | p :: rest =>
    let atFirst := p.write locale season first
    if p.shared first last then
      r.pieces ++ .output atFirst :: rangePieces locale season first last {} rest
    else
      rangePieces locale season first last (r.add p atFirst (p.write locale season last)) rest

section Pieces

variable (locale : Locale) (season : Option String) (first last : List Int)

theorem OpenRange.flatMap_pieces (r : OpenRange) : r.pieces.flatMap written = r.close := by
  unfold pieces close
  split
  · simp [written]
  · split
    · simp [written]
    · simp [written]

theorem flatMap_rangePieces (r : OpenRange) (parts : List DatePart) :
    (rangePieces locale season first last r parts).flatMap written =
      writeRangeFrom locale season first last r parts := by
  induction parts generalizing r with
  | nil => exact r.flatMap_pieces
  | cons p rest ih =>
    rw [rangePieces, writeRangeFrom]
    split
    · rw [List.flatMap_append, List.flatMap_cons, r.flatMap_pieces, ih, List.append_assoc]
      rfl
    · exact ih _

/-! ## Counting delimiters -/

/-- Two ends are joined by one delimiter, and an end alone by none. -/
theorem OpenRange.delimiters_pieces (r : OpenRange) :
    delimiters r.pieces = if r.first = [] ∨ r.last = [] then 0 else 1 := by
  unfold pieces
  simp only [List.isEmpty_iff]
  by_cases noFirst : r.first = []
  · simp [noFirst]
  · by_cases noLast : r.last = []
    · simp [noFirst, noLast]
    · simp [noFirst, noLast]

/-- Shared components take no delimiter. -/
theorem delimiters_shared {run : List DatePart} (shared : ∀ p ∈ run, p.shared first last)
    (rest : List DatePart) :
    delimiters (rangePieces locale season first last {} (run ++ rest)) =
      delimiters (rangePieces locale season first last {} rest) := by
  induction run with
  | nil => rfl
  | cons p run ih =>
    have tail := ih fun q mem => shared q (List.mem_cons_of_mem p mem)
    have nothing : delimiters (OpenRange.pieces {}) = 0 := rfl
    rw [List.cons_append, rangePieces, if_pos (shared p List.mem_cons_self), delimiters_append,
      delimiters_output, nothing, tail, Nat.zero_add]

/-- Components in which the ends differ are taken in. -/
theorem rangePieces_apart {run : List DatePart} (apart : ∀ p ∈ run, ¬p.shared first last)
    (r : OpenRange) (rest : List DatePart) :
    rangePieces locale season first last r (run ++ rest) =
      rangePieces locale season first last (r.addAll locale season first last run) rest := by
  induction run generalizing r with
  | nil => rfl
  | cons p run ih =>
    rw [List.cons_append, rangePieces, if_neg (apart p List.mem_cons_self)]
    exact ih (fun q mem => apart q (List.mem_cons_of_mem p mem)) _

/-- Where only shared components follow, those in front of them are joined, and that is all. -/
theorem delimiters_close {run : List DatePart} (shared : ∀ p ∈ run, p.shared first last)
    (r : OpenRange) :
    delimiters (rangePieces locale season first last r run) = delimiters r.pieces := by
  cases run with
  | nil => rfl
  | cons p run =>
    have tail := delimiters_shared locale season first last
      (fun q mem => shared q (List.mem_cons_of_mem p mem)) []
    have nothing : delimiters (rangePieces locale season first last {} []) = 0 := rfl
    rw [List.append_nil, nothing] at tail
    rw [rangePieces, if_pos (shared p List.mem_cons_self), delimiters_append, delimiters_output,
      tail, Nat.add_zero]

end Pieces

/-! ## Components in order -/

namespace DatePart

/-- The components stand in order of significance, the most significant one first or last. -/
def Ordered (parts : List DatePart) : Prop :=
  parts.Pairwise (fun p q => p.component.index < q.component.index) ∨
    parts.Pairwise fun p q => q.component.index < p.component.index

instance (parts : List DatePart) : Decidable (Ordered parts) :=
  inferInstanceAs (Decidable (_ ∨ _))

/-- What is more significant than a shared component is shared. -/
theorem shared_of_le {p q : DatePart} {first last : List Int}
    (le : p.component.index ≤ q.component.index) (shared : q.shared first last) :
    p.shared first last := by
  rw [shared_iff] at shared ⊢
  intro i hi
  exact shared i (by omega)

/-- If a property passes to all that stands in front, the components that have it come first. -/
theorem exists_run (good : DatePart → Prop) {parts : List DatePart}
    (passes : parts.Pairwise fun p q => good q → good p) :
    ∃ run rest, parts = run ++ rest ∧ (∀ p ∈ run, good p) ∧ ∀ p ∈ rest, ¬good p := by
  induction parts with
  | nil => exact ⟨[], [], rfl, by simp, by simp⟩
  | cons p parts ih =>
    obtain ⟨head, tail⟩ := List.pairwise_cons.mp passes
    by_cases hp : good p
    · obtain ⟨run, rest, rfl, all, none⟩ := ih tail
      refine ⟨p :: run, rest, rfl, ?_, none⟩
      intro q mem
      rcases List.mem_cons.mp mem with rfl | mem
      · exact hp
      · exact all q mem
    · refine ⟨[], p :: parts, rfl, by simp, ?_⟩
      intro q mem hq
      rcases List.mem_cons.mp mem with rfl | mem
      · exact hp hq
      · exact hp (head q mem hq)

/-- In order of significance, the components in which the ends differ are one run, and all that
stands on the other side of it is shared. -/
theorem Ordered.exists_run {parts : List DatePart} (ordered : Ordered parts)
    (first last : List Int) : ∃ run rest, (parts = run ++ rest ∨ parts = rest ++ run) ∧
      (∀ p ∈ run, ¬p.shared first last) ∧ ∀ p ∈ rest, p.shared first last := by
  rcases ordered with rising | falling
  · obtain ⟨rest, run, whole, shared, apart⟩ := DatePart.exists_run
      (fun p => p.shared first last)
      (rising.imp fun less shared => shared_of_le (Nat.le_of_lt less) shared)
    exact ⟨run, rest, .inr whole, apart, shared⟩
  · obtain ⟨run, rest, whole, apart, shared⟩ := DatePart.exists_run
      (fun p => ¬p.shared first last)
      (falling.imp fun less apart shared => apart (shared_of_le (Nat.le_of_lt less) shared))
    exact ⟨run, rest, .inl whole, apart, fun p mem => by simpa using shared p mem⟩

end DatePart

/-- A range whose components stand in order of significance has one delimiter at most. It has one
if the components in which the ends differ have output for both ends. -/
theorem writeRange_delimiters (locale : Locale) (season : Option String) {first last : List Int}
    (length : first.length = last.length) {parts : List DatePart} (ordered : Ordered parts) :
    let pieces := rangePieces locale season first last {} parts
    let apart := parts.filter (!·.shared first last)
    writeRange locale season first last parts = pieces.flatMap written ∧
      delimiters pieces ≤ 1 ∧
      (delimiters pieces = 1 ↔ writeAll locale season first apart ≠ [] ∧
        writeAll locale season last apart ≠ []) := by
  intro pieces apart
  have whole : writeRange locale season first last parts = pieces.flatMap written := by
    rw [writeRange, if_pos length, flatMap_rangePieces]
  obtain ⟨run, rest, order, differ, shared⟩ := ordered.exists_run first last
  have unshared : apart = run := by
    have kept : run.filter (!·.shared first last) = run :=
      List.filter_eq_self.mpr fun p mem => by simpa using differ p mem
    have dropped : rest.filter (!·.shared first last) = [] :=
      List.filter_eq_nil_iff.mpr fun p mem => by simpa using shared p mem
    rcases order with rfl | rfl <;> simp [apart, kept, dropped]
  have count : delimiters pieces =
      delimiters (OpenRange.addAll locale season first last {} run).pieces := by
    -- The shared components stand behind the run or in front of it, and take no delimiter.
    rcases order with rfl | rfl
    · rw [← delimiters_close locale season first last shared,
        ← rangePieces_apart locale season first last differ]
    · have tail := rangePieces_apart locale season first last differ {} []
      rw [List.append_nil] at tail
      simp only [pieces, delimiters_shared locale season first last shared, tail]
      rfl
  rw [OpenRange.delimiters_pieces, OpenRange.first_addAll, OpenRange.last_addAll, ← unshared]
    at count
  refine ⟨whole, ?_, ?_⟩
  · rw [count]
    split <;> omega
  · rw [count]
    split
    · rename_i alone
      simp only [Nat.zero_ne_one, false_iff]
      tauto
    · rename_i both
      simpa [not_or] using both

/-- Days in two months of a year, which both ends share. -/
theorem writeRange_delimiters_months :
    let first : List Int := [2019, 11, 28]
    let last : List Int := [2019, 12, 3]
    first.length = last.length ∧ Ordered dayMonthYear ∧
      (writeRange Locale.english none first last dayMonthYear).plainText =
        "the 28, Nov–3, Dec 2019" ∧
      delimiters (rangePieces Locale.english none first last {} dayMonthYear) = 1 := by
  intro first last
  have length : first.length = last.length := rfl
  have ordered : Ordered dayMonthYear := by decide
  obtain ⟨whole, -, one⟩ := writeRange_delimiters Locale.english none length ordered
  refine ⟨length, ordered, ?_, one.mpr (by decide +kernel)⟩
  rw [whole]
  decide +kernel

-- Out of order, with the year in the middle, the ends are joined twice.
example : delimiters (rangePieces Locale.english none [2019, 1, 5] [2019, 2, 8] {}
    [⟨.day, none, {}, none⟩, ⟨.year, none, {}, none⟩, ⟨.month, none, {}, none⟩]) = 2 := by
  decide +kernel

end CiteStyle
