-- A range of dates, run by run. Its components fall into runs that both ends
-- share and runs in which the ends differ. A shared run is written once, and
-- any other run for each end, whatever order the components stand in.
import CiteStyle.Locale.English
import CiteStyle.Render.Date
import Mathlib

namespace CiteStyle

/-! ## Runs of components -/

namespace DatePart

/-- The runs of components, each as long as it can be, that both ends share or in which they
differ. -/
def runs (first last : List Int) (parts : List DatePart) : List (List DatePart) :=
  parts.splitBy fun p q => p.shared first last == q.shared first last

/-- The most significant of some components, and of several the one that comes first. -/
def mostSignificant? (run : List DatePart) : Option DatePart :=
  run.find? fun p => run.all fun q => p.component.index ≤ q.component.index

/-- Components that are written for one date. -/
def writeAll (locale : Locale) (season : Option String) (date : List Int) (run : List DatePart) :
    Buffer :=
  run.flatMap fun p => p.write locale season date

/-- A run in which the ends differ: what is written for the first end, less a text behind it, a
delimiter, and what is written for the last, less a text in front of it. The most significant
component says which delimiter. An end without output leaves the other one alone. -/
def writeApart (locale : Locale) (season : Option String) (first last : List Int)
    (run : List DatePart) : Buffer :=
  let left := writeAll locale season first run
  let right := writeAll locale season last run
  let delimiter := ((mostSignificant? run).bind (·.rangeDelimiter)).getD "–"
  if left = [] then right
  else if right = [] then left
  else (Buffer.trimLast .behind left).2 ++ Buffer.ofText .plain delimiter
    ++ (Buffer.trimFirst .before right).2

/-- One run. -/
def writeRun (locale : Locale) (season : Option String) (first last : List Int)
    (run : List DatePart) : Buffer :=
  if run.all (·.shared first last) then writeAll locale season first run
  else writeApart locale season first last run

/-- A component is shared if the ends agree on it and on all that are more significant, where
one that is missing from both makes no difference. -/
theorem shared_iff (p : DatePart) (first last : List Int) :
    p.shared first last ↔ ∀ i ≤ p.component.index, first[i]? = last[i]? := by
  unfold shared
  rw [decide_eq_true_iff, List.ext_getElem?_iff]
  simp only [List.getElem?_take]
  constructor
  · intro h i hi
    have := h i
    rwa [if_pos (by omega), if_pos (by omega)] at this
  · intro h i
    split
    · exact h i (by omega)
    · rfl

theorem mostSignificant?_eq_some {run : List DatePart} {p : DatePart} :
    mostSignificant? run = some p ↔ ∃ before after, run = before ++ p :: after ∧
      (∀ q ∈ before, p.component.index < q.component.index) ∧
      ∀ q ∈ after, p.component.index ≤ q.component.index := by
  unfold mostSignificant?
  rw [List.find?_eq_some_iff_append]
  simp only [List.all_eq_true, decide_eq_true_eq, Bool.not_eq_true', List.all_eq_false]
  constructor
  · rintro ⟨least, before, after, rfl, others⟩
    refine ⟨before, after, rfl, fun q mem => ?_, fun q mem => least q (by simp [mem])⟩
    obtain ⟨r, hr, less⟩ := others q mem
    have := least r hr
    omega
  · rintro ⟨before, after, rfl, less, least⟩
    refine ⟨fun q mem => ?_, before, after, rfl, fun q mem => ⟨p, by simp, ?_⟩⟩
    · rcases List.mem_append.mp mem with h | h
      · exact Nat.le_of_lt (less q h)
      · rcases List.mem_cons.mp h with rfl | h
        · exact Nat.le_refl _
        · exact least q h
    · have := less q mem
      omega

end DatePart

/-! ## Components that are not yet joined -/

namespace OpenRange

open DatePart

variable (locale : Locale) (season : Option String) (first last : List Int)

/-- Some components, taken in one after the other. -/
def addAll (r : OpenRange) (run : List DatePart) : OpenRange :=
  run.foldl (fun r p => r.add p (p.write locale season first) (p.write locale season last)) r

theorem addAll_snoc (r : OpenRange) (run : List DatePart) (p : DatePart) :
    r.addAll locale season first last (run ++ [p]) =
      (r.addAll locale season first last run).add p (p.write locale season first)
        (p.write locale season last) := by
  simp [addAll]

theorem first_addAll (run : List DatePart) :
    (addAll locale season first last {} run).first = writeAll locale season first run := by
  induction run using List.reverseRecOn with
  | nil => rfl
  | append_singleton run p ih =>
    rw [addAll_snoc]
    simp [add, ih, writeAll]

theorem last_addAll (run : List DatePart) :
    (addAll locale season first last {} run).last = writeAll locale season last run := by
  induction run using List.reverseRecOn with
  | nil => rfl
  | append_singleton run p ih =>
    rw [addAll_snoc]
    simp [add, ih, writeAll]

/-- A component takes the lead only if it is more significant than the one that has it. -/
theorem leading_addAll {run : List DatePart} (ne : run ≠ []) :
    ∃ p, (addAll locale season first last {} run).leading = some p ∧
      mostSignificant? run = some p := by
  induction run using List.reverseRecOn with
  | nil => exact absurd rfl ne
  | append_singleton run p ih =>
    rw [addAll_snoc]
    by_cases hrun : run = []
    · subst hrun
      refine ⟨p, rfl, ?_⟩
      simp [mostSignificant?]
    · obtain ⟨q, lead, most⟩ := ih hrun
      obtain ⟨before, after, rfl, less, least⟩ := mostSignificant?_eq_some.mp most
      simp only [add, lead]
      split
      · rename_i lt
        refine ⟨p, rfl, mostSignificant?_eq_some.mpr ⟨before ++ q :: after, [], rfl, ?_, by simp⟩⟩
        intro r mem
        rcases List.mem_append.mp mem with h | h
        · exact Nat.lt_trans lt (less r h)
        · rcases List.mem_cons.mp h with rfl | h
          · exact lt
          · exact Nat.lt_of_lt_of_le lt (least r h)
      · rename_i ge
        refine ⟨q, rfl, mostSignificant?_eq_some.mpr ⟨before, after ++ [p], by simp, less, ?_⟩⟩
        intro r mem
        rcases List.mem_append.mp mem with h | h
        · exact least r h
        · rw [List.mem_singleton.mp h]
          omega

theorem close_addAll {run : List DatePart} (ne : run ≠ []) :
    (addAll locale season first last {} run).close = writeApart locale season first last run := by
  obtain ⟨p, lead, most⟩ := leading_addAll locale season first last ne
  unfold close writeApart
  simp only [first_addAll, last_addAll, lead, most, List.isEmpty_iff, Option.map_some,
    Option.getD_some, Option.bind_some, delimiter]

end OpenRange

/-! ## The whole range -/

section WriteRange

open DatePart

variable (locale : Locale) (season : Option String) (first last : List Int)

/-- A shared run is written once, in order. -/
theorem writeRangeFrom_shared {run : List DatePart} (shared : ∀ p ∈ run, p.shared first last)
    (rest : List DatePart) :
    writeRangeFrom locale season first last {} (run ++ rest) =
      writeAll locale season first run ++ writeRangeFrom locale season first last {} rest := by
  induction run with
  | nil => rfl
  | cons p run ih =>
    have tail := ih fun q mem => shared q (List.mem_cons_of_mem p mem)
    have closed : OpenRange.close {} = [] := rfl
    rw [List.cons_append, writeRangeFrom, if_pos (shared p List.mem_cons_self), tail, closed]
    simp [writeAll]

/-- Components in which the ends differ are taken in. -/
theorem writeRangeFrom_apart {run : List DatePart} (apart : ∀ p ∈ run, ¬p.shared first last)
    (r : OpenRange) (rest : List DatePart) :
    writeRangeFrom locale season first last r (run ++ rest) =
      writeRangeFrom locale season first last (r.addAll locale season first last run) rest := by
  induction run generalizing r with
  | nil => rfl
  | cons p run ih =>
    rw [List.cons_append, writeRangeFrom, if_neg (apart p List.mem_cons_self)]
    exact ih (fun q mem => apart q (List.mem_cons_of_mem p mem)) _

/-- They are joined where a shared component follows, and at the end. -/
theorem writeRangeFrom_close (r : OpenRange) {rest : List DatePart}
    (stop : ∀ p ∈ rest.head?, p.shared first last) :
    writeRangeFrom locale season first last r rest =
      r.close ++ writeRangeFrom locale season first last {} rest := by
  cases rest with
  | nil =>
    have closed : OpenRange.close {} = [] := rfl
    simp only [writeRangeFrom, closed, List.append_nil]
  | cons p rest =>
    have closed : OpenRange.close {} = [] := rfl
    have shared := stop p rfl
    rw [writeRangeFrom, if_pos shared, writeRangeFrom, if_pos shared, closed]
    simp

/-- All components of a run are shared, or none is. -/
def Uniform (run : List DatePart) : Prop :=
  (∀ p ∈ run, p.shared first last) ∨ ∀ p ∈ run, ¬p.shared first last

theorem shared_eq_of_chain {p : DatePart} {run : List DatePart}
    (chain : (p :: run).IsChain fun q r => q.shared first last == r.shared first last) :
    ∀ q ∈ run, q.shared first last = p.shared first last := by
  induction run generalizing p with
  | nil => simp
  | cons r run ih =>
    rw [List.isChain_cons_cons, beq_iff_eq] at chain
    intro q mem
    rcases List.mem_cons.mp mem with rfl | mem
    · exact chain.1.symm
    · exact (ih chain.2 q mem).trans chain.1.symm

theorem uniform_of_mem_runs {parts run : List DatePart} (mem : run ∈ runs first last parts) :
    Uniform first last run := by
  have chain := List.isChain_of_mem_splitBy mem
  cases run with
  | nil => exact .inl (by simp)
  | cons p run =>
    have same := shared_eq_of_chain first last chain
    by_cases hp : p.shared first last
    · refine .inl fun q hq => ?_
      rcases List.mem_cons.mp hq with rfl | hq
      · exact hp
      · rw [same q hq]
        exact hp
    · refine .inr fun q hq => ?_
      rcases List.mem_cons.mp hq with rfl | hq
      · exact hp
      · rw [same q hq]
        exact hp

/-- Runs that take turns are written one after the other. -/
theorem writeRangeFrom_flatten {groups : List (List DatePart)} (filled : [] ∉ groups)
    (uniform : ∀ run ∈ groups, Uniform first last run)
    (turns : groups.IsChain fun g h =>
      ∃ hg hh, ((g.getLast hg).shared first last == (h.head hh).shared first last) = false) :
    writeRangeFrom locale season first last {} groups.flatten =
      groups.flatMap (writeRun locale season first last) := by
  induction groups with
  | nil => rfl
  | cons run groups ih =>
    rw [List.mem_cons, not_or] at filled
    have ne : run ≠ [] := fun h => filled.1 h.symm
    have rest := ih filled.2 (fun g mem => uniform g (List.mem_cons_of_mem run mem)) turns.tail
    rw [List.flatten_cons, List.flatMap_cons]
    rcases uniform run List.mem_cons_self with shared | apart
    · have all : run.all (·.shared first last) := List.all_eq_true.mpr shared
      rw [writeRangeFrom_shared locale season first last shared, rest, writeRun, if_pos all]
    · have notAll : ¬run.all (·.shared first last) := by
        intro all
        obtain ⟨p, hp⟩ := List.exists_mem_of_ne_nil run ne
        exact apart p hp (List.all_eq_true.mp all p hp)
      have stop : ∀ p ∈ groups.flatten.head?, p.shared first last := by
        cases groups with
        | nil => simp
        | cons next groups =>
          obtain ⟨_, hnext, turn⟩ := (List.isChain_cons_cons.mp turns).1
          have before := apart _ (List.getLast_mem ne)
          obtain ⟨p, more, rfl⟩ := List.exists_cons_of_ne_nil hnext
          simpa [before] using turn
      rw [writeRangeFrom_apart locale season first last apart,
        writeRangeFrom_close locale season first last _ stop,
        OpenRange.close_addAll locale season first last ne, rest, writeRun, if_neg notAll]

/-- A range of dates is written run by run, whatever components are asked for and in whatever
order. If both ends are the same, each component is just written once. -/
theorem writeRange_eq_runs {first last : List Int} (length : first.length = last.length)
    (parts : List DatePart) :
    (∀ p : DatePart, p.shared first last ↔ ∀ i ≤ p.component.index, first[i]? = last[i]?) ∧
      writeRange locale season first last parts =
        (runs first last parts).flatMap (writeRun locale season first last) ∧
      ∀ date, writeRange locale season date date parts = writeAll locale season date parts := by
  refine ⟨fun p => p.shared_iff first last, ?_, fun date => ?_⟩
  · let alike (p q : DatePart) : Bool := p.shared first last == q.shared first last
    have whole := writeRangeFrom_flatten locale season first last
      (List.nil_notMem_splitBy alike parts) (fun _ mem => uniform_of_mem_runs first last mem)
      (List.isChain_getLast_head_splitBy alike parts)
    unfold writeRange
    rw [if_pos length]
    rwa [List.flatten_splitBy] at whole
  · have shared : ∀ p ∈ parts, p.shared date date := by simp [shared]
    have whole := writeRangeFrom_shared locale season date date shared []
    have done : writeRangeFrom locale season date date {} [] = [] := rfl
    unfold writeRange
    rw [if_pos rfl]
    rwa [List.append_nil, done, List.append_nil] at whole

end WriteRange

/-- Day, month and year, each with a delimiter of its own. -/
def dayMonthYear : List DatePart :=
  [⟨.day, none, { affixes := ⟨"the ", ", "⟩ }, some "/"⟩,
    ⟨.month, some .short, { stripPeriods := true }, none⟩,
    ⟨.year, none, { affixes := ⟨" ", ""⟩ }, some ""⟩]

/-- Only the days differ, so that their affixes stand once around both of them. -/
theorem writeRange_eq_runs_days :
    [2019, 12, 14].length = [2019, 12, 24].length ∧
      (writeRange Locale.english none [2019, 12, 14] [2019, 12, 24] dayMonthYear).plainText =
        "the 14/24, Dec 2019" := by
  have length : [2019, 12, 14].length = [2019, 12, 24].length := rfl
  refine ⟨length, ?_⟩
  rw [(writeRange_eq_runs Locale.english none length dayMonthYear).2.1]
  cbv

end CiteStyle
