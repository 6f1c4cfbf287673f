-- What scanners read first, and what they take out of a text. A pattern goes on
-- from the reading that each of its parts prefers, as long as the next part can
-- go on from there; and it reads nothing where the text lacks the marks that the
-- pattern takes out of it.
import CiteStyle.Proofs.DateScans
import CiteStyle.Proofs.Runs

namespace CiteStyle.DateText

open Text

namespace Scan

variable {α β : Type} {p q : Scan α} {f : α → Scan β} {a : α} {b : β}
  {cs middle rest : List Char}

/-! ## The preferred reading -/

/-- What a scanner yields and leaves when it is read in the way it prefers. -/
def Prefers (p : Scan α) (cs : List Char) (a : α) (rest : List Char) : Prop :=
  (p cs).head? = some (a, rest)

theorem prefers_iff : Prefers p cs a rest ↔ ∃ more, p cs = (a, rest) :: more :=
  List.head?_eq_some_iff

theorem Prefers.andThen (first : Prefers p cs a middle) (second : Prefers (f a) middle b rest) :
    Prefers (andThen p f) cs b rest := by
  obtain ⟨_, reads⟩ := prefers_iff.mp first
  obtain ⟨_, goesOn⟩ := prefers_iff.mp second
  simp [Prefers, Scan.andThen, reads, goesOn]

theorem Prefers.map (g : α → β) (h : Prefers p cs a rest) : Prefers (map g p) cs (g a) rest := by
  obtain ⟨_, reads⟩ := prefers_iff.mp h
  simp [Prefers, Scan.map, reads]

theorem Prefers.orElse (h : Prefers p cs a rest) : Prefers (orElse p q) cs a rest := by
  obtain ⟨_, reads⟩ := prefers_iff.mp h
  simp [Prefers, Scan.orElse, reads]

theorem prefers_second (unread : p cs = []) (h : Prefers q cs a rest) :
    Prefers (orElse p q) cs a rest := by
  unfold Prefers Scan.orElse
  rwa [unread, List.nil_append]

theorem Prefers.optional (h : Prefers p cs a rest) : Prefers (optional p) cs (some a) rest := by
  obtain ⟨_, reads⟩ := prefers_iff.mp h
  simp [Prefers, Scan.optional, reads]

theorem prefers_none (unread : p cs = []) : Prefers (optional p) cs none cs := by
  simp [Prefers, Scan.optional, unread]

theorem prefers_char (c : Char) (rest : List Char) : Prefers (char c) (c :: rest) () rest := by
  simp [Prefers, char]

theorem char_eq_nil {c : Char} (other : ∀ d ∈ cs.head?, d ≠ c) : char c cs = [] := by
  unfold char
  split
  · rename_i d _
    exact if_neg (other d rfl)
  · rfl

/-! ## Runs -/

section Runs

variable {digit : Char → Bool} {run : List Char} {least most : Nat}

theorem prefers_whole (all : ∀ c ∈ run, digit c) (stop : ∀ c ∈ rest.head?, digit c = false)
    (enough : least ≤ run.length) : Prefers (whole digit least) (run ++ rest) run rest := by
  unfold Prefers whole
  rw [takeWhile_run all stop, dropWhile_run all stop, if_pos enough]
  rfl

theorem whole_eq_nil (all : ∀ c ∈ run, digit c) (stop : ∀ c ∈ rest.head?, digit c = false)
    (short : run.length < least) : whole digit least (run ++ rest) = [] := by
  unfold whole
  rw [takeWhile_run all stop]
  exact if_neg (by omega)

/-- The number of characters that a scanner of runs takes if it can. -/
theorem prefers_span_longest (enough : least ≤ ((cs.take most).takeWhile digit).length) :
    Prefers (span digit least most) cs (cs.take ((cs.take most).takeWhile digit).length)
      (cs.drop ((cs.take most).takeWhile digit).length) := by
  unfold Prefers span
  generalize ((cs.take most).takeWhile digit).length = longest at enough
  have size : longest + 1 - least = (longest - least) + 1 := by omega
  have last : longest - least + least = longest := by omega
  simp [size, List.range_succ, last]

/-- A run that is as long as it may be, or that does not go on, is read whole. -/
theorem prefers_span (all : ∀ c ∈ run, digit c) (enough : least ≤ run.length)
    (fits : run.length ≤ most)
    (stop : run.length = most ∨ ∀ c ∈ rest.head?, digit c = false) :
    Prefers (span digit least most) (run ++ rest) run rest := by
  have longest : ((run ++ rest).take most).takeWhile digit = run := by
    rw [List.take_append, List.take_of_length_le fits]
    rcases stop with full | stop
    · rw [full, Nat.sub_self, List.take_zero, List.append_nil]
      have atEnd : ∀ c ∈ ([] : List Char).head?, digit c = false := by simp
      simpa using takeWhile_run all atEnd
    · refine takeWhile_run all fun c hc => stop c ?_
      rw [List.head?_take] at hc
      split at hc
      · exact absurd hc (by simp)
      · exact hc
  have reads : Prefers (span digit least most) (run ++ rest) _ _ :=
    prefers_span_longest (by rwa [longest])
  rw [longest] at reads
  simpa using reads

theorem span_eq_nil (stop : ∀ c ∈ cs.head?, digit c = false) (filled : 0 < least) :
    span digit least most cs = [] := by
  have none : (cs.take most).takeWhile digit = [] := by
    obtain _ | ⟨c, rest⟩ := cs
    · simp
    · cases most with
      | zero => rfl
      | succ most => simp [stop c rfl]
  have empty : 0 + 1 - least = 0 := by omega
  unfold span
  simp [none, empty]

/-- Whatever a scanner of runs takes belongs to the longest run. -/
theorem mem_span {taken : List Char} (mem : (taken, rest) ∈ span digit least most cs) :
    taken ++ rest = cs ∧ (∀ c ∈ taken, digit c) ∧ least ≤ taken.length ∧ taken.length ≤ most := by
  obtain ⟨n, hn, ⟨⟩⟩ := List.mem_map.mp mem
  simp only [List.mem_map, List.mem_reverse, List.mem_range] at hn
  obtain ⟨k, hk, rfl⟩ := hn
  have longest : (cs.take most).takeWhile digit <+: cs.take most := List.takeWhile_prefix digit
  have within : (cs.take most).takeWhile digit <+: cs := longest.trans (List.take_prefix most cs)
  have part : cs.take (k + least) = ((cs.take most).takeWhile digit).take (k + least) := by
    rw [List.prefix_iff_eq_take.mp within, List.take_take]
    congr 1
    omega
  have fits := within.length_le
  have bound := longest.length_le
  rw [List.length_take] at bound
  refine ⟨List.take_append_drop (k + least) cs, ?_, ?_, ?_⟩
  · intro c hc
    rw [part] at hc
    exact List.all_eq_true.mp List.all_takeWhile c (List.mem_of_mem_take hc)
  · rw [List.length_take]
    omega
  · rw [List.length_take]
    omega

theorem prefers_blanks (all : ∀ c ∈ run, isBlank c) (stop : ∀ c ∈ rest.head?, isBlank c = false)
    (enough : least ≤ run.length) : Prefers (blanks least) (run ++ rest) () rest :=
  (prefers_span all enough (by simp) (.inr stop)).map _

end Runs

/-! ## Stops -/

/-- A scanner does not read on from a stop: in front of it, it reads as at the end of a text. -/
def Halts (stop : Char) (p : Scan α) : Prop :=
  ∀ text rest, p (text ++ stop :: rest) =
    (p text).map fun (a, left) => (a, left ++ stop :: rest)

section Halts

variable {stop : Char}

theorem Halts.prefers (h : Halts stop p) (reads : Prefers p cs a []) (rest : List Char) :
    Prefers p (cs ++ stop :: rest) a (stop :: rest) := by
  obtain ⟨_, reads⟩ := prefers_iff.mp reads
  simp [Prefers, h cs rest, reads]

theorem halts_word {w : List Char} (apart : ∀ c ∈ w, sameFolded c stop = false) :
    Halts stop (word w) := by
  induction w with
  | nil =>
    intro text rest
    rfl
  | cons c w ih =>
    rw [List.forall_mem_cons] at apart
    intro text rest
    cases text with
    | nil => simp [word, apart.1]
    | cons d text =>
      rw [List.cons_append, word, word, ih apart.2]
      by_cases same : sameFolded c d <;> simp [same, Function.comp_def]

theorem halts_char {c : Char} (other : stop ≠ c) : Halts stop (char c) := by
  intro text rest
  cases text with
  | nil => simp [char, other]
  | cons d text => by_cases same : d = c <;> simp [char, same]

theorem halts_map (g : α → β) (h : Halts stop p) : Halts stop (map g p) := by
  intro text rest
  simp only [map, h text rest, List.map_map, Function.comp_def]

theorem halts_optional (h : Halts stop p) : Halts stop (optional p) := by
  intro text rest
  simp [optional, h text rest, Function.comp_def]

theorem halts_andThen (hp : Halts stop p) (hf : ∀ a, Halts stop (f a)) :
    Halts stop (andThen p f) := by
  intro text rest
  simp only [andThen, hp text rest, List.flatMap_map, List.map_flatMap]
  exact List.flatMap_congr fun reading _ => hf reading.1 reading.2 rest

theorem halts_oneOf {ps : List (Scan α)} (h : ∀ p ∈ ps, Halts stop p) : Halts stop (oneOf ps) := by
  intro text rest
  simp only [oneOf, List.map_flatMap]
  exact List.flatMap_congr fun p within => h p within text rest

end Halts

/-! ## Searching -/

theorem Prefers.find? (h : Prefers p cs a rest) : find? p cs = some a := by
  obtain ⟨_, reads⟩ := prefers_iff.mp h
  cases cs <;> simp [Scan.find?, reads]

/-- Places where a scanner reads nothing are passed over. -/
theorem find?_append {front : List Char}
    (unread : ∀ part, part <:+ front → part ≠ [] → p (part ++ rest) = []) :
    find? p (front ++ rest) = find? p rest := by
  induction front with
  | nil => rfl
  | cons c front ih =>
    have here := unread (c :: front) List.suffix_rfl (List.cons_ne_nil c front)
    rw [List.cons_append] at here ⊢
    rw [Scan.find?, here]
    exact ih fun part within => unread part (within.trans (List.suffix_cons c front))

/-! ## What a text loses -/

/-- A scanner takes at least so many characters of a class out of a text. -/
def Spends (mark : Char → Bool) (n : Nat) (p : Scan α) : Prop :=
  ∀ cs a rest, (a, rest) ∈ p cs → rest.countP mark + n ≤ cs.countP mark

section Spends

variable {mark : Char → Bool} {m n : Nat}

theorem Leaves.spends (h : Leaves p) : Spends mark 0 p := fun cs a rest mem =>
  (h cs a rest mem).sublist.countP_le

theorem spends_andThen (hp : Spends mark m p) (hf : ∀ a, Spends mark n (f a)) :
    Spends mark (m + n) (andThen p f) := by
  intro cs b rest mem
  obtain ⟨⟨a, middle⟩, first, second⟩ := List.mem_flatMap.mp mem
  have h1 := hp cs a middle first
  have h2 := hf a middle b rest second
  omega

theorem spends_map (g : α → β) (hp : Spends mark n p) : Spends mark n (map g p) := by
  intro cs b rest mem
  obtain ⟨⟨a, _⟩, mem, ⟨⟩⟩ := List.mem_map.mp mem
  exact hp cs a rest mem

theorem spends_char {c : Char} (h : mark c) : Spends mark 1 (char c) := by
  intro cs a rest mem
  cases cs with
  | nil => cases mem
  | cons d cs =>
    unfold char at mem
    dsimp only at mem
    split at mem
    · rename_i hd
      cases List.mem_singleton.mp mem
      rw [hd, List.countP_cons_of_pos h]
    · cases mem

theorem spends_span (least most : Nat) : Spends mark least (span mark least most) := by
  intro cs a rest mem
  obtain ⟨whole, all, enough, -⟩ := mem_span mem
  rw [← whole, List.countP_append, List.countP_eq_length.mpr all]
  omega

theorem spends_blanks (n : Nat) : Spends isBlank n (blanks n) := fun cs =>
  spends_map (fun _ => ()) (spends_span n cs.length) cs

/-- Where the text has fewer characters of the class, nothing is found. -/
theorem Spends.find?_eq_none (h : Spends mark n p) (few : cs.countP mark < n) :
    Scan.find? p cs = none := by
  rw [← Option.not_isSome_iff_eq_none, find?_isSome_iff]
  rintro ⟨place, within, reads⟩
  obtain ⟨⟨a, rest⟩, mem⟩ := List.exists_mem_of_ne_nil _ reads
  have spent := h place a rest mem
  have fewer := within.sublist.countP_le (p := mark)
  omega

end Spends

end Scan

end CiteStyle.DateText
