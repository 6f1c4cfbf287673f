-- Runs of digits. No digit is a letter, and of two runs of the same length the
-- larger number is told by the first digit that differs.
import CiteStyle.Text.Character
import CiteStyle.Text.Integer
import Mathlib.Tactic.IntervalCases
import Mathlib.Tactic.Ring

namespace CiteStyle.Text

/-! ## Single digits -/

/-- The ten digits. -/
def digits : List Char := ['0', '1', '2', '3', '4', '5', '6', '7', '8', '9']

theorem mem_digits {c : Char} (h : isDigit c) : c ∈ digits := by
  unfold isDigit at h
  simp only [Bool.and_eq_true, decide_eq_true_eq, Char.le_def, UInt32.le_iff_toNat_le] at h
  obtain ⟨low, high⟩ := h
  have hc : Char.ofNat c.toNat = c := Char.ofNat_toNat c
  rw [← hc]
  have h1 : 48 ≤ c.toNat := low
  have h2 : c.toNat ≤ 57 := high
  generalize c.toNat = n at h1 h2
  interval_cases n <;> decide

/-- What holds of the ten digits holds of every digit. -/
theorem of_digit {p : Char → Bool} (all : digits.all p) {c : Char} (h : isDigit c) : p c :=
  List.all_eq_true.mp all c (mem_digits h)

theorem isAlphabetic_digit {c : Char} (h : isDigit c) : isAlphabetic c = false := by
  have all : digits.all (!isAlphabetic ·) := by decide
  simpa using of_digit all h

theorem isAlphanumeric_digit {c : Char} (h : isDigit c) : isAlphanumeric c := by
  have all : digits.all isAlphanumeric := by decide
  exact of_digit all h

theorem digitValue_pos {c : Char} (h : isDigit c) (hc : c ≠ '0') : 0 < digitValue c := by
  have all : digits.all fun c => c == '0' || 0 < digitValue c := by decide
  simpa [hc] using of_digit all h

theorem digitValue_lt {c : Char} (h : isDigit c) : digitValue c < 10 := by
  have all : digits.all (digitValue · < 10) := by decide
  simpa using of_digit all h

theorem isDigits_iff {cs : List Char} : isDigits cs ↔ cs ≠ [] ∧ cs.all isDigit := by
  unfold isDigits
  simp

theorem all_drop {cs : List Char} (h : cs.all isDigit) (k : Nat) : (cs.drop k).all isDigit := by
  rw [List.all_eq_true] at h ⊢
  exact fun c hc => h c (List.mem_of_mem_drop hc)

/-! ## Numbers -/

theorem foldl_digits (cs : List Char) (n : Nat) :
    cs.foldl (fun n c => 10 * n + digitValue c) n = n * 10 ^ cs.length + digitsValue cs := by
  induction cs generalizing n with
  | nil => simp [digitsValue]
  | cons c rest ih =>
    have h : digitsValue (c :: rest) = rest.foldl (fun n c => 10 * n + digitValue c)
        (10 * 0 + digitValue c) := rfl
    rw [List.foldl_cons, ih, h, ih, List.length_cons]
    ring

theorem digitsValue_append (before after : List Char) :
    digitsValue (before ++ after) = digitsValue before * 10 ^ after.length + digitsValue after := by
  unfold digitsValue
  rw [List.foldl_append, foldl_digits]
  rfl

theorem digitsValue_cons (c : Char) (cs : List Char) :
    digitsValue (c :: cs) = digitValue c * 10 ^ cs.length + digitsValue cs := by
  have h := digitsValue_append [c] cs
  rw [List.singleton_append] at h
  simpa [digitsValue] using h

theorem digitsValue_lt {cs : List Char} (h : cs.all isDigit) :
    digitsValue cs < 10 ^ cs.length := by
  induction cs with
  | nil => simp [digitsValue]
  | cons c rest ih =>
    simp only [List.all_cons, Bool.and_eq_true] at h
    have hc := digitValue_lt h.1
    have hrest := ih h.2
    rw [digitsValue_cons, List.length_cons, Nat.pow_succ]
    have hle : digitValue c * 10 ^ rest.length ≤ 9 * 10 ^ rest.length :=
      Nat.mul_le_mul_right _ (by omega)
    omega

/-! ## Reading -/

theorem readNat?_digits {cs : List Char} {limit : Nat} (digits : ∀ c ∈ cs, isDigit c)
    (filled : cs ≠ []) (fits : digitsValue cs ≤ limit) :
    readNat? limit cs = some (digitsValue cs) := by
  have all : isDigits cs := isDigits_iff.mpr ⟨filled, List.all_eq_true.mpr digits⟩
  unfold readNat?
  split
  · exact absurd (digits '+' List.mem_cons_self) (by decide)
  · simp [readDigits?, all, fits]

theorem readInt?_digits {cs : List Char} {limit : Nat} (digits : ∀ c ∈ cs, isDigit c)
    (filled : cs ≠ []) (fits : digitsValue cs ≤ limit) :
    readInt? limit cs = some (digitsValue cs : Int) := by
  unfold readInt?
  split
  · exact absurd (digits '-' List.mem_cons_self) (by decide)
  · rw [readNat?_digits digits filled fits]
    rfl

theorem readInt?_of_lt {cs : List Char} {limit : Nat} (digits : ∀ c ∈ cs, isDigit c)
    (large : limit < digitsValue cs) : readInt? limit cs = none := by
  unfold readInt? readNat?
  split
  · exact absurd (digits '-' List.mem_cons_self) (by decide)
  · split
    · exact absurd (digits '+' List.mem_cons_self) (by decide)
    · cases all : isDigits cs <;> simp [readDigits?, all, large]

/-- A text without a sign is read as the value of its digits, if it has nothing else and the value
fits. -/
theorem readNat?_eq_some_iff {cs : List Char} (sign : '+' ∉ cs) {limit n : Nat} :
    readNat? limit cs = some n ↔ isDigits cs ∧ digitsValue cs = n ∧ n ≤ limit := by
  unfold readNat?
  split
  · simp at sign
  · unfold readDigits?
    rw [Option.filter_eq_some_iff]
    split
    · simp_all
    · simp_all

theorem plus_notMem {cs : List Char} (digits : cs.all isDigit) : '+' ∉ cs :=
  fun mem => absurd (List.all_eq_true.mp digits '+' mem) (by decide)

/-- What is read lies within the bounds. -/
theorem readInt?_bounds {limit : Nat} {cs : List Char} {n : Int}
    (read : readInt? limit cs = some n) : -(limit + 1 : Int) ≤ n ∧ n ≤ limit := by
  unfold readInt? at read
  split at read
  · obtain ⟨k, found, rfl⟩ := Option.map_eq_some_iff.mp read
    obtain ⟨m, kept, same⟩ := Option.bind_eq_some_iff.mp found
    cases same
    have fits : m ≤ limit + 1 := by simpa using (Option.filter_eq_some_iff.mp kept).2
    omega
  · obtain ⟨k, found, rfl⟩ := Option.map_eq_some_iff.mp read
    have fits : k ≤ limit := by simpa using (Option.filter_eq_some_iff.mp found).2
    constructor
    · exact (by omega : -(limit + 1 : Int) ≤ (k : Int))
    · exact Int.ofNat_le.mpr fits

/-! ## Writing -/

theorem isDigit_decimalDigits {n : Nat} {c : Char} (h : c ∈ decimalDigits n) : isDigit c := by
  have ascii := Nat.isDigit_of_mem_toDigits (by decide) (by decide) h
  simp only [Char.isDigit, Bool.and_eq_true, decide_eq_true_eq] at ascii
  simpa [isDigit, Char.le_def] using ascii

theorem decimalDigits_ne_nil (n : Nat) : decimalDigits n ≠ [] := Nat.toDigits_ne_nil

theorem paddedDigits_ne_nil (width n : Nat) : paddedDigits width n ≠ [] :=
  List.append_ne_nil_of_right_ne_nil _ (decimalDigits_ne_nil n)

/-- No number but zero starts with a zero. -/
theorem head_decimalDigits {n : Nat} (pos : 0 < n) : (decimalDigits n).head? ≠ some '0' := by
  induction n using Nat.strongRecOn with
  | ind n ih =>
    unfold decimalDigits at ih ⊢
    by_cases small : n < 10
    · rw [Nat.toDigits_of_lt_base small]
      interval_cases n <;> decide
    · rw [Nat.toDigits_of_base_le (by decide) (by omega), List.head?_append]
      have rest := ih (n / 10) (by omega) (by omega)
      cases first : (Nat.toDigits 10 (n / 10)).head? with
      | none => exact absurd (List.head?_eq_none_iff.mp first) Nat.toDigits_ne_nil
      | some c => rwa [first] at rest

theorem digitsValue_decimalDigits (n : Nat) : digitsValue (decimalDigits n) = n :=
  Nat.ofDigitChars_ten_toDigits

theorem isDigit_paddedDigits {width n : Nat} {c : Char} (h : c ∈ paddedDigits width n) :
    isDigit c := by
  rcases List.mem_append.mp h with zero | digit
  · rw [List.eq_of_mem_replicate zero]
    rfl
  · exact isDigit_decimalDigits digit

theorem digitsValue_paddedDigits (width n : Nat) : digitsValue (paddedDigits width n) = n := by
  have zeros (k : Nat) : digitsValue (List.replicate k '0') = 0 := by
    induction k with
    | zero => rfl
    | succ k ih =>
      rw [List.replicate_succ, digitsValue_cons, ih]
      simp [digitValue]
  rw [paddedDigits, digitsValue_append, zeros, digitsValue_decimalDigits]
  omega

theorem length_paddedDigits (width n : Nat) :
    (paddedDigits width n).length = max width (decimalDigits n).length := by
  simp only [paddedDigits, List.length_append, List.length_replicate]
  omega

/-! ## Order -/

/-- What two numbers have in common in front does not decide between them. -/
theorem digitsValue_drop_lt {first last : List Char} {k : Nat} (length : first.length = last.length)
    (same : first.take k = last.take k) (lt : digitsValue first < digitsValue last) :
    digitsValue (first.drop k) < digitsValue (last.drop k) := by
  have hf := digitsValue_append (first.take k) (first.drop k)
  have hl := digitsValue_append (last.take k) (last.drop k)
  rw [List.take_append_drop] at hf hl
  have hlen : (first.drop k).length = (last.drop k).length := by
    simp only [List.length_drop, length]
  rw [same, hlen] at hf
  omega

/-- Zeros in front of the larger of two numbers of the same length also stand in front of the
smaller one, and they are not all of it. -/
theorem exists_dropWhile_zeros {first last : List Char} (hf : first.all isDigit)
    (hl : last.all isDigit) (length : first.length = last.length)
    (lt : digitsValue first < digitsValue last) :
    ∃ k, k < last.length ∧ last.dropWhile (· == '0') = last.drop k ∧
      first.take k = last.take k := by
  induction last generalizing first with
  | nil => simp [digitsValue] at lt
  | cons b bs ih =>
    by_cases hb : b = '0'
    · subst hb
      obtain _ | ⟨a, as⟩ := first
      · simp at length
      · simp only [List.length_cons, Nat.add_right_cancel_iff] at length
        simp only [List.all_cons, Bool.and_eq_true] at hf hl
        have hzero : digitValue '0' = 0 := rfl
        have hbs := digitsValue_lt hl.2
        rw [digitsValue_cons, digitsValue_cons, hzero, length] at lt
        have ha : a = '0' := by
          by_contra hne
          have : 10 ^ bs.length ≤ digitValue a * 10 ^ bs.length :=
            Nat.le_mul_of_pos_left _ (digitValue_pos hf.1 hne)
          omega
        subst ha
        obtain ⟨k, hk, hdrop, htake⟩ := ih hf.2 hl.2 length (by omega)
        refine ⟨k + 1, by simpa using hk, ?_, ?_⟩
        · rw [List.dropWhile_cons_of_pos (by decide), hdrop, List.drop_succ_cons]
        · rw [List.take_succ_cons, List.take_succ_cons, htake]
    · refine ⟨0, by simp, ?_, rfl⟩
      rw [List.dropWhile_cons_of_neg (by simpa using hb), List.drop_zero]

end CiteStyle.Text
