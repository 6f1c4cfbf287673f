-- Formatting in one word: two binary digits for each attribute, in which zero stands for a value
-- that is not set. Fields of a word do not touch each other, and so setting an attribute and
-- laying formatting over outer formatting can be done on the words, with masks and shifts.
import CiteStyle.Output.Formatting

namespace CiteStyle.Formatting

/-! ## Attributes -/

/-- The attributes of formatting. -/
inductive Attribute where
  | fontStyle
  | fontVariant
  | fontWeight
  | textDecoration
  | verticalAlign
  deriving DecidableEq, Repr

namespace Attribute

/-- The attributes in order. -/
def all : List Attribute := [.fontStyle, .fontVariant, .fontWeight, .textDecoration, .verticalAlign]

/-- The values of an attribute. -/
abbrev Value : Attribute → Type
  | .fontStyle => FontStyle
  | .fontVariant => FontVariant
  | .fontWeight => FontWeight
  | .textDecoration => TextDecoration
  | .verticalAlign => VerticalAlign

instance : (a : Attribute) → DecidableEq a.Value
  | .fontStyle => inferInstanceAs (DecidableEq FontStyle)
  | .fontVariant => inferInstanceAs (DecidableEq FontVariant)
  | .fontWeight => inferInstanceAs (DecidableEq FontWeight)
  | .textDecoration => inferInstanceAs (DecidableEq TextDecoration)
  | .verticalAlign => inferInstanceAs (DecidableEq VerticalAlign)

/-- The name of an attribute. -/
def name : Attribute → String
  | .fontStyle => "font-style"
  | .fontVariant => "font-variant"
  | .fontWeight => "font-weight"
  | .textDecoration => "text-decoration"
  | .verticalAlign => "vertical-align"

/-- The names of the values, each at the number that stands for it. -/
def names : (a : Attribute) → List (String × a.Value)
  | .fontStyle => FontStyle.names
  | .fontVariant => FontVariant.names
  | .fontWeight => FontWeight.names
  | .textDecoration => TextDecoration.names
  | .verticalAlign => VerticalAlign.names

/-- The number that stands for a value, counted from one, or zero for none. -/
def code (a : Attribute) : Option a.Value → Nat
  | none => 0
  | some v => a.names.findIdx (·.2 = v) + 1

/-- The value that a number stands for. -/
def ofCode? (a : Attribute) : Nat → Option a.Value
  | 0 => none
  | n + 1 => a.names[n]?.map (·.2)

/-- The place of the lower digit of an attribute in a word. -/
def shift : Attribute → Nat
  | .fontStyle => 0
  | .fontVariant => 2
  | .fontWeight => 4
  | .textDecoration => 6
  | .verticalAlign => 8

theorem code_lt (a : Attribute) (v : Option a.Value) : a.code v < 4 := by
  cases a <;> rcases v with _ | v <;> first | decide | (cases v <;> decide)

theorem ofCode?_code (a : Attribute) (v : Option a.Value) : a.ofCode? (a.code v) = v := by
  cases a <;> rcases v with _ | v <;> first | rfl | (cases v <;> rfl)

theorem code_eq_zero_iff (a : Attribute) (v : Option a.Value) : a.code v = 0 ↔ v = none := by
  cases v <;> simp [code]

theorem code_or (a : Attribute) (inner outer : Option a.Value) :
    a.code (inner.or outer) = if a.code inner = 0 then a.code outer else a.code inner := by
  cases inner <;> simp [code]

/-- The number of a setting is the one that stands for its value. -/
theorem number_setting? (a : Attribute) (v : Option a.Value) :
    ((setting? a.names v).map (·.2)).getD 0 = a.code v := by
  cases a <;> rcases v with _ | v <;> first | rfl | (cases v <;> rfl)

theorem shift_le (a : Attribute) : a.shift ≤ 8 := by
  cases a <;> decide

/-- The fields of two attributes lie apart. -/
theorem shift_apart {a a' : Attribute} (h : a ≠ a') :
    a.shift + 2 ≤ a'.shift ∨ a'.shift + 2 ≤ a.shift := by
  cases a <;> cases a' <;> first | exact absurd rfl h | decide

/-- The fields cover the lowest ten digits. -/
theorem exists_shift {i : Nat} (h : i < 10) : ∃ a : Attribute, a.shift ≤ i ∧ i < a.shift + 2 := by
  obtain lt | ⟨le, lt⟩ | ⟨le, lt⟩ | ⟨le, lt⟩ | le :
      i < 2 ∨ (2 ≤ i ∧ i < 4) ∨ (4 ≤ i ∧ i < 6) ∨ (6 ≤ i ∧ i < 8) ∨ 8 ≤ i := by omega
  · exact ⟨.fontStyle, Nat.zero_le i, lt⟩
  · exact ⟨.fontVariant, le, lt⟩
  · exact ⟨.fontWeight, le, lt⟩
  · exact ⟨.textDecoration, le, lt⟩
  · exact ⟨.verticalAlign, le, h⟩

end Attribute

/-- The value of an attribute, if it is set. -/
def get (f : Formatting) : (a : Attribute) → Option a.Value
  | .fontStyle => f.fontStyle
  | .fontVariant => f.fontVariant
  | .fontWeight => f.fontWeight
  | .textDecoration => f.textDecoration
  | .verticalAlign => f.verticalAlign

theorem ext_get {f g : Formatting} (h : ∀ a, f.get a = g.get a) : f = g := by
  obtain ⟨style, variant, weight, line, align⟩ := f
  have hs := h .fontStyle
  have hv := h .fontVariant
  have hw := h .fontWeight
  have hl := h .textDecoration
  have ha := h .verticalAlign
  simp only [get] at hs hv hw hl ha
  rw [hs, hv, hw, hl, ha]

theorem get_merge (outer inner : Formatting) (a : Attribute) :
    (outer.merge inner).get a = (inner.get a).or (outer.get a) := by
  cases a <;> rfl

theorem get_set (f : Formatting) (a : Attribute) (value : String) :
    (f.set a.name value).get a = (a.names.lookup value).or (f.get a) := by
  cases a <;> rfl

theorem get_set_of_ne (f : Formatting) {a a' : Attribute} (h : a ≠ a') (value : String) :
    (f.set a.name value).get a' = f.get a' := by
  cases a <;> cases a' <;> first | exact absurd rfl h | rfl

/-! ## Words -/

/-- A word with a field for each attribute. -/
abbrev Word := BitVec 16

namespace Word

/-- The digits of a field. -/
def mask : Word := 0b11

/-- The field of an attribute. -/
def field (w : Word) (a : Attribute) : Word := (w >>> a.shift) &&& mask

/-- A word with another field for an attribute. -/
def withField (w : Word) (a : Attribute) (digits : Word) : Word :=
  (w &&& ~~~(mask <<< a.shift)) ||| ((digits &&& mask) <<< a.shift)

/-- The fields that are set in the inner word, and the others from the outer one. -/
def merge (outer inner : Word) : Word :=
  Attribute.all.foldl (fun w a =>
    if inner.field a = 0#16 then w else w.withField a (inner.field a)) outer

/-- The value of an attribute in a word, if it is set. -/
def get? (w : Word) (a : Attribute) : Option a.Value := a.ofCode? (w.field a).toNat

theorem getLsbD_mask (i : Nat) : mask.getLsbD i = decide (i < 2) := by
  have ones : mask = BitVec.ofNat 16 (2 ^ 2 - 1) := rfl
  rw [ones, BitVec.getLsbD_ofNat, Nat.testBit_two_pow_sub_one, ← Bool.decide_and, decide_eq_decide]
  omega

theorem getLsbD_field (w : Word) (a : Attribute) (i : Nat) :
    (w.field a).getLsbD i = (w.getLsbD (a.shift + i) && decide (i < 2)) := by
  rw [field, BitVec.getLsbD_and, BitVec.getLsbD_ushiftRight, getLsbD_mask]

theorem getLsbD_withField (w : Word) (a : Attribute) (digits : Word) {i : Nat} (h : i < 16) :
    (w.withField a digits).getLsbD i =
      if a.shift ≤ i ∧ i < a.shift + 2 then digits.getLsbD (i - a.shift) else w.getLsbD i := by
  simp only [withField, BitVec.getLsbD_or, BitVec.getLsbD_and, BitVec.getLsbD_not,
    BitVec.getLsbD_shiftLeft, getLsbD_mask, h, decide_true, Bool.true_and]
  by_cases low : i < a.shift
  · rw [if_neg (by omega)]
    simp [low]
  · by_cases high : i - a.shift < 2
    · rw [if_pos (by omega)]
      simp [low, high]
    · rw [if_neg (by omega)]
      simp [high]

theorem field_withField (w : Word) (a : Attribute) (digits : Word) :
    (w.withField a digits).field a = digits &&& mask := by
  refine BitVec.eq_of_getLsbD_eq fun i _ => ?_
  have := a.shift_le
  rw [getLsbD_field, BitVec.getLsbD_and, getLsbD_mask]
  by_cases low : i < 2
  · rw [getLsbD_withField w a digits (by omega), if_pos (by omega), Nat.add_sub_cancel_left]
  · simp [low]

/-- A field is not touched by another one. -/
theorem field_withField_of_ne (w : Word) {a a' : Attribute} (h : a ≠ a') (digits : Word) :
    (w.withField a digits).field a' = w.field a' := by
  refine BitVec.eq_of_getLsbD_eq fun i _ => ?_
  have := a'.shift_le
  have := Attribute.shift_apart h
  rw [getLsbD_field, getLsbD_field]
  by_cases low : i < 2
  · rw [getLsbD_withField w a digits (by omega), if_neg (by omega)]
  · simp [low]

theorem field_and_mask (w : Word) (a : Attribute) : w.field a &&& mask = w.field a := by
  rw [field, BitVec.and_assoc, BitVec.and_self]

/-- Digits above all fields stay as they are. -/
theorem withField_above (w : Word) (a : Attribute) (digits : Word) :
    w.withField a digits >>> 10 = w >>> 10 := by
  refine BitVec.eq_of_getLsbD_eq fun i h => ?_
  have := a.shift_le
  rw [BitVec.getLsbD_ushiftRight, BitVec.getLsbD_ushiftRight]
  by_cases inside : 10 + i < 16
  · rw [getLsbD_withField w a digits inside, if_neg (by omega)]
  · rw [BitVec.getLsbD_of_ge _ _ (by omega), BitVec.getLsbD_of_ge _ _ (by omega)]

/-- A word is known by its fields and by what is above them. -/
theorem eq_of_fields {w w' : Word} (fields : ∀ a, w.field a = w'.field a)
    (above : w >>> 10 = w' >>> 10) : w = w' := by
  refine BitVec.eq_of_getLsbD_eq fun i _ => ?_
  by_cases low : i < 10
  · obtain ⟨a, le, lt⟩ := Attribute.exists_shift low
    have digit := congrArg (·.getLsbD (i - a.shift)) (fields a)
    simpa only [getLsbD_field, Nat.add_sub_cancel' le, show i - a.shift < 2 by omega, decide_true,
      Bool.and_true] using digit
  · have digit := congrArg (·.getLsbD (i - 10)) above
    simpa only [BitVec.getLsbD_ushiftRight, Nat.add_sub_cancel' (Nat.not_lt.mp low)] using digit

/-- Merging some of the fields merges these and leaves the others alone. -/
theorem field_foldl_merge (inner : Word) (attributes : List Attribute) (w : Word) (a : Attribute) :
    (attributes.foldl (fun w a => if inner.field a = 0#16 then w
      else w.withField a (inner.field a)) w).field a =
      if a ∈ attributes ∧ inner.field a ≠ 0#16 then inner.field a else w.field a := by
  induction attributes generalizing w with
  | nil => simp
  | cons first rest ih =>
    rw [List.foldl_cons, ih]
    by_cases same : a = first
    · subst same
      by_cases unset : inner.field a = 0#16
      · simp [unset]
      · simp [unset, field_withField, field_and_mask]
    · by_cases unset : inner.field first = 0#16
      · simp [unset, same]
      · simp [unset, same, field_withField_of_ne w (Ne.symm same)]

theorem field_merge (outer inner : Word) (a : Attribute) :
    (outer.merge inner).field a = if inner.field a = 0#16 then outer.field a else inner.field a := by
  have mem : a ∈ Attribute.all := by cases a <;> decide
  rw [merge, field_foldl_merge]
  by_cases unset : inner.field a = 0#16
  · simp [unset]
  · simp [unset, mem]

theorem merge_above (outer inner : Word) : outer.merge inner >>> 10 = outer >>> 10 := by
  refine List.foldlRecOn (motive := fun w : Word => w >>> 10 = outer >>> 10) Attribute.all _ rfl ?_
  intro w same a _
  split
  · exact same
  · rw [withField_above, same]

end Word

/-! ## Formatting in a word -/

/-- The formatting as a word. -/
def word (f : Formatting) : Word := BitVec.ofNat 16 f.bits

theorem bits_eq (f : Formatting) :
    f.bits = Attribute.code .fontStyle f.fontStyle + 4 * (Attribute.code .fontVariant f.fontVariant +
      4 * (Attribute.code .fontWeight f.fontWeight +
        4 * (Attribute.code .textDecoration f.textDecoration +
          4 * Attribute.code .verticalAlign f.verticalAlign))) := by
  simp only [← Attribute.number_setting?]
  simp only [bits, settings, List.foldr_cons, List.foldr_nil, Attribute.names]
  omega

theorem bits_lt (f : Formatting) : f.bits < 1024 := by
  have := Attribute.code_lt .fontStyle f.fontStyle
  have := Attribute.code_lt .fontVariant f.fontVariant
  have := Attribute.code_lt .fontWeight f.fontWeight
  have := Attribute.code_lt .textDecoration f.textDecoration
  have := Attribute.code_lt .verticalAlign f.verticalAlign
  rw [bits_eq]
  omega

theorem toNat_word (f : Formatting) : f.word.toNat = f.bits := by
  rw [word, BitVec.toNat_ofNat, Nat.mod_eq_of_lt]
  exact Nat.lt_trans f.bits_lt (by decide)

theorem toNat_field_word (f : Formatting) (a : Attribute) :
    (f.word.field a).toNat = a.code (f.get a) := by
  have := Attribute.code_lt .fontStyle f.fontStyle
  have := Attribute.code_lt .fontVariant f.fontVariant
  have := Attribute.code_lt .fontWeight f.fontWeight
  have := Attribute.code_lt .textDecoration f.textDecoration
  have := Attribute.code_lt .verticalAlign f.verticalAlign
  have cut (n : Nat) : n &&& 3 = n % 4 := Nat.and_two_pow_sub_one_eq_mod n 2
  rw [Word.field, BitVec.toNat_and, BitVec.toNat_ushiftRight, toNat_word, bits_eq,
    Nat.shiftRight_eq_div_pow, show Word.mask.toNat = 3 from rfl, cut]
  cases a <;> simp only [Attribute.shift, get] <;> omega

theorem field_word_eq_zero_iff (f : Formatting) (a : Attribute) :
    f.word.field a = 0#16 ↔ f.get a = none := by
  rw [← Attribute.code_eq_zero_iff, ← toNat_field_word, BitVec.toNat_eq]
  rfl

theorem word_above (f : Formatting) : f.word >>> 10 = 0#16 := by
  refine BitVec.eq_of_toNat_eq ?_
  rw [BitVec.toNat_ushiftRight, toNat_word, Nat.shiftRight_eq_div_pow, Nat.div_eq_of_lt f.bits_lt]
  rfl

/-- What is read from the word is what is set. -/
theorem get?_word (f : Formatting) (a : Attribute) : f.word.get? a = f.get a := by
  rw [Word.get?, toNat_field_word, Attribute.ofCode?_code]

theorem word_unset : unset.word = 0#16 := rfl

/-- A word is that of some formatting as soon as its fields are. -/
theorem eq_word {w : Word} {f : Formatting} (above : w >>> 10 = 0#16)
    (fields : ∀ a, (w.field a).toNat = a.code (f.get a)) : w = f.word := by
  refine Word.eq_of_fields (fun a => BitVec.eq_of_toNat_eq ?_) (above.trans f.word_above.symm)
  rw [fields, toNat_field_word]

/-- Setting an attribute by name sets its field. -/
theorem word_set (f : Formatting) (a : Attribute) (value : String) :
    (f.set a.name value).word = match a.names.lookup value with
      | some v => f.word.withField a (BitVec.ofNat 16 (a.code (some v)))
      | none => f.word := by
  symm
  have same := f.get_set a value
  split
  · rename_i v found
    refine eq_word (by rw [Word.withField_above, word_above]) fun a' => ?_
    by_cases h : a = a'
    · subst h
      have := a.code_lt (some v)
      rw [Word.field_withField, same, found, Option.some_or, BitVec.toNat_and, BitVec.toNat_ofNat,
        Nat.mod_eq_of_lt (by omega), show Word.mask.toNat = 2 ^ 2 - 1 from rfl,
        Nat.and_two_pow_sub_one_eq_mod, Nat.mod_eq_of_lt this]
    · rw [Word.field_withField_of_ne _ h, f.get_set_of_ne h, toNat_field_word]
  · rename_i missing
    refine eq_word f.word_above fun a' => ?_
    by_cases h : a = a'
    · subst h
      rw [same, missing, Option.none_or, toNat_field_word]
    · rw [f.get_set_of_ne h, toNat_field_word]

/-- Laying formatting over outer formatting lays its word over the outer word. -/
theorem word_merge (outer inner : Formatting) :
    (outer.merge inner).word = outer.word.merge inner.word := by
  symm
  refine eq_word (by rw [Word.merge_above, word_above]) fun a => ?_
  rw [Word.field_merge, get_merge, Attribute.code_or]
  by_cases h : inner.get a = none
  · rw [if_pos ((field_word_eq_zero_iff inner a).mpr h), toNat_field_word,
      if_pos ((a.code_eq_zero_iff _).mpr h)]
  · rw [if_neg (mt (field_word_eq_zero_iff inner a).mp h), toNat_field_word,
      if_neg (mt (a.code_eq_zero_iff _).mp h)]

end CiteStyle.Formatting
