-- JSON text that was written is read as the value that it was written from. Strings
-- come back because every escape stands for one character, numbers because what
-- follows a value in JSON text is no part of a number. The reader's fuel suffices,
-- because each unit of it is paid for by a character of the text.
import CiteStyle.Json.Reader
import CiteStyle.Json.Writer
import CiteStyle.Proofs.Digits
import CiteStyle.Proofs.Runs

namespace CiteStyle

open Text

/-! ## Numbers -/

namespace Numeral

/-- A number is spelled by the grammar: digits wherever there must be some, and no zero in front of
other digits. -/
structure IsSpelling (n : Numeral) : Prop where
  whole : isDigits n.whole
  noZero : n.whole.length = 1 ∨ n.whole.head? ≠ some '0'
  fraction : ∀ digits ∈ n.fraction, isDigits digits
  letter : ∀ e ∈ n.exponent, e.letter = 'e' ∨ e.letter = 'E'
  sign : ∀ e ∈ n.exponent, ∀ c ∈ e.sign, c = '-' ∨ c = '+'
  digits : ∀ e ∈ n.exponent, isDigits e.digits

/-- The fraction as it is written. -/
def fractionText : Option (List Char) → List Char
  | some digits => '.' :: digits
  | none => []

/-- The exponent as it is written. -/
def exponentText : Option Exponent → List Char
  | some e => e.letter :: e.sign.toList ++ e.digits
  | none => []

theorem toList_written (n : Numeral) : n.written.toList =
    (if n.negative then ['-'] else []) ++ n.whole ++ fractionText n.fraction ++
      exponentText n.exponent := by
  unfold written
  rw [String.toList_ofList]
  rfl

/-! ## Whole numbers -/

theorem le_foldl_digits (n : Nat) (cs : List Char) :
    n ≤ cs.foldl (fun n c => 10 * n + digitValue c) n := by
  rw [foldl_digits]
  exact (Nat.le_mul_of_pos_right n (by positivity)).trans (Nat.le_add_right _ _)

/-- Digits are all taken if their number fits. -/
theorem takeDigits_fits {n : Nat} {cs : List Char}
    (fits : cs.foldl (fun n c => 10 * n + digitValue c) n ≤ maxUnsigned64) :
    takeDigits n cs = (cs.foldl (fun n c => 10 * n + digitValue c) n, []) := by
  induction cs generalizing n with
  | nil => rfl
  | cons c cs ih =>
    have next := (le_foldl_digits (10 * n + digitValue c) cs).trans fits
    simp only [takeDigits, if_pos next]
    exact ih fits

/-- A number of 64 bits is written so that it has its value again. -/
theorem value?_ofInt {n : Int} (low : -(maxSigned64 + 1 : Int) ≤ n) (high : n ≤ maxSigned64) :
    (ofInt n).value? = some (.whole n) := by
  have value : (decimalDigits n.natAbs).foldl (fun n c => 10 * n + digitValue c) 0 = n.natAbs :=
    digitsValue_decimalDigits n.natAbs
  unfold maxSigned64 at low high
  have taken : takeDigits 0 (decimalDigits n.natAbs) = (n.natAbs, []) := by
    rw [takeDigits_fits, value]
    rw [value]
    unfold maxUnsigned64
    omega
  by_cases negative : n < 0
  · have bound : n.natAbs ≤ maxSigned64 + 1 := by
      unfold maxSigned64
      omega
    have filled : n ≠ 0 := by omega
    simp [value?, ofInt, taken, negative, bound, filled, abs_of_neg]
  · have same : (n.natAbs : Int) = n := by omega
    simp [value?, ofInt, taken, negative, same]

theorem isSpelling_ofInt (n : Int) : (ofInt n).IsSpelling where
  whole := isDigits_iff.mpr ⟨decimalDigits_ne_nil n.natAbs,
    List.all_eq_true.mpr fun _ mem => isDigit_decimalDigits mem⟩
  noZero := by
    by_cases zero : n = 0
    · subst zero
      exact .inl rfl
    · exact .inr (head_decimalDigits (Int.natAbs_pos.mpr zero))
  fraction := by simp [ofInt]
  letter := by simp [ofInt]
  sign := by simp [ofInt]
  digits := by simp [ofInt]

end Numeral

namespace Json

open Numeral

/-- What may follow a value: nothing that a number could go on with. -/
def Ends (rest : List Char) : Prop :=
  ∀ c ∈ rest.head?, isDigit c = false ∧ c ≠ '.' ∧ c ≠ 'e' ∧ c ≠ 'E'

theorem ends_cons {c : Char} (rest : List Char) (h : c = ',' ∨ c = ']' ∨ c = '\x7d') :
    Ends (c :: rest) := by
  rintro d ⟨⟩
  rcases h with rfl | rfl | rfl <;> decide

theorem digits_run {digits rest : List Char} (h : isDigits digits)
    (stop : ∀ c ∈ rest.head?, isDigit c = false) :
    (digits ++ rest).takeWhile isDigit = digits ∧ (digits ++ rest).dropWhile isDigit = rest ∧
      digits.isEmpty = false := by
  obtain ⟨filled, all⟩ := isDigits_iff.mp h
  rw [List.all_eq_true] at all
  exact ⟨takeWhile_run all stop, dropWhile_run all stop, by simpa using filled⟩

theorem exists_cons_of_digits {digits : List Char} (h : isDigits digits) :
    ∃ d ds, digits = d :: ds ∧ isDigit d := by
  obtain ⟨filled, all⟩ := isDigits_iff.mp h
  obtain _ | ⟨d, ds⟩ := digits
  · exact absurd rfl filled
  · exact ⟨d, ds, rfl, List.all_eq_true.mp all d List.mem_cons_self⟩

theorem exponent?_text {n : Numeral} (spelled : n.IsSpelling) {rest : List Char}
    (ends : Ends rest) :
    exponent? (exponentText n.exponent ++ rest) = some (n.exponent, rest) := by
  cases found : n.exponent with
  | none =>
    cases rest with
    | nil => rfl
    | cons c rest =>
      obtain ⟨-, -, small, large⟩ := ends c rfl
      simp [exponentText, exponent?, small, large]
  | some e =>
    obtain ⟨letter, sign, digits⟩ := e
    have isLetter : letter = 'e' ∨ letter = 'E' := spelled.letter _ found
    have isSign : ∀ c ∈ sign, c = '-' ∨ c = '+' := spelled.sign _ found
    have number : isDigits digits := spelled.digits _ found
    obtain ⟨run, after, filled⟩ := digits_run number fun c mem => (ends c mem).1
    simp only [exponentText, exponent?, List.cons_append, if_pos isLetter]
    cases sign with
    | none =>
      -- The first digit is no sign.
      obtain ⟨d, ds, rfl, isDigit⟩ := exists_cons_of_digits number
      have noSign : d ≠ '-' ∧ d ≠ '+' := by
        constructor <;> rintro rfl <;> cases isDigit
      rw [List.cons_append] at run after
      simp [noSign, run, after]
    | some c =>
      rcases isSign c rfl with rfl | rfl
      · simp [run, after, filled]
      · simp [run, after, filled]

theorem fraction?_text {n : Numeral} (spelled : n.IsSpelling) {rest : List Char}
    (stop : ∀ c ∈ rest.head?, isDigit c = false) (noPoint : ∀ c ∈ rest.head?, c ≠ '.') :
    fraction? (fractionText n.fraction ++ rest) = some (n.fraction, rest) := by
  cases found : n.fraction with
  | none =>
    simp only [fractionText, List.nil_append]
    unfold fraction?
    split
    · exact absurd rfl (noPoint '.' rfl)
    · rfl
  | some digits =>
    obtain ⟨run, after, filled⟩ := digits_run (spelled.fraction _ found) stop
    simp [fractionText, fraction?, run, after, filled]

/-- No digits and no point stand behind the fraction. -/
theorem head_exponentText {n : Numeral} (spelled : n.IsSpelling) {rest : List Char}
    (ends : Ends rest) :
    ∀ c ∈ (exponentText n.exponent ++ rest).head?, isDigit c = false ∧ c ≠ '.' := by
  intro c mem
  cases found : n.exponent with
  | none =>
    rw [found] at mem
    exact ⟨(ends c mem).1, (ends c mem).2.1⟩
  | some e =>
    rw [found] at mem
    cases mem
    rcases spelled.letter e found with letter | letter <;> rw [letter] <;> decide

/-- No digits stand behind the whole number. -/
theorem head_fractionText {n : Numeral} {rest : List Char}
    (stop : ∀ c ∈ rest.head?, isDigit c = false) :
    ∀ c ∈ (fractionText n.fraction ++ rest).head?, isDigit c = false := by
  intro c mem
  cases found : n.fraction with
  | none =>
    rw [found] at mem
    exact stop c mem
  | some digits =>
    rw [found] at mem
    cases mem
    rfl

/-- A number is read back, whatever follows it in JSON text. -/
theorem numeral?_written {n : Numeral} (spelled : n.IsSpelling) {rest : List Char}
    (ends : Ends rest) : numeral? (n.written.toList ++ rest) = some (n, rest) := by
  have tail := head_exponentText spelled ends
  have stop := head_fractionText (n := n) fun c mem => (tail c mem).1
  have fraction := fraction?_text spelled (fun c mem => (tail c mem).1) fun c mem => (tail c mem).2
  have exponent := exponent?_text spelled ends
  obtain ⟨run, after, -⟩ := digits_run spelled.whole stop
  obtain ⟨d, ds, whole, digit⟩ := exists_cons_of_digits spelled.whole
  have noSign : d ≠ '-' := by
    rintro rfl
    cases digit
  have noZero : ds = [] ∨ ¬d = '0' := by simpa [whole] using spelled.noZero
  rw [toList_written]
  obtain ⟨negative, _, _, _⟩ := n
  dsimp only at *
  subst whole
  rw [List.cons_append] at run after
  cases negative with
  | true => simp [numeral?, noZero, run, after, fraction, exponent]
  | false => simp [numeral?, noSign, noZero, run, after, fraction, exponent]

/-! ## Strings -/

theorem hexValue?_hexDigit (n : Nat) : hexValue? (hexDigit n) = some (n % 16) := by
  have each : ∀ k < 16, hexValue? (Nat.digitChar k) = some k := by decide
  exact each (n % 16) (Nat.mod_lt n (by decide))

theorem stringPieces?_writeChar (c : Char) (rest : List Char) :
    stringPieces? (writeChar c ++ rest) =
      (stringPieces? rest).map fun read => (.char c :: read.1, read.2) := by
  unfold writeChar
  split
  · rename_i quote
    subst quote
    cases h : stringPieces? rest <;> simp [stringPieces?, shortEscape?, h]
  split
  · rename_i backslash
    subst backslash
    cases h : stringPieces? rest <;> simp [stringPieces?, shortEscape?, h]
  split
  · rename_i control
    have unit : unit? '0' '0' (hexDigit (c.toNat / 16)) (hexDigit c.toNat) = some c.toNat := by
      have zero : hexValue? '0' = some 0 := rfl
      simp [unit?, zero, hexValue?_hexDigit]
      omega
    have whole : StringPiece.ofUnit c.toNat = .char c := by
      unfold StringPiece.ofUnit
      rw [if_neg (by omega), Char.ofNat_toNat]
    cases h : stringPieces? rest <;> simp [stringPieces?, unit, whole, h]
  · rename_i noQuote noBackslash noControl
    simp [stringPieces?, noBackslash, noControl]

theorem stringPieces?_written (cs rest : List Char) :
    stringPieces? (cs.flatMap writeChar ++ '"' :: rest) = some (cs.map .char, rest) := by
  induction cs with
  | nil => rfl
  | cons c cs ih =>
    rw [List.flatMap_cons, List.append_assoc, stringPieces?_writeChar, ih]
    rfl

theorem joinPieces?_chars (cs : List Char) : joinPieces? (cs.map .char) = some cs := by
  induction cs with
  | nil => rfl
  | cons c cs ih => simp [joinPieces?, ih]

theorem toList_quote (s : String) :
    (quote s).toList = '"' :: (s.toList.flatMap writeChar ++ ['"']) := String.toList_ofList

/-- A string is read back from behind its opening quote. -/
theorem string?_quoted (s : String) (rest : List Char) :
    string? (s.toList.flatMap writeChar ++ '"' :: rest) = some (some s, rest) := by
  simp [string?, stringPieces?_written, joinPieces?_chars]

/-! ## Values that can be written -/

/-- What holds of a value if it holds of the values in it holds of every value. -/
@[elab_as_elim]
theorem nested_induction {holds : Json → Prop} (null : holds .null) (bool : ∀ b, holds (.bool b))
    (number : ∀ n, holds (.number n)) (text : ∀ s, holds (.text s))
    (array : ∀ items, (∀ item ∈ items, holds item) → holds (.array items))
    (object : ∀ fields, (∀ field ∈ fields, holds field.2) → holds (.object fields))
    (unreadable : holds .unreadable) (value : Json) : holds value :=
  @Json.rec holds (fun items => ∀ item ∈ items, holds item)
    (fun fields => ∀ field ∈ fields, holds field.2) (fun field => holds field.2)
    null bool number text array object unreadable (by simp)
    (fun _ _ first others => List.forall_mem_cons.mpr ⟨first, others⟩) (by simp)
    (fun _ _ first others => List.forall_mem_cons.mpr ⟨first, others⟩) (fun _ _ value => value)
    value

mutual
/-- A value that its text stands for: its numbers are spelled by the grammar, and all of it can be
read. -/
def IsWritable : Json → Prop
  | .number n => n.IsSpelling
  | .array items => AllWritable items
  | .object fields => FieldsWritable fields
  | .unreadable => False
  | _ => True

/-- All items can be written. -/
def AllWritable : List Json → Prop
  | [] => True
  | item :: rest => item.IsWritable ∧ AllWritable rest

/-- The values of all fields can be written. -/
def FieldsWritable : List (String × Json) → Prop
  | [] => True
  | (_, value) :: rest => value.IsWritable ∧ FieldsWritable rest
end

theorem allWritable_iff {items : List Json} :
    AllWritable items ↔ ∀ item ∈ items, item.IsWritable := by
  induction items with
  | nil => simp [AllWritable]
  | cons item rest ih => simp [AllWritable, ih]

theorem fieldsWritable_iff {fields : List (String × Json)} :
    FieldsWritable fields ↔ ∀ field ∈ fields, field.2.IsWritable := by
  induction fields with
  | nil => simp [FieldsWritable]
  | cons field rest ih => simp [FieldsWritable, ih]

theorem exists_head_written {n : Numeral} (spelled : n.IsSpelling) :
    ∃ c cs, n.written.toList = c :: cs ∧ (c = '-' ∨ isDigit c) := by
  obtain ⟨d, ds, whole, digit⟩ := exists_cons_of_digits spelled.whole
  rw [toList_written, whole]
  cases n.negative with
  | true => exact ⟨'-', _, rfl, .inl rfl⟩
  | false => exact ⟨d, _, rfl, .inr digit⟩

/-- Where a number starts, no other value starts, and there is no white space. -/
theorem value?_number {c : Char} {cs : List Char} (starts : c = '-' ∨ isDigit c) (fuel : Nat) :
    value? (fuel + 1) (c :: cs) =
      (numeral? (c :: cs)).map fun read => (.number read.1, read.2) := by
  have others : c ∉ ['"', '[', '\x7b', 'n', 't', 'f', ' ', '\t', '\n', '\r'] := by
    rcases starts with rfl | digit
    · decide
    · have all : digits.all (· ∉ ['"', '[', '\x7b', 'n', 't', 'f', ' ', '\t', '\n', '\r']) := by
        decide
      exact of_decide_eq_true (of_digit all digit)
  simp only [List.mem_cons, List.not_mem_nil, or_false, not_or] at others
  have noGap : isGap c = false := by simp [isGap, others]
  simp [value?, noGap, others]

/-- A text of a value starts with a character that is no white space and closes nothing. -/
theorem exists_head {value : Json} (writable : value.IsWritable) :
    ∃ c cs, value.write.toList = c :: cs ∧ isGap c = false ∧ c ≠ ']' := by
  cases value with
  | null => exact ⟨_, _, rfl, by decide⟩
  | bool b => cases b <;> exact ⟨_, _, rfl, by decide⟩
  | text s => exact ⟨_, _, toList_quote s, by decide⟩
  | array items => exact ⟨'[', _, by simp [write]; rfl, by decide⟩
  | object fields => exact ⟨'\x7b', _, by simp [write]; rfl, by decide⟩
  | unreadable => simp [IsWritable] at writable
  | number n =>
    obtain ⟨c, cs, head, starts⟩ := exists_head_written writable
    refine ⟨c, cs, head, ?_⟩
    rcases starts with rfl | digit
    · decide
    · have all : digits.all fun c => !isGap c && c != ']' := by decide
      simpa using of_digit all digit

theorem toList_writeItems (item : Json) (items : List Json) :
    (writeItems (item :: items)).toList = item.write.toList ++
      if items = [] then [] else ',' :: (writeItems items).toList := by
  cases items <;> simp [writeItems]

theorem toList_writeFields (field : String × Json) (fields : List (String × Json)) :
    (writeFields (field :: fields)).toList =
      '"' :: (field.1.toList.flatMap writeChar ++ '"' :: ':' :: (field.2.write.toList ++
        if fields = [] then [] else ',' :: (writeFields fields).toList)) := by
  obtain ⟨name, value⟩ := field
  cases fields <;> simp [writeFields, toList_quote]

theorem ofFields_whole (fields : List (String × Json)) :
    ofFields (fields.map fun field => (some field.1, field.2)) = .object fields := by
  have whole : (fields.map fun field => (some field.1, field.2)).mapM
      (fun field : Option String × Json => field.1.map (·, field.2)) = some (fields.map id) :=
    mapM_map_eq_some fun _ _ => rfl
  unfold ofFields
  rw [whole, List.map_id]

/-! ## Reading what was written -/

/-- The text of a value is read as the value, whatever follows it in JSON text. A unit of fuel for
each character is enough. -/
def ReadsBack (value : Json) : Prop :=
  ∀ fuel rest, value.write.toList.length ≤ fuel → Ends rest →
    value? fuel (value.write.toList ++ rest) = some (value, rest)

theorem items?_write {item : Json} {items : List Json}
    (each : ∀ value ∈ item :: items, value.ReadsBack) {fuel : Nat}
    (enough : (writeItems (item :: items)).toList.length < fuel) (rest : List Char) :
    items? fuel ((writeItems (item :: items)).toList ++ ']' :: rest) =
      some (item :: items, rest) := by
  induction items generalizing item fuel with
  | nil =>
    obtain _ | fuel := fuel
    · simp at enough
    have alone : (writeItems [item]).toList = item.write.toList := by simp [writeItems]
    rw [alone] at enough ⊢
    have read := each item List.mem_cons_self fuel (']' :: rest) (by omega)
      (ends_cons rest (.inr (.inl rfl)))
    simp [items?, read, isGap]
  | cons next items ih =>
    obtain _ | fuel := fuel
    · simp at enough
    rw [toList_writeItems] at enough ⊢
    simp only [reduceCtorEq, if_false, List.length_append, List.length_cons] at enough
    have read := each item List.mem_cons_self fuel
      (',' :: ((writeItems (next :: items)).toList ++ ']' :: rest)) (by omega)
      (ends_cons _ (.inl rfl))
    have less : (writeItems (next :: items)).toList.length < fuel := by omega
    have others := ih (fun value mem => each value (List.mem_cons_of_mem item mem)) less
    simp [items?, read, others, isGap]

theorem fields?_write {field : String × Json} {fields : List (String × Json)}
    (each : ∀ other ∈ field :: fields, other.2.ReadsBack) {fuel : Nat}
    (enough : (writeFields (field :: fields)).toList.length < fuel) (rest : List Char) :
    fields? fuel ((writeFields (field :: fields)).toList ++ '\x7d' :: rest) =
      some ((field :: fields).map fun other => (some other.1, other.2), rest) := by
  induction fields generalizing field fuel with
  | nil =>
    obtain _ | fuel := fuel
    · simp at enough
    rw [toList_writeFields] at enough ⊢
    simp only [if_true, List.length_append, List.length_cons] at enough
    have read := each field List.mem_cons_self fuel ('\x7d' :: rest) (by omega)
      (ends_cons rest (.inr (.inr rfl)))
    have named := string?_quoted field.1 (':' :: (field.2.write.toList ++ '\x7d' :: rest))
    simp [fields?, isGap, named, read]
  | cons next fields ih =>
    obtain _ | fuel := fuel
    · simp at enough
    rw [toList_writeFields] at enough ⊢
    simp only [reduceCtorEq, if_false, List.length_append, List.length_cons] at enough
    have read := each field List.mem_cons_self fuel
      (',' :: ((writeFields (next :: fields)).toList ++ '\x7d' :: rest)) (by omega)
      (ends_cons _ (.inl rfl))
    have named := string?_quoted field.1 (':' :: (field.2.write.toList ++
      ',' :: ((writeFields (next :: fields)).toList ++ '\x7d' :: rest)))
    have less : (writeFields (next :: fields)).toList.length < fuel := by omega
    have others := ih (fun other mem => each other (List.mem_cons_of_mem field mem)) less
    simp [fields?, isGap, named, read, others]

/-- No text of a value is empty, so that there is a unit of fuel for the value itself. -/
theorem readsBack_of_step {value : Json} (writable : value.IsWritable)
    (step : ∀ fuel rest, value.write.toList.length ≤ fuel + 1 → Ends rest →
      value? (fuel + 1) (value.write.toList ++ rest) = some (value, rest)) :
    value.ReadsBack := by
  intro fuel rest enough ends
  obtain ⟨c, cs, head, -⟩ := exists_head writable
  obtain _ | fuel := fuel
  · simp [head] at enough
  · exact step fuel rest enough ends

theorem readsBack_number {n : Numeral} (spelled : n.IsSpelling) : (Json.number n).ReadsBack := by
  refine readsBack_of_step spelled fun fuel rest _ ends => ?_
  obtain ⟨c, cs, head, starts⟩ := exists_head_written spelled
  have read := numeral?_written spelled ends
  have text : (Json.number n).write = n.written := by rw [write]
  rw [text]
  rw [head] at read ⊢
  rw [List.cons_append, value?_number starts, ← List.cons_append, read]
  rfl

theorem readsBack_array {items : List Json} (writable : (Json.array items).IsWritable)
    (each : ∀ item ∈ items, item.ReadsBack) : (Json.array items).ReadsBack := by
  refine readsBack_of_step writable fun fuel rest enough _ => ?_
  cases items with
  | nil => rfl
  | cons item items =>
    have text : (Json.array (item :: items)).write.toList =
        '[' :: ((writeItems (item :: items)).toList ++ [']']) := by
      simp [write]
    rw [text] at enough ⊢
    have less : (writeItems (item :: items)).toList.length < fuel := by
      simp only [List.length_cons, List.length_append] at enough
      omega
    have read := items?_write each less rest
    have all : ∀ value ∈ item :: items, value.IsWritable := allWritable_iff.mp writable
    obtain ⟨d, ds, first, noGap, noBracket⟩ := exists_head (all item List.mem_cons_self)
    have opening : isGap '[' = false := rfl
    rw [toList_writeItems, first] at read ⊢
    simp only [List.cons_append, List.append_assoc] at read ⊢
    simp [value?, opening, noGap, noBracket, read]

theorem readsBack_object {fields : List (String × Json)}
    (writable : (Json.object fields).IsWritable) (each : ∀ field ∈ fields, field.2.ReadsBack) :
    (Json.object fields).ReadsBack := by
  refine readsBack_of_step writable fun fuel rest enough _ => ?_
  cases fields with
  | nil => rfl
  | cons field fields =>
    have text : (Json.object (field :: fields)).write.toList =
        '\x7b' :: ((writeFields (field :: fields)).toList ++ ['\x7d']) := by
      simp [write]
    rw [text] at enough ⊢
    have less : (writeFields (field :: fields)).toList.length < fuel := by
      simp only [List.length_cons, List.length_append] at enough
      omega
    have read := fields?_write each less rest
    have opening : isGap '\x7b' = false ∧ isGap '"' = false := by decide
    rw [toList_writeFields] at read ⊢
    simp only [List.cons_append, List.append_assoc] at read ⊢
    simp [value?, opening, read, ofFields_whole, -List.map_cons]

theorem readsBack {value : Json} (writable : value.IsWritable) : value.ReadsBack := by
  induction value using nested_induction with
  | null => exact readsBack_of_step writable fun _ _ _ _ => rfl
  | bool b =>
    refine readsBack_of_step writable fun _ _ _ _ => ?_
    cases b <;> rfl
  | text s =>
    refine readsBack_of_step writable fun _ _ _ _ => ?_
    simp [write, toList_quote, value?, isGap, string?_quoted]
  | number n => exact readsBack_number writable
  | array items ih =>
    exact readsBack_array writable fun item mem => ih item mem (allWritable_iff.mp writable item mem)
  | object fields ih =>
    exact readsBack_object writable fun field mem =>
      ih field mem (fieldsWritable_iff.mp writable field mem)
  | unreadable => simp [IsWritable] at writable

/-- What was written is read as the value that was written. -/
theorem read?_write {value : Json} (writable : value.IsWritable) :
    read? value.write = some value := by
  have enough : value.write.toList.length ≤ 2 * value.write.length + 2 := by
    rw [String.length_toList]
    omega
  have read := readsBack writable _ [] enough fun _ mem => by cases mem
  rw [List.append_nil] at read
  simp [read?, read]

end Json

end CiteStyle
