-- Dates that are written as JSON and read again. Reading is lenient, but what it
-- leaves is not: at most three parts, each a number of 32 bits with a sign, and
-- texts and a truth value for the rest. The writer puts these down in the one form
-- that every lenient reader takes as it is, so that a second reading changes nothing.
import CiteStyle.Date.Json
import CiteStyle.Proofs.WrittenJson
import Mathlib.Data.List.TakeWhile

namespace CiteStyle.Date

open Text

/-! ## What the reader leaves -/

/-- A number of 32 bits with a sign, as the parts of a date are. -/
def IsPart (n : Int) : Prop := -2147483648 ≤ n ∧ n ≤ 2147483647

/-- Every part has 32 bits. -/
def PartsFit (d : Date) : Prop := ∀ ps ∈ d.parts, ∀ n ∈ ps, IsPart n

/-- No list has more than a year, a month and a day. -/
def AtMostThree (d : Date) : Prop := ∀ ps ∈ d.parts, ps.length ≤ 3

theorem isPart_clampPart (n : Int) : IsPart (clampPart n) := by
  unfold IsPart clampPart
  omega

theorem clampPart_eq_self {n : Int} (fits : IsPart n) : clampPart n = n := by
  unfold IsPart at fits
  unfold clampPart
  omega

/-- Whatever gives a part gives one that fits. -/
theorem isPart_of_part? {scalar : Scalar} {n : Int} (part : scalar.part? = some n) :
    IsPart n := by
  cases scalar with
  | whole k =>
    obtain ⟨fits, rfl⟩ : clampPart k = k ∧ k = n := by simpa [Scalar.part?] using part
    rw [← fits]
    exact isPart_clampPart k
  | real x =>
    obtain rfl : clampPart x.truncate = n := by simpa [Scalar.part?] using part
    exact isPart_clampPart x.truncate
  | bool b => cases part
  | text s => exact readInt?_bounds part

theorem mem_leadingParts {scalars : List Scalar} {n : Int} (mem : n ∈ leadingParts scalars) :
    ∃ scalar ∈ scalars, scalar.part? = some n := by
  unfold leadingParts at mem
  obtain ⟨part, taken, rfl⟩ := List.mem_filterMap.mp (List.mem_of_mem_take mem)
  exact List.mem_map.mp ((List.takeWhile_sublist _).subset taken)

theorem partList?_bounds {value : Json} {ps : List Int} (read : partList? value = some ps) :
    ps.length ≤ 3 ∧ ∀ n ∈ ps, IsPart n := by
  unfold partList? at read
  split at read
  · obtain ⟨scalars, -, rfl⟩ := Option.map_eq_some_iff.mp read
    refine ⟨List.length_take_le 3 _, fun n mem => ?_⟩
    obtain ⟨scalar, -, part⟩ := mem_leadingParts mem
    exact isPart_of_part? part
  · cases read

theorem exists_partList? {value : Option Json} {parts : List (List Int)}
    (read : partLists? value = some parts) {ps : List Int} (mem : ps ∈ parts) :
    ∃ item, partList? item = some ps := by
  unfold partLists? at read
  split at read
  · cases read
    cases mem
  · cases read
    cases mem
  · obtain ⟨item, -, list⟩ := exists_of_mapM_eq_some read mem
    exact ⟨item, list⟩
  · cases read

theorem exists_partLists? {value : Json} {d : Date} (read : ofJson? value = some d) :
    ∃ field, partLists? field = some d.parts := by
  unfold ofJson? at read
  obtain ⟨fields, -, read⟩ := Option.bind_eq_some_iff.mp read
  obtain ⟨parts, lists, read⟩ := Option.bind_eq_some_iff.mp read
  obtain ⟨season, -, read⟩ := Option.bind_eq_some_iff.mp read
  obtain ⟨literal, -, read⟩ := Option.bind_eq_some_iff.mp read
  obtain ⟨raw, -, read⟩ := Option.bind_eq_some_iff.mp read
  obtain ⟨circa, -, read⟩ := Option.bind_eq_some_iff.mp read
  cases read
  exact ⟨_, lists⟩

/-- However a date was spelled, its parts fit, and there are at most three in a list. -/
theorem bounds_of_ofJson? {value : Json} {d : Date} (read : ofJson? value = some d) :
    d.PartsFit ∧ d.AtMostThree := by
  obtain ⟨field, lists⟩ := exists_partLists? read
  have each : ∀ ps ∈ d.parts, ps.length ≤ 3 ∧ ∀ n ∈ ps, IsPart n := by
    intro ps mem
    obtain ⟨item, list⟩ := exists_partList? lists mem
    exact partList?_bounds list
  exact ⟨fun ps mem => (each ps mem).2, fun ps mem => (each ps mem).1⟩

/-! ## Reading what was written -/

theorem ofJson?_ofInt {n : Int} (fits : IsPart n) :
    Scalar.ofJson? (Json.ofInt n) = some (.whole n) := by
  obtain ⟨low, high⟩ := fits
  have value : (Numeral.ofInt n).value? = some (.whole n) := by
    apply Numeral.value?_ofInt
    · unfold maxSigned64
      omega
    · unfold maxSigned64
      omega
  have small : n ≤ maxSigned64 := by
    unfold maxSigned64
    omega
  simp [Json.ofInt, Scalar.ofJson?, value, small]

theorem leadingParts_whole {ps : List Int} (fit : ∀ n ∈ ps, IsPart n) :
    leadingParts (ps.map .whole) = ps.take 3 := by
  have parts : (ps.map Scalar.whole).map Scalar.part? = ps.map some := by
    rw [List.map_map]
    refine List.map_congr_left fun n mem => ?_
    simp [Scalar.part?, clampPart_eq_self (fit n mem)]
  have all : (ps.map some).takeWhile Option.isSome = ps.map some :=
    List.takeWhile_eq_self_iff.mpr (by simp)
  unfold leadingParts
  rw [parts, all, List.filterMap_map]
  simp

/-- The numbers of one list as they are written. -/
def partsJson (ps : List Int) : Json := .array (ps.map Json.ofInt)

theorem partList?_partsJson {ps : List Int} (fit : ∀ n ∈ ps, IsPart n) :
    partList? (partsJson ps) = some (ps.take 3) := by
  have scalars : (ps.map Json.ofInt).mapM Scalar.ofJson? = some (ps.map .whole) :=
    mapM_map_eq_some fun n mem => ofJson?_ofInt (fit n mem)
  simp [partsJson, partList?, scalars, leadingParts_whole fit]

theorem partLists?_partsJson {parts : List (List Int)}
    (fit : ∀ ps ∈ parts, ∀ n ∈ ps, IsPart n) :
    partLists? (some (.array (parts.map partsJson))) = some (parts.map (·.take 3)) :=
  mapM_map_eq_some fun ps mem => partList?_partsJson (fit ps mem)

/-- What is written is an object with every field at most once, and each under its name. -/
theorem knownFields?_toJson (d : Date) :
    ∃ fields, d.toJson.knownFields? fieldNames = some fields ∧
      fields.lookup "date-parts" =
        (if d.parts.isEmpty then none else some (.array (d.parts.map partsJson))) ∧
      fields.lookup "season" = d.season.map .text ∧
      fields.lookup "literal" = d.literal.map .text ∧
      fields.lookup "raw" = d.raw.map .text ∧
      fields.lookup "circa" = some (.bool d.circa) := by
  obtain ⟨parts, season, literal, raw, circa⟩ := d
  -- What is not set is left out, so that each field is there or is not.
  cases parts <;> cases season <;> cases literal <;> cases raw <;>
    simp [toJson, Json.knownFields?, fieldNames, Json.distinct, partsJson, List.lookup_cons,
      -List.lookup_eq_none_iff]

/-- A date comes back with every list cut off behind three parts. -/
theorem ofJson?_toJson {d : Date} (fit : d.PartsFit) :
    ofJson? d.toJson = some { d with parts := d.parts.map (·.take 3) } := by
  obtain ⟨fields, known, parts, season, literal, raw, circa⟩ := knownFields?_toJson d
  have lists : partLists? (fields.lookup "date-parts") = some (d.parts.map (·.take 3)) := by
    rw [parts]
    split
    · rename_i empty
      rw [List.isEmpty_iff.mp empty]
      rfl
    · exact partLists?_partsJson fit
  have text (s : Option String) : Json.optionalText? .strict (s.map .text) = some s := by
    cases s <;> rfl
  have scalar (s : Option String) : optionalScalar? (s.map .text) = some (s.map .text) := by
    cases s <;> rfl
  have named (s : Option String) : (s.map Scalar.text).bind Scalar.season? = s := by
    cases s <;> rfl
  have mark : optionalScalar? (some (.bool d.circa)) = some (some (.bool d.circa)) := rfl
  unfold ofJson?
  rw [known]
  simp [lists, season, literal, raw, circa, text, scalar, named, mark, Scalar.isTrue]

theorem ofJson?_toJson_of_short {d : Date} (fit : d.PartsFit) (short : d.AtMostThree) :
    ofJson? d.toJson = some d := by
  have whole : d.parts.map (·.take 3) = d.parts := by
    conv_rhs => rw [← List.map_id d.parts]
    exact List.map_congr_left fun ps mem => List.take_of_length_le (short ps mem)
  rw [ofJson?_toJson fit, whole]

theorem isWritable_partsJson (ps : List Int) : (partsJson ps).IsWritable := by
  refine Json.allWritable_iff.mpr fun item mem => ?_
  obtain ⟨n, -, rfl⟩ := List.mem_map.mp mem
  exact Numeral.isSpelling_ofInt n

theorem isWritable_toJson (d : Date) : d.toJson.IsWritable := by
  have text (name : String) (value : Option String) :
      ∀ field ∈ (value.map fun s => (name, Json.text s)).toList, field.2.IsWritable := by
    cases value <;> simp [Json.IsWritable]
  have parts : (Json.array (d.parts.map partsJson)).IsWritable := by
    refine Json.allWritable_iff.mpr fun item mem => ?_
    obtain ⟨ps, -, rfl⟩ := List.mem_map.mp mem
    exact isWritable_partsJson ps
  refine Json.fieldsWritable_iff.mpr ?_
  simp only [List.forall_mem_append]
  refine ⟨⟨⟨⟨?_, text "season" d.season⟩, text "literal" d.literal⟩, text "raw" d.raw⟩, ?_⟩
  · split
    · simp
    · exact List.forall_mem_singleton.mpr parts
  · simp [Json.IsWritable]

/-! ## Writing and reading again -/

/-- The date is read again from the value that writes it, and from the text of that value. -/
def Returns (d : Date) : Prop :=
  ofJson? d.toJson = some d ∧ (Json.read? d.toJson.write).bind ofJson? = some d

theorem returns_of_short {d : Date} (fit : d.PartsFit) (short : d.AtMostThree) : d.Returns := by
  have again := ofJson?_toJson_of_short fit short
  refine ⟨again, ?_⟩
  rw [Json.read?_write (isWritable_toJson d)]
  exact again

/-- A date that was read from some value, in whatever form, is the same when it is written and read
again; and so is every date whose parts fit and that has at most three of them in a list. -/
theorem rewriting_stable :
    (∀ (value : Json) (d : Date), ofJson? value = some d → d.Returns) ∧
      ∀ d : Date, d.PartsFit → d.AtMostThree → d.Returns := by
  refine ⟨fun value d read => ?_, fun d fit short => returns_of_short fit short⟩
  obtain ⟨fit, short⟩ := bounds_of_ofJson? read
  exact returns_of_short fit short

/-- A date in an array: a year as a text, a month with a fraction, a day far beyond 32 bits, one
part too many, a truth value that ends the second list, a season that is a number, and a mark that
is one too. -/
def mixedJson : Json :=
  .array [
    .array [
      .array [.text " 2019 ", .number ⟨false, ['1', '1'], some ['7'], none⟩,
        .number ⟨false, ['9'], none, some ⟨'e', none, ['9']⟩⟩, Json.ofInt 4],
      .array [Json.ofInt (-44), .bool true, Json.ofInt 15]],
    Json.ofInt 3, .null, .text "spring of \"44\"", Json.ofInt 1]

/-- What is read from it. -/
def mixedDate : Date where
  parts := [[2019, 11, 2147483647], [-44]]
  season := some "3"
  raw := some "spring of \"44\""
  circa := true

theorem rewriting_stable_mixed :
    (ofJson? mixedJson = some mixedDate ∧ mixedDate.Returns) ∧
      (mixedDate.PartsFit ∧ mixedDate.AtMostThree ∧ mixedDate.Returns) := by
  have read : ofJson? mixedJson = some mixedDate := by decide +kernel
  have fit : mixedDate.PartsFit := by simp [PartsFit, IsPart, mixedDate]
  have short : mixedDate.AtMostThree := by simp [AtMostThree, mixedDate]
  exact ⟨⟨read, rewriting_stable.1 mixedJson mixedDate read⟩,
    fit, short, rewriting_stable.2 mixedDate fit short⟩

end CiteStyle.Date
