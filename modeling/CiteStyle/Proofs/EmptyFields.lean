-- Empty fields count as absent: a record and the same record without its empty
-- fields are rendered alike. Every place that looks at a field has a filter of its
-- own, so there is one lemma for each way to look a field up, and the elements
-- follow. A literal of a name is the exception, because it is not filtered: an
-- empty one hides the other parts of its name.
import CiteStyle.Proofs.StepLaws
import CiteStyle.Render.Style

namespace CiteStyle

open Rendering Text

/-! ## Fields that are not empty -/

/-- A name without its empty parts. -/
def Name.withoutEmpty (n : Name) : Name where
  family := nonEmpty? n.family
  given := nonEmpty? n.given
  droppingParticle := nonEmpty? n.droppingParticle
  nonDroppingParticle := nonEmpty? n.nonDroppingParticle
  ending := nonEmpty? n.ending
  literal := nonEmpty? n.literal

namespace Date

/-- A date without its empty texts. -/
def withoutEmpty (d : Date) : Date :=
  { d with
    season := nonEmpty? d.season
    literal := nonEmpty? d.literal
    raw := nonEmpty? d.raw }

/-- A date with no parts and no texts. -/
def isBare (d : Date) : Bool :=
  d.parts.all (·.isEmpty) && d.season.isNone && d.literal.isNone && d.raw.isNone

end Date

/-- Some entries without the names whose values are to be dropped. -/
def withoutValues (drop : α → Bool) (entries : List (String × α)) : List (String × α) :=
  entries.filter fun entry => !(entries.lookup entry.1).any drop

/-- A record without its empty fields: the empty texts, parts of names and texts of dates, and then
the dates and lists of names in which there is nothing. -/
def Record.withoutEmpty (r : Record) : Record :=
  { r with
    texts := withoutValues (· = "") r.texts
    dates := withoutValues Date.isBare (r.dates.map fun (name, date) => (name, date.withoutEmpty))
    names := withoutValues List.isEmpty
      (r.names.map fun (name, names) => (name, names.map Name.withoutEmpty)) }

/-- What is rendered by, with a record without its empty fields. -/
def Setting.withoutEmpty (s : Setting) : Setting := { s with record := s.record.withoutEmpty }

/-! ## Looking fields up -/

theorem nonEmpty?_some {s : String} (h : s ≠ "") : nonEmpty? (some s) = some s := by
  simp [nonEmpty?, h]

/-- What takes an empty text for none sees no difference if the empty text is left out. -/
theorem apply_nonEmpty? {f : Option String → α} (h : f (some "") = f none) (s : Option String) :
    f (nonEmpty? s) = f s := by
  cases s with
  | none => rfl
  | some s =>
    by_cases empty : s = ""
    · subst empty
      exact h.symm
    · rw [nonEmpty?_some empty]

theorem nonEmpty?_nonEmpty? (s : Option String) : nonEmpty? (nonEmpty? s) = nonEmpty? s :=
  apply_nonEmpty? rfl s

theorem lookup_withoutValues (drop : α → Bool) (entries : List (String × α)) (name : String) :
    (withoutValues drop entries).lookup name = (entries.lookup name).filter (!drop ·) := by
  unfold withoutValues
  rw [lookup_filter_names (fun name => !(entries.lookup name).any drop)]
  cases entries.lookup name with
  | none => rfl
  | some a => cases h : drop a <;> simp [h, Option.filter]

namespace Date

variable (d : Date)

theorem value_withoutEmpty : d.withoutEmpty.value = d.value := by
  have filter (s : Option String) : s.filter (· ≠ "") = nonEmpty? s := rfl
  simp only [value, withoutEmpty, filter, nonEmpty?_nonEmpty?]

theorem isEmpty_withoutEmpty : d.withoutEmpty.isEmpty = d.isEmpty := by
  rw [isEmpty, isEmpty, value_withoutEmpty]

/-- A date is empty if nothing is left of it without its empty texts. -/
theorem isBare_withoutEmpty : d.withoutEmpty.isBare = d.isEmpty := by
  have filter (s : Option String) : s.filter (· ≠ "") = nonEmpty? s := rfl
  have parts : d.parts.all (·.isEmpty) = (d.parts.filter (!·.isEmpty)).isEmpty := by
    rw [Bool.eq_iff_iff, List.isEmpty_iff, List.filter_eq_nil_iff]
    simp
  simp only [isBare, withoutEmpty, isEmpty, value, filter, parts]
  generalize d.parts.filter (!·.isEmpty) = filled
  cases filled with
  | nil => cases nonEmpty? d.literal <;> cases nonEmpty? d.raw <;> cases nonEmpty? d.season <;> rfl
  | cons first rest => simp [List.getLast?_cons]

end Date

namespace Record

variable (r : Record) (name : String)

theorem text?_withoutEmpty : r.withoutEmpty.text? name = r.text? name := by
  have texts : r.withoutEmpty.texts = withoutValues (· = "") r.texts := rfl
  unfold text?
  rw [texts, lookup_withoutValues, Option.filter_filter]
  simp

theorem date?_withoutEmpty : r.withoutEmpty.date? name = (r.date? name).map Date.withoutEmpty := by
  have dates : r.withoutEmpty.dates =
      withoutValues Date.isBare (r.dates.map fun entry => (entry.1, entry.2.withoutEmpty)) := rfl
  unfold date?
  rw [dates, lookup_withoutValues, lookup_map_values]
  cases r.dates.lookup name with
  | none => rfl
  | some d =>
    cases h : d.isEmpty <;>
      simp [Option.filter, d.isBare_withoutEmpty, d.isEmpty_withoutEmpty, h]

theorem names?_withoutEmpty :
    r.withoutEmpty.names? name = (r.names? name).map (·.map Name.withoutEmpty) := by
  have names : r.withoutEmpty.names = withoutValues List.isEmpty
      (r.names.map fun entry => (entry.1, entry.2.map Name.withoutEmpty)) := rfl
  unfold names?
  rw [names, lookup_withoutValues, lookup_map_values]
  cases r.names.lookup name with
  | none => rfl
  | some list => cases list <;> rfl

end Record

/-- A value without what is empty in it. -/
def Value.withoutEmpty : Value → Value
  | .text s => .text s
  | .date d => .date d.withoutEmpty
  | .names list => .names (list.map Name.withoutEmpty)

namespace Setting

variable (s : Setting) (suppressed : List String) (name : String)

theorem text?_withoutEmpty (short : Bool) :
    s.withoutEmpty.text? suppressed short name = s.text? suppressed short name := by
  have record (short : Bool) : s.withoutEmpty.recordText? short name = s.recordText? short name := by
    simp only [recordText?, withoutEmpty, Record.text?_withoutEmpty]
  simp only [text?, record]
  rfl

theorem date?_withoutEmpty :
    s.withoutEmpty.date? suppressed name = (s.date? suppressed name).map Date.withoutEmpty := by
  unfold date?
  split
  · rfl
  · exact s.record.date?_withoutEmpty name

theorem names?_withoutEmpty : s.withoutEmpty.names? suppressed name =
    (s.names? suppressed name).map (·.map Name.withoutEmpty) := by
  unfold names?
  split
  · rfl
  · exact s.record.names?_withoutEmpty name

theorem mem_of_names? {names : List Name} (h : s.names? suppressed name = some names) :
    (name, names) ∈ s.record.names := by
  unfold names? Record.names? at h
  split at h
  · contradiction
  · exact mem_of_lookup (Option.eq_some_of_filter_eq_some h)

theorem value?_withoutEmpty :
    s.withoutEmpty.value? suppressed name = (s.value? suppressed name).map Value.withoutEmpty := by
  unfold value?
  rw [text?_withoutEmpty, date?_withoutEmpty, names?_withoutEmpty]
  cases s.text? suppressed false name with
  | some text => rfl
  | none =>
    cases s.date? suppressed name with
    | some date => rfl
    | none => cases s.names? suppressed name <;> rfl

end Setting

/-! ## Tests -/

namespace Condition

variable (s : Setting) (suppressed : List String)

theorem isNumeric_withoutEmpty (name : String) :
    isNumeric s.withoutEmpty suppressed name = isNumeric s suppressed name := by
  unfold isNumeric
  rw [s.value?_withoutEmpty]
  rcases s.value? suppressed name with _ | (_ | _ | _) <;> rfl

theorem countedBy_withoutEmpty :
    countedBy s.withoutEmpty suppressed = countedBy s suppressed := by
  unfold countedBy
  rw [s.text?_withoutEmpty]

/-- A date stays approximate. -/
theorem isUncertain_withoutEmpty (name : String) :
    (s.withoutEmpty.date? suppressed name).any (·.circa) =
      (s.date? suppressed name).any (·.circa) := by
  rw [s.date?_withoutEmpty, Option.any_map]
  rfl

theorem holds_withoutEmpty (c : Condition) :
    c.holds s.withoutEmpty suppressed = c.holds s suppressed := by
  have type : s.withoutEmpty.record.type = s.record.type := rfl
  have position : c.positionResults s.withoutEmpty = c.positionResults s := rfl
  have present (name : String) : (s.withoutEmpty.value? suppressed name).isSome =
      (s.value? suppressed name).isSome := by
    rw [s.value?_withoutEmpty, Option.isSome_map]
  have numeric : isNumeric s.withoutEmpty suppressed = isNumeric s suppressed :=
    funext (isNumeric_withoutEmpty s suppressed)
  simp only [holds, results, type, position, present, numeric, countedBy_withoutEmpty,
    isUncertain_withoutEmpty]

end Condition

/-! ## Names -/

/-- A literal that is empty has no family name and no given name beside it, which it would hide. -/
def Name.HidesNothing (n : Name) : Prop :=
  n.literal = some "" → nonEmpty? n.family = none ∧ nonEmpty? n.given = none

instance (n : Name) : Decidable n.HidesNothing :=
  inferInstanceAs
    (Decidable (n.literal = some "" → nonEmpty? n.family = none ∧ nonEmpty? n.given = none))

/-- No empty literal of a record hides a name. -/
def Record.HidesNothing (r : Record) : Prop := ∀ entry ∈ r.names, ∀ n ∈ entry.2, n.HidesNothing

instance (r : Record) : Decidable r.HidesNothing :=
  inferInstanceAs (Decidable (∀ entry ∈ r.names, ∀ n ∈ entry.2, n.HidesNothing))

namespace NameFormat

variable (f : NameFormat) (o : NameOptions) (locale : Locale)

theorem trimmed?_nonEmpty? (s : Option String) : trimmed? (nonEmpty? s) = trimmed? s :=
  apply_nonEmpty? rfl s

theorem familyPart_withoutEmpty (n : Name) :
    f.familyPart locale n.withoutEmpty = f.familyPart locale n := by
  simp only [familyPart, Name.withoutEmpty, nonEmpty?_nonEmpty?, withParticle, withEnding,
    trimmed?_nonEmpty?]

theorem givenPart_withoutEmpty (besideFamily : Bool) (n : Name) :
    f.givenPart o locale besideFamily n.withoutEmpty = f.givenPart o locale besideFamily n := by
  have given : (nonEmpty? n.given).getD "" = n.given.getD "" :=
    apply_nonEmpty? (f := (·.getD "")) rfl n.given
  simp only [givenPart, Name.withoutEmpty, given]

/-- Without a family name and a given name, the other parts of a name give nothing. -/
theorem writeName_empty (inverted : Bool) {n : Name} (literal : n.literal = none)
    (family : nonEmpty? n.family = none) (given : nonEmpty? n.given = none) :
    f.writeName o locale inverted n = [] := by
  have noFamily : f.familyPart locale n = [] := by rw [familyPart, family]
  have noGiven : f.givenPart o locale false n = [] := by
    rw [← givenPart_withoutEmpty]
    cases initials : o.initializeWith <;>
      simp [givenPart, Name.withoutEmpty, given, initials, Affixes.apply]
  have nothing (separator : String) : Buffer.joinFilled separator [[], []] = [] := rfl
  simp [writeName, literal, noFamily, noGiven, nothing]

theorem writeName_withoutEmpty (inverted : Bool) {n : Name} (h : n.HidesNothing) :
    f.writeName o locale inverted n.withoutEmpty = f.writeName o locale inverted n := by
  rcases literal : n.literal with _ | s
  · have none : n.withoutEmpty.literal = none := by simp [Name.withoutEmpty, literal, nonEmpty?]
    simp only [writeName, literal, none, familyPart_withoutEmpty, givenPart_withoutEmpty]
  · by_cases empty : s = ""
    · -- An empty literal writes nothing, so without it nothing must be left to write.
      subst empty
      obtain ⟨family, given⟩ := h literal
      have none : n.withoutEmpty.literal = none := by simp [Name.withoutEmpty, literal, nonEmpty?]
      rw [writeName_empty f o locale inverted none]
      · rw [writeName, literal]
        rfl
      · exact (nonEmpty?_nonEmpty? n.family).trans family
      · exact (nonEmpty?_nonEmpty? n.given).trans given
    · have same : n.withoutEmpty.literal = some s := by
        rw [← nonEmpty?_some empty, ← literal]
        rfl
      rw [writeName, writeName, literal, same]

theorem write_withoutEmpty {names : List Name} (h : ∀ n ∈ names, n.HidesNothing) :
    f.write o locale (names.map Name.withoutEmpty) = f.write o locale names := by
  have written (o : NameOptions) :
      (names.map Name.withoutEmpty).zipIdx.map
          (fun entry => f.writeName o locale (o.inverts entry.2) entry.1) =
        names.zipIdx.map (fun entry => f.writeName o locale (o.inverts entry.2) entry.1) := by
    rw [List.zipIdx_map, List.map_map]
    refine List.map_congr_left fun entry mem => ?_
    exact writeName_withoutEmpty f o locale _ (h entry.1 (List.fst_mem_of_mem_zipIdx mem))
  unfold write count
  simp only [List.length_map]
  rw [written]

end NameFormat

/-! ## Steps -/

section Steps

variable (s : Setting)

theorem fetchText_withoutEmpty (short : Bool) (name : String) :
    fetchText s.withoutEmpty short name = fetchText s short name := by
  funext p
  rw [fetchText_apply, fetchText_apply, s.text?_withoutEmpty]

theorem fetchValue_withoutEmpty (name : String) :
    fetchValue s.withoutEmpty name = (·.map Value.withoutEmpty) <$> fetchValue s name := by
  funext p
  rw [map_apply, fetchValue_apply, fetchValue_apply, s.value?_withoutEmpty, Option.isSome_map]

theorem peekDate_withoutEmpty (name : String) :
    peekDate s.withoutEmpty name = (·.map Date.withoutEmpty) <$> peekDate s name := by
  funext p
  rw [map_apply]
  show (s.withoutEmpty.date? p.suppressed name, ([] : List Fetch), p) = _
  rw [s.date?_withoutEmpty]
  rfl

/-- Steps that go on alike with names of which no literal hides anything go on alike with the names
that are looked up. -/
theorem fetchNames_withoutEmpty_bind (plain : s.record.HidesNothing) (name : String)
    {k k' : Option (List Name) → Rendering α} (without : k none = k' none)
    (found : ∀ names, (∀ n ∈ names, n.HidesNothing) →
      k (some (names.map Name.withoutEmpty)) = k' (some names)) :
    fetchNames s.withoutEmpty name >>= k = fetchNames s name >>= k' := by
  funext p
  rw [bind_apply, bind_apply, fetchNames_apply, fetchNames_apply, s.names?_withoutEmpty,
    Option.isSome_map]
  cases look : s.names? p.suppressed name with
  | none => simp only [Option.map_none, without]
  | some names =>
    have same := found names fun n mem => plain _ (s.mem_of_names? _ _ look) n mem
    simp only [Option.map_some, same]

theorem takes_withoutEmpty (condition : Option Condition) :
    Element.takes s.withoutEmpty condition = Element.takes s condition := by
  simp only [Element.takes, Condition.holds_withoutEmpty]

/-! ### Labels, texts and numbers -/

theorem termText?_withoutEmpty (l : LabelElement) (name : String) (place : Nat) (value : Value) :
    l.termText? s.withoutEmpty name place value.withoutEmpty = l.termText? s name place value := by
  have term : LabelElement.termOf? s.withoutEmpty name place value.withoutEmpty =
      LabelElement.termOf? s name place value := by
    cases value with
    | names list => simp [LabelElement.termOf?, Value.withoutEmpty]
    | _ => rfl
  rw [LabelElement.termText?, term]
  rfl

theorem renderFor_withoutEmpty (l : LabelElement) (name : String) (place : Nat) :
    l.renderFor s.withoutEmpty name place = l.renderFor s name place := by
  have text (value : Option Value) :
      (value.map Value.withoutEmpty).bind (l.termText? s.withoutEmpty name place) =
        value.bind (l.termText? s name place) := by
    cases value with
    | none => rfl
    | some value => exact termText?_withoutEmpty s l name place value
  unfold LabelElement.renderFor
  rw [fetchValue_withoutEmpty]
  simp only [bind_map_left, text]
  rfl

theorem renderLabel_withoutEmpty (l : LabelElement) (place : Nat) :
    l.render s.withoutEmpty place = l.render s place := by
  simp only [LabelElement.render, renderFor_withoutEmpty]

theorem renderParts_withoutEmpty (place : Nat) (parts : List Locator.Part) :
    TextElement.renderParts s.withoutEmpty place parts = TextElement.renderParts s place parts := by
  induction parts generalizing place with
  | nil => rfl
  | cons part rest ih =>
    simp only [TextElement.renderParts, TextElement.renderPartLabel, renderLabel_withoutEmpty, ih]

theorem renderVariable_withoutEmpty (name text : String) :
    TextElement.renderVariable s.withoutEmpty name text =
      TextElement.renderVariable s name text := by
  have pages : TextElement.writePages s.withoutEmpty text = TextElement.writePages s text := rfl
  simp only [TextElement.renderVariable, renderParts_withoutEmpty, pages]

theorem renderText_withoutEmpty (call : String → Rendering Buffer) (e : TextElement) :
    e.render call s.withoutEmpty = e.render call s := by
  have source : TextElement.renderSource call s.withoutEmpty e.source =
      TextElement.renderSource call s e.source := by
    unfold TextElement.renderSource
    simp only [fetchText_withoutEmpty, renderVariable_withoutEmpty]
    rfl
  rw [TextElement.render, source]
  rfl

theorem renderNumber_withoutEmpty (e : NumberElement) :
    e.render s.withoutEmpty = e.render s := by
  rw [NumberElement.render, fetchText_withoutEmpty]
  rfl

/-! ### Dates -/

theorem renderDate_withoutEmpty (e : DateElement) : e.render s.withoutEmpty = e.render s := by
  have content : e.renderContent s.withoutEmpty = e.renderContent s := by
    unfold DateElement.renderContent
    rw [peekDate_withoutEmpty, bind_map_left]
    refine congrArg _ (funext fun date => ?_)
    cases date with
    | none => rfl
    | some d =>
      have season : nonEmpty? d.withoutEmpty.season = nonEmpty? d.season :=
        nonEmpty?_nonEmpty? d.season
      simp only [Option.map_some, d.value_withoutEmpty, season]
      rfl
  rw [DateElement.render, content]
  rfl

/-! ### Names -/

variable (plain : s.record.HidesNothing)
include plain

theorem renderList_withoutEmpty (f : NamesFormat) (name : String) :
    f.renderList s.withoutEmpty name = f.renderList s name := by
  have label (first : Bool) :
      f.renderLabel s.withoutEmpty first name = f.renderLabel s first name := by
    simp only [NamesFormat.renderLabel, renderFor_withoutEmpty]
  unfold NamesFormat.renderList
  refine fetchNames_withoutEmpty_bind s plain name rfl fun names alone => ?_
  have write : f.name.write s.withoutEmpty.nameOptions s.withoutEmpty.locale
      (names.map Name.withoutEmpty) = f.name.write s.nameOptions s.locale names :=
    NameFormat.write_withoutEmpty f.name s.nameOptions s.locale alone
  simp only [label, write]

theorem renderLists_withoutEmpty (f : NamesFormat) (names : List String) :
    f.renderLists s.withoutEmpty names = f.renderLists s names := by
  induction names with
  | nil => rfl
  | cons name rest ih =>
    rw [NamesFormat.renderLists, NamesFormat.renderLists, renderList_withoutEmpty s plain, ih]

theorem countNames_withoutEmpty (f : NamesFormat) (names : List String) :
    f.countNames s.withoutEmpty names = f.countNames s names := by
  induction names with
  | nil => rfl
  | cons name rest ih =>
    rw [NamesFormat.countNames, NamesFormat.countNames, ih]
    refine fetchNames_withoutEmpty_bind s plain name rfl fun names _ => ?_
    simp only [Option.getD_some, NameFormat.count, List.length_map]
    rfl

theorem renderNames_withoutEmpty (f : NamesFormat) (names : List String) :
    f.render s.withoutEmpty names = f.render s names := by
  simp only [NamesFormat.render, NamesFormat.renderContent, renderLists_withoutEmpty s plain,
    countNames_withoutEmpty s plain]
  rfl

end Steps

/-! ## Elements -/

namespace Element

variable {s : Setting}

mutual
theorem pieces_withoutEmpty (plain : s.record.HidesNothing) (call : String → Rendering Buffer)
    (e : Element) : e.pieces call s.withoutEmpty = e.pieces call s := by
  cases e with
  | text e => simp only [pieces, renderText_withoutEmpty]
  | number e => simp only [pieces, renderNumber_withoutEmpty]
  | label e => simp only [pieces, renderLabel_withoutEmpty]
  | date e => simp only [pieces, renderDate_withoutEmpty]
  | names subjects format substitute =>
    simp only [pieces, renderNames_withoutEmpty s plain,
      firstFilled_withoutEmpty plain call substitute]
  | group delimiter decoration children =>
    simp only [pieces, piecesOf_withoutEmpty plain call children]
    rfl
  | choose branches => exact branchPieces_withoutEmpty plain call branches

theorem piecesOf_withoutEmpty (plain : s.record.HidesNothing) (call : String → Rendering Buffer)
    (es : List Element) : piecesOf call s.withoutEmpty es = piecesOf call s es := by
  match es with
  | [] => rfl
  | e :: rest =>
    simp only [piecesOf, pieces_withoutEmpty plain call e, piecesOf_withoutEmpty plain call rest]

theorem branchPieces_withoutEmpty (plain : s.record.HidesNothing)
    (call : String → Rendering Buffer) (bs : List Branch) :
    branchPieces call s.withoutEmpty bs = branchPieces call s bs := by
  match bs with
  | [] => rfl
  | .mk condition children :: rest =>
    simp only [branchPieces, takes_withoutEmpty, piecesOf_withoutEmpty plain call children,
      branchPieces_withoutEmpty plain call rest]

theorem firstFilled_withoutEmpty (plain : s.record.HidesNothing)
    (call : String → Rendering Buffer) (es : List Element) :
    firstFilled call s.withoutEmpty es = firstFilled call s es := by
  match es with
  | [] => rfl
  | e :: rest =>
    simp only [firstFilled, pieces_withoutEmpty plain call e,
      firstFilled_withoutEmpty plain call rest]
end

theorem renderCall_withoutEmpty (plain : s.record.HidesNothing) (depth : Nat) :
    renderCall s.withoutEmpty depth = renderCall s depth := by
  induction depth with
  | zero => rfl
  | succ depth ih =>
    have macros : s.withoutEmpty.macros = s.macros := rfl
    funext name
    rw [renderCall, renderCall, ih, macros]
    simp only [piecesOf_withoutEmpty plain]

theorem renderAll_withoutEmpty (plain : s.record.HidesNothing) (elements : List Element) :
    renderAll s.withoutEmpty elements = renderAll s elements := by
  have depth : s.withoutEmpty.callDepth = s.callDepth := rfl
  simp only [renderAll, renderWithin, depth, renderCall_withoutEmpty plain,
    piecesOf_withoutEmpty plain]

end Element

/-! ## Styles -/

namespace Style

variable (style : Style) (locale : Locale)

theorem renderBody_withoutEmpty (layout : Layout) {record : Record} (plain : record.HidesNothing)
    (cite : Cite) : style.renderBody layout locale record.withoutEmpty cite =
      style.renderBody layout locale record cite := by
  have pass : style.renderPass layout locale record.withoutEmpty cite =
      style.renderPass layout locale record cite :=
    Element.renderAll_withoutEmpty (s := style.setting layout record locale cite) plain
      layout.elements
  unfold renderBody
  rw [pass]

theorem renderIn_withoutEmpty (layout : Layout) {record : Record} (plain : record.HidesNothing)
    (cite : Cite) : style.renderIn layout locale record.withoutEmpty cite =
      style.renderIn layout locale record cite := by
  simp only [renderIn, renderBody_withoutEmpty style locale layout plain]

theorem renderEntry_withoutEmpty {record : Record} (plain : record.HidesNothing) :
    style.renderEntry locale record.withoutEmpty = style.renderEntry locale record := by
  simp only [renderEntry, renderIn_withoutEmpty style locale _ plain]

theorem renderBodies_withoutEmpty {cites : List (Record × Cite)}
    (plain : ∀ cited ∈ cites, cited.1.HidesNothing) :
    style.renderBodies locale (cites.map fun (record, cite) => (record.withoutEmpty, cite)) =
      style.renderBodies locale cites := by
  induction cites with
  | nil => rfl
  | cons cited rest ih =>
    obtain ⟨record, cite⟩ := cited
    obtain ⟨first, others⟩ := List.forall_mem_cons.mp plain
    rw [List.map_cons, renderBodies, renderBodies, ih others,
      renderBody_withoutEmpty style locale style.citation first]

/-- Empty fields count as absent: citations and entries stay the same if all empty texts, parts of
names and texts of dates are taken out of their records, and then all dates and lists of names in
which there is nothing. Only an empty literal must not hide the other parts of its name. -/
theorem render_withoutEmpty (style : Style) (locale : Locale) {cites : List (Record × Cite)}
    (plain : ∀ cited ∈ cites, cited.1.HidesNothing) :
    style.renderCitation locale (cites.map fun (record, cite) => (record.withoutEmpty, cite)) =
        style.renderCitation locale cites ∧
      ∀ cited ∈ cites,
        style.renderCite locale cited.1.withoutEmpty cited.2 =
            style.renderCite locale cited.1 cited.2 ∧
          style.renderEntry locale cited.1.withoutEmpty = style.renderEntry locale cited.1 := by
  refine ⟨?_, fun cited mem => ⟨?_, ?_⟩⟩
  · simp only [renderCitation, renderBodies_withoutEmpty style locale plain]
  · exact renderIn_withoutEmpty style locale style.citation (plain cited mem) cited.2
  · exact renderEntry_withoutEmpty style locale (plain cited mem)

/-- A style that writes the names, the title and the date of a work. -/
def plainStyle : Style where
  citation := {
    elements := [.group ", " {} [
      .names ["author"] ⟨{}, none, false, "; ", {}⟩ [.text ⟨.ofVariable "title" true, {}⟩],
      .text ⟨.ofVariable "title" true, {}⟩,
      .date ⟨"issued", none, .day, [⟨.year, none, {}, none⟩], {}⟩]] }
  callDepth := 0

/-- A record with empty fields of all kinds. -/
def sparseRecord : Record where
  texts := [("title", "Beowulf"), ("title-short", ""), ("note", "")]
  dates := [("issued", { parts := [[1854]], season := some "", literal := some "" }),
    ("accessed", { raw := some "" })]
  names := [("author", [{ literal := some "", ending := some "Jr." },
    { family := some "Doe", given := some "", droppingParticle := some "" }]), ("editor", [])]

theorem render_withoutEmpty_sparse :
    sparseRecord.HidesNothing ∧ sparseRecord.withoutEmpty.names ≠ sparseRecord.names ∧
      (plainStyle.renderCitation .english [(sparseRecord, {})] []).1 ≠ [] ∧
      plainStyle.renderCitation .english [(sparseRecord.withoutEmpty, {})] =
        plainStyle.renderCitation .english [(sparseRecord, {})] := by
  have plain : ∀ cited ∈ [(sparseRecord, ({} : Cite))], cited.1.HidesNothing := by decide
  exact ⟨plain _ List.mem_cons_self, by decide, by decide +kernel,
    (render_withoutEmpty plainStyle .english plain).1⟩

/-- A literal is rendered because it is there, although it is empty, and hides the family name. -/
theorem renderCite_emptyLiteral :
    let doe : Record := { names := [("author", [{ literal := some "", family := some "Doe" }])] }
    (plainStyle.renderCite .english doe {} []).1 = [] ∧
      (plainStyle.renderCite .english doe.withoutEmpty {} []).1 = [.ofText .plain "Doe"] := by
  decide +kernel

end Style

end CiteStyle
