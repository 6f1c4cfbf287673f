-- A style that is asked again and again keeps the readers of dates from call to
-- call. If locales with one tag read dates alike, then every answer is the one
-- that the style gives to that call alone.
import CiteStyle.Proofs.PassAgreement

namespace CiteStyle

/-! ## Locales that read dates alike -/

/-- Two locales have the same terms for the months and the same numeric date format. -/
def Locale.SameDates (l l' : Locale) : Prop :=
  (∀ month, 1 ≤ month → month ≤ 12 → ∀ form ∈ [TermForm.long, TermForm.short],
    l.term? (MonthNames.termName month) form false =
      l'.term? (MonthNames.termName month) form false) ∧
  l.numericDate = l'.numericDate

instance (l l' : Locale) : Decidable (l.SameDates l') := inferInstanceAs (Decidable (_ ∧ _))

/-- Locales with one tag have the same terms for the months and the same numeric date format. -/
def Locale.SameDatesByTag (locales : List Locale) : Prop :=
  ∀ l ∈ locales, ∀ l' ∈ locales, l.lang = l'.lang → l.SameDates l'

instance (locales : List Locale) : Decidable (Locale.SameDatesByTag locales) :=
  inferInstanceAs (Decidable (∀ l ∈ locales, ∀ l' ∈ locales, _ → _))

theorem Locale.SameDates.reader_eq {l l' : Locale} (h : l.SameDates l') :
    DateReader.ofLocale l = DateReader.ofLocale l' := by
  have names : MonthNames.ofLocale l = MonthNames.ofLocale l' := by
    refine List.foldl_ext _ _ _ fun names month mem => ?_
    have bounds : 1 ≤ month ∧ month ≤ 12 := by
      obtain ⟨n, within, rfl⟩ := List.mem_map.mp mem
      have := List.mem_range.mp within
      omega
    unfold MonthNames.addMonth
    rw [h.1 month bounds.1 bounds.2 .long (by simp), h.1 month bounds.1 bounds.2 .short (by simp)]
  have order : l.dayBeforeMonth = l'.dayBeforeMonth := by
    unfold Locale.dayBeforeMonth
    rw [h.2]
  unfold DateReader.ofLocale
  rw [names, order]

/-! ## Calls -/

/-- What a style is asked to render, and in which locale. -/
inductive RenderCall where
  | cite (locale : Locale) (record : Record) (cite : Cite)
  | citation (locale : Locale) (cites : List (Record × Cite))
  | entry (locale : Locale) (record : Record)

/-- The locale of a call. -/
def RenderCall.locale : RenderCall → Locale
  | cite locale _ _ => locale
  | citation locale _ => locale
  | entry locale _ => locale

namespace Style

/-- The answer to a call. -/
def answer (style : Style) : RenderCall → StateM DateReaders Buffer
  | .cite locale record cite => style.renderCite locale record cite
  | .citation locale cites => style.renderCitation locale cites
  | .entry locale record => style.renderEntry locale record

/-- The answers to calls one after the other. -/
def answers (style : Style) (calls : List RenderCall) : StateM DateReaders (List Buffer) :=
  calls.mapM style.answer

variable {choice : ReaderChoice}

theorem renderIn_blind {locale : Locale} (asked : ∀ l ∈ locale.consulted, l ∈ choice.locales)
    (style : Style) (layout : Layout) (record : Record) (cite : Cite)
    {readers readers' : DateReaders} (h : readers.Follows choice) (h' : readers'.Follows choice) :
    (style.renderIn layout locale record cite readers).1 =
        (style.renderIn layout locale record cite readers').1 ∧
      DateReaders.Follows (style.renderIn layout locale record cite readers).2 choice := by
  obtain ⟨same, after⟩ := renderBody_blind asked style layout record cite h h'
  exact ⟨congrArg (layout.decoration.apply locale) same, after⟩

/-- An answer does not depend on the table, as long as it follows the choice. -/
theorem answer_blind (style : Style) (call : RenderCall)
    (asked : ∀ l ∈ call.locale.consulted, l ∈ choice.locales)
    {readers readers' : DateReaders} (h : readers.Follows choice) (h' : readers'.Follows choice) :
    (style.answer call readers).1 = (style.answer call readers').1 ∧
      DateReaders.Follows (style.answer call readers).2 choice := by
  cases call with
  | cite locale record cite => exact renderIn_blind asked style _ record cite h h'
  | citation locale cites =>
    obtain ⟨bodies, after⟩ := renderBodies_blind asked style cites h' h
    obtain ⟨bodies', -⟩ := renderBodies_blind asked style cites h' h'
    refine ⟨?_, after⟩
    exact congrArg (fun bodies => style.citation.decoration.apply locale
      (Buffer.joinFilled (style.citation.delimiter.getD "") bodies)) (bodies.trans bodies'.symm)
  | entry locale record =>
    unfold answer renderEntry
    split
    · exact renderIn_blind asked style _ record {} h h'
    · exact ⟨rfl, h⟩

/-- The answers to calls are those that each call gets alone, with any table that follows the
choice. -/
theorem answers_blind (style : Style) (calls : List RenderCall)
    (asked : ∀ call ∈ calls, ∀ l ∈ call.locale.consulted, l ∈ choice.locales)
    {alone : DateReaders} (ha : alone.Follows choice) :
    ∀ {readers : DateReaders}, readers.Follows choice →
      (style.answers calls readers).1 = calls.map fun call => (style.answer call alone).1 := by
  induction calls with
  | nil => exact fun _ => rfl
  | cons call rest ih =>
    intro readers h
    obtain ⟨same, next⟩ := style.answer_blind call (asked call List.mem_cons_self) h ha
    have others := ih (fun call mem => asked call (List.mem_cons_of_mem _ mem)) next
    unfold answers at others ⊢
    rw [List.mapM_cons, List.map_cons]
    exact congrArg₂ List.cons same others

/-- If locales with one tag read dates alike, American English among them, then calls are answered
as each of them is by a style that has not been asked before. Nor does it matter whether the names
of months are kept in a table of their own, from which the readers are made. -/
theorem answers_alone (style : Style) (calls : List RenderCall)
    (alike : Locale.SameDatesByTag (Locale.english :: calls.map (·.locale))) :
    (style.answers calls []).1 = calls.map (fun call => (style.answer call []).1) ∧
      ∀ locales ⊆ Locale.english :: calls.map (·.locale),
        (DateCache.readersOf locales {}).1 = locales.map DateReader.ofLocale := by
  have follows := DateReaders.follows_own (Locale.english :: calls.map (·.locale))
    fun l mem l' mem' same => (alike l mem l' mem' same).reader_eq
  refine ⟨style.answers_blind calls (fun call mem l consulted => ?_) follows follows,
    fun locales within => ?_⟩
  · rcases Locale.mem_consulted consulted with rfl | rfl
    · exact List.mem_cons_of_mem _ (List.mem_map_of_mem mem)
    · exact List.mem_cons_self
  · have paired : DateCache.Paired {} := fun _ => rfl
    exact paired.readersOf (fun l mem => within mem) follows

/-- A locale that puts the day before the month in numbers. -/
def dayFirst : Locale where
  lang := "en-GB"
  numericDate := some [{ component := .day, behind := some "/" },
    { component := .month, behind := some "/" }, { component := .year }]

/-- A style whose citations are the months and the days of works. -/
def datedStyle : Style where
  citation := {
    elements := [.date ⟨"issued", none, .day, [
      ⟨.month, some .numeric, { affixes := { behind := "-" } }, none⟩,
      ⟨.day, some .numeric, {}, none⟩], {}⟩]
    delimiter := some "; " }
  callDepth := 0

/-- A date in digits, in a locale, in one with another order, and in one with the first tag. -/
def datedCalls : List RenderCall :=
  let work : Record := { dates := [("issued", .ofRaw "2/3/2020")] }
  [.cite dayFirst work {}, .cite ⟨"en-CA", [], none, none⟩ work {},
    .citation (dayFirst.setTerm ⟨"and", .symbol, "&", "&"⟩) [(work, {}), (work, {})]]

theorem answers_alone_dated :
    Locale.SameDatesByTag (Locale.english :: datedCalls.map (·.locale)) ∧
      (datedStyle.answers datedCalls []).1.map Buffer.plainText = ["3-2", "2-3", "3-2; 3-2"] := by
  have alike : Locale.SameDatesByTag (Locale.english :: datedCalls.map (·.locale)) := by
    decide +kernel
  refine ⟨alike, ?_⟩
  rw [(answers_alone datedStyle datedCalls alike).1]
  decide +kernel

end Style

end CiteStyle
