-- Locales laid over each other. Merging goes through the tables of the other locale in
-- whatever order they have, and sets each term under the form and the name that the term
-- itself has. So it overrides the right terms only if every term stands under its own form
-- and name already, and this is kept by all that makes or changes a locale.
import CiteStyle.Locale.English
import CiteStyle.Locale.Json
import CiteStyle.Proofs.CheckedSteps
import Mathlib.Data.List.Nodup

namespace CiteStyle

/-! ## Entries under distinct keys -/

section Entries

variable [DecidableEq κ] {key : κ} {value : α} {entries : List (κ × α)}

theorem keys_putEntry (key : κ) (value : α) (entries : List (κ × α)) :
    (putEntry key value entries).map Prod.fst =
      if key ∈ entries.map Prod.fst then entries.map Prod.fst
      else entries.map Prod.fst ++ [key] := by
  induction entries with
  | nil => rfl
  | cons entry rest ih =>
    unfold putEntry
    by_cases same : entry.1 = key
    · simp [same]
    · have other : key ≠ entry.1 := Ne.symm same
      simp only [same, if_false, List.map_cons, ih, List.mem_cons, other, false_or]
      split <;> rfl

theorem nodup_putEntry (distinct : (entries.map Prod.fst).Nodup) :
    ((putEntry key value entries).map Prod.fst).Nodup := by
  rw [keys_putEntry]
  split
  · exact distinct
  · rename_i new
    exact List.nodup_append_comm.mpr (List.nodup_cons.mpr ⟨new, distinct⟩)

theorem lookup_of_mem_distinct (distinct : (entries.map Prod.fst).Nodup)
    (mem : (key, value) ∈ entries) : entries.lookup key = some value := by
  induction entries with
  | nil => cases mem
  | cons entry rest ih =>
    rw [List.map_cons, List.nodup_cons] at distinct
    rcases List.mem_cons.mp mem with rfl | further
    · exact List.lookup_cons_self
    · have other : key ≠ entry.1 := fun same =>
        distinct.1 (List.mem_map.mpr ⟨_, further, same⟩)
      rw [List.lookup_cons, beq_eq_false_iff_ne.mpr other]
      exact ih distinct.2 further

end Entries

namespace Locale

variable {a b c l : Locale}

/-! ## Terms under their own forms and names -/

/-- No form has two tables, no name stands twice in a table, and every term stands under its
own form and name. -/
structure WellPlaced (l : Locale) : Prop where
  forms : (l.terms.map Prod.fst).Nodup
  names : ∀ table ∈ l.terms, (table.2.map Prod.fst).Nodup
  own : ∀ table ∈ l.terms, ∀ entry ∈ table.2, entry.2.form = table.1 ∧ entry.2.name = entry.1

theorem mem_termsIn {form : TermForm} {entry : String × Term} (mem : entry ∈ l.termsIn form) :
    (form, l.termsIn form) ∈ l.terms := by
  unfold termsIn at *
  rcases found : l.terms.lookup form with _ | table
  · simp [found] at mem
  · exact mem_of_lookup found

theorem WellPlaced.own_of_mem (h : l.WellPlaced) {form : TermForm} {entry : String × Term}
    (mem : entry ∈ l.termsIn form) : entry.2.form = form ∧ entry.2.name = entry.1 :=
  h.own _ (mem_termsIn mem) entry mem

theorem WellPlaced.own_of_termIn? (h : l.WellPlaced) {name : String} {form : TermForm} {t : Term}
    (found : l.termIn? name form = some t) : t.form = form ∧ t.name = name :=
  h.own_of_mem (mem_of_lookup found)

/-- A term that is stored is the one that stands under its form and name. -/
theorem WellPlaced.mem_allTerms (h : l.WellPlaced) {t : Term} :
    t ∈ l.allTerms ↔ l.termIn? t.name t.form = some t := by
  unfold allTerms
  rw [List.mem_flatMap]
  constructor
  · rintro ⟨⟨form, table⟩, listed, mem⟩
    obtain ⟨⟨name, t⟩, entry, rfl⟩ := List.mem_map.mp mem
    obtain ⟨sameForm, sameName⟩ := h.own _ listed _ entry
    obtain rfl : t.form = form := sameForm
    obtain rfl : t.name = name := sameName
    have there : l.termsIn t.form = table := by
      rw [termsIn, lookup_of_mem_distinct h.forms listed, Option.getD_some]
    rw [termIn?, there]
    exact lookup_of_mem_distinct (h.names _ listed) entry
  · intro found
    have entry := mem_of_lookup found
    exact ⟨_, mem_termsIn entry, List.mem_map.mpr ⟨_, entry, rfl⟩⟩

/-! ## What keeps terms in their places -/

theorem WellPlaced.setTerm (h : l.WellPlaced) (t : Term) : (l.setTerm t).WellPlaced := by
  have distinct : ((l.termsIn t.form).map Prod.fst).Nodup := by
    unfold termsIn
    rcases found : l.terms.lookup t.form with _ | table
    · exact List.nodup_nil
    · exact h.names _ (mem_of_lookup found)
  refine ⟨nodup_putEntry h.forms, ?_, ?_⟩
  · intro table mem
    rcases mem_putEntry mem with rfl | old
    · exact nodup_putEntry distinct
    · exact h.names table old
  · intro table mem entry listed
    rcases mem_putEntry mem with rfl | old
    · rcases mem_putEntry listed with rfl | old
      · exact ⟨rfl, rfl⟩
      · exact h.own_of_mem old
    · exact h.own table old entry listed

theorem WellPlaced.setDateFormat (h : l.WellPlaced) (form : DateForm) (parts : List DateTemplate) :
    (l.setDateFormat form parts).WellPlaced := by
  cases form with
  | text => exact ⟨h.forms, h.names, h.own⟩
  | numeric => exact ⟨h.forms, h.names, h.own⟩

theorem WellPlaced.foldl_setTerm (h : l.WellPlaced) (ts : List Term) :
    (ts.foldl Locale.setTerm l).WellPlaced := by
  induction ts generalizing l with
  | nil => exact h
  | cons t ts ih => exact ih (h.setTerm t)

theorem WellPlaced.merge (h : a.WellPlaced) (b : Locale) : (a.merge b).WellPlaced :=
  have kept := h.foldl_setTerm b.allTerms
  ⟨kept.forms, kept.names, kept.own⟩

theorem wellPlaced_new (lang : String) : ({ lang } : Locale).WellPlaced :=
  ⟨List.nodup_nil, by simp, by simp⟩

theorem wellPlaced_english : english.WellPlaced :=
  ⟨by decide +kernel, by decide +kernel, by decide +kernel⟩

/-! ## Locales that are read -/

theorem WellPlaced.setForm (h : a.WellPlaced) {name : String} {entry : String × TermEntry}
    (set : setForm name a entry = .ok b) : b.WellPlaced := by
  obtain ⟨form, -, set⟩ := except_bind_ok set
  split at set
  · cases set
    exact h.setTerm _
  · cases set
    exact h

theorem WellPlaced.setEntry (h : a.WellPlaced) {entry : String × TermEntry}
    (set : setEntry a entry = .ok b) : b.WellPlaced := by
  obtain ⟨name, written⟩ := entry
  cases written with
  | simple text =>
    cases set
    exact h.setTerm _
  | numbered single multiple =>
    cases set
    exact h.setTerm _
  | forms entries => exact foldlM_keeps (fun _ _ _ kept => kept.setForm) h set

theorem WellPlaced.setFormat (h : a.WellPlaced) {format : String × List DateTemplate}
    (set : setFormat a format = .ok b) : b.WellPlaced := by
  obtain ⟨form, -, set⟩ := except_bind_ok set
  cases set
  exact h.setDateFormat form format.2

theorem wellPlaced_ofSource {source : Source} (read : ofSource source = .ok l) :
    l.WellPlaced := by
  obtain ⟨filled, terms, dates⟩ := except_bind_ok read
  have placed := foldlM_keeps (fun _ _ _ kept => kept.setEntry) (wellPlaced_new source.lang) terms
  exact foldlM_keeps (fun _ _ _ kept => kept.setFormat) placed dates

/-- The locales that can be made: empty ones, American English, those read from a document, and
what comes from them by setting terms and date formats and by merging. -/
inductive Reachable : Locale → Prop
  | new (lang : String) : Reachable { lang }
  | english : Reachable english
  | read {source : Source} {l : Locale} (read : ofSource source = .ok l) : Reachable l
  | setTerm {l : Locale} (t : Term) : Reachable l → Reachable (l.setTerm t)
  | setDateFormat {l : Locale} (form : DateForm) (parts : List DateTemplate) :
      Reachable l → Reachable (l.setDateFormat form parts)
  | merge {a b : Locale} : Reachable a → Reachable b → Reachable (a.merge b)

theorem Reachable.wellPlaced (h : l.Reachable) : l.WellPlaced := by
  induction h with
  | new lang => exact wellPlaced_new lang
  | english => exact wellPlaced_english
  | read read => exact wellPlaced_ofSource read
  | setTerm t _ ih => exact ih.setTerm t
  | setDateFormat form parts _ ih => exact ih.setDateFormat form parts
  | merge _ _ ih _ => exact ih.merge _

/-! ## One term after the other -/

/-- The last term that is set under a form and a name is the one that counts. -/
theorem termIn?_foldl_setTerm (l : Locale) (ts : List Term) (name : String) (form : TermForm) :
    (ts.foldl setTerm l).termIn? name form =
      (ts.reverse.find? fun t => form = t.form ∧ name = t.name).or (l.termIn? name form) := by
  induction ts generalizing l with
  | nil => rfl
  | cons t ts ih =>
    rw [List.foldl_cons, ih, termIn?_setTerm, List.reverse_cons, List.find?_append, Option.or_assoc]
    by_cases same : form = t.form ∧ name = t.name <;> simp [same]

/-- In the terms of a locale, in any order and more than once, there is one under a form and a
name just if the locale has it. -/
theorem WellPlaced.find?_eq (h : l.WellPlaced) {ts : List Term}
    (same : ∀ t, t ∈ ts ↔ t ∈ l.allTerms) (name : String) (form : TermForm) :
    (ts.find? fun t => form = t.form ∧ name = t.name) = l.termIn? name form := by
  rcases found : ts.find? fun t => form = t.form ∧ name = t.name with _ | t
  · rcases there : l.termIn? name form with _ | t
    · exact found
    · obtain ⟨rfl, rfl⟩ := h.own_of_termIn? there
      have listed := (same t).mpr (h.mem_allTerms.mpr there)
      simpa using List.find?_eq_none.mp found t listed
  · have listed := (same t).mp (List.mem_of_find?_eq_some found)
    obtain ⟨rfl, rfl⟩ := by simpa using List.find?_some found
    exact found.trans (h.mem_allTerms.mp listed).symm

theorem lang_foldl_setTerm (l : Locale) (ts : List Term) : (ts.foldl setTerm l).lang = l.lang := by
  induction ts generalizing l with
  | nil => rfl
  | cons t ts ih => exact ih (l.setTerm t)

/-! ## Overlay -/

theorem lang_merge (a b : Locale) : (a.merge b).lang = a.lang := lang_foldl_setTerm a b.allTerms

theorem dateFormat?_merge (a b : Locale) (form : DateForm) :
    (a.merge b).dateFormat? form = (b.dateFormat? form).or (a.dateFormat? form) := by
  cases form <;> rfl

/-- It does not matter how the other locale lists its terms. -/
theorem WellPlaced.termIn?_merge (h : b.WellPlaced) (a : Locale) {order : Locale}
    (same : ∀ t, t ∈ order.allTerms ↔ t ∈ b.allTerms) (name : String) (form : TermForm) :
    (a.merge order).termIn? name form = (b.termIn? name form).or (a.termIn? name form) := by
  have terms : (a.merge order).termIn? name form =
      (order.allTerms.foldl Locale.setTerm a).termIn? name form := rfl
  rw [terms, termIn?_foldl_setTerm]
  rw [h.find?_eq (fun t => List.mem_reverse.trans (same t))]

/-- Two locales that cannot be told apart: by their tags, the terms that they have in exactly one
form, or their date formats. How their tables are ordered does not count. -/
structure SameAs (a b : Locale) : Prop where
  lang : a.lang = b.lang
  terms : ∀ name form, a.termIn? name form = b.termIn? name form
  dates : ∀ form, a.dateFormat? form = b.dateFormat? form

theorem WellPlaced.merge_reordered (h : b.WellPlaced) (a : Locale) {order : Locale}
    (terms : order.allTerms.Perm b.allTerms)
    (dates : ∀ form, order.dateFormat? form = b.dateFormat? form) :
    (a.merge order).SameAs (a.merge b) where
  lang := by rw [lang_merge, lang_merge]
  terms name form := by
    rw [h.termIn?_merge a fun t => terms.mem_iff, h.termIn?_merge a fun _ => .rfl]
  dates form := by rw [dateFormat?_merge, dateFormat?_merge, dates]

theorem WellPlaced.merge_self (h : a.WellPlaced) : (a.merge a).SameAs a where
  lang := lang_merge a a
  terms name form := by rw [h.termIn?_merge a fun _ => .rfl, Option.or_self]
  dates form := by rw [dateFormat?_merge, Option.or_self]

theorem WellPlaced.merge_twice (h : b.WellPlaced) (a : Locale) :
    ((a.merge b).merge b).SameAs (a.merge b) where
  lang := lang_merge _ b
  terms name form := by
    rw [h.termIn?_merge _ fun _ => .rfl, h.termIn?_merge a fun _ => .rfl, ← Option.or_assoc,
      Option.or_self]
  dates form := by
    rw [dateFormat?_merge, dateFormat?_merge, ← Option.or_assoc, Option.or_self]

theorem WellPlaced.merge_assoc (hb : b.WellPlaced) (hc : c.WellPlaced) (a : Locale) :
    ((a.merge b).merge c).SameAs (a.merge (b.merge c)) where
  lang := by rw [lang_merge, lang_merge, lang_merge]
  terms name form := by
    rw [hc.termIn?_merge _ fun _ => .rfl, hb.termIn?_merge a fun _ => .rfl,
      (hb.merge c).termIn?_merge a fun _ => .rfl, hc.termIn?_merge b fun _ => .rfl, Option.or_assoc]
  dates form := by simp only [dateFormat?_merge, Option.or_assoc]

/-- A locale stores every term under its own form and name. So in a locale with another laid over
it, a term is that of the other if the other has it in exactly this form, and the own one if not;
a date format likewise, and the tag is the own one. The order of the other's tables does not
matter, laying the same locale over once more changes nothing, and of three locales any two
neighbours may be put together first. -/
theorem merge_rightBiased (ha : a.Reachable) (hb : b.Reachable) (hc : c.Reachable) :
    (∀ table ∈ a.terms, ∀ entry ∈ table.2,
        entry.2.form = table.1 ∧ entry.2.name = entry.1) ∧
      (∀ name form,
        (a.merge b).termIn? name form = (b.termIn? name form).or (a.termIn? name form)) ∧
      (∀ form, (a.merge b).dateFormat? form = (b.dateFormat? form).or (a.dateFormat? form)) ∧
      (a.merge b).lang = a.lang ∧
      (∀ order : Locale, order.allTerms.Perm b.allTerms →
        (∀ form, order.dateFormat? form = b.dateFormat? form) →
          (a.merge order).SameAs (a.merge b)) ∧
      (a.merge a).SameAs a ∧ ((a.merge b).merge b).SameAs (a.merge b) ∧
      ((a.merge b).merge c).SameAs (a.merge (b.merge c)) := by
  have placed := hb.wellPlaced
  refine ⟨ha.wellPlaced.own, placed.termIn?_merge a fun _ => .rfl, dateFormat?_merge a b,
    lang_merge a b, fun order => placed.merge_reordered a, ha.wellPlaced.merge_self,
    placed.merge_twice a, placed.merge_assoc hc.wellPlaced a⟩

/-- A document with a term in one form, a term in two, and one date format. -/
def germanSource : Source where
  lang := "de-DE"
  terms := [("and", .simple "und"),
    ("page", .forms [("long", .numbered "Seite" "Seiten"), ("short", .simple "S.")])]
  dates := [("numeric", [{ component := .day, behind := some "." }, { component := .month }])]

/-- The locale that the document describes. -/
def german : Locale where
  lang := "de-DE"
  terms := [(.long, [("and", ⟨"and", .long, "und", "und"⟩),
      ("page", ⟨"page", .long, "Seite", "Seiten"⟩)]),
    (.short, [("page", ⟨"page", .short, "S.", "S."⟩)])]
  numericDate := some [{ component := .day, behind := some "." }, { component := .month }]

theorem merge_rightBiased_german :
    english.Reachable ∧ german.Reachable ∧
      (english.merge german).termIn? "page" .short = some ⟨"page", .short, "S.", "S."⟩ ∧
      (english.merge german).termIn? "and" .symbol = some ⟨"and", .symbol, "&", "&"⟩ ∧
      (english.merge german).dateFormat? .text = some English.textDate ∧
      ((english.merge german).merge english).SameAs (english.merge (german.merge english)) := by
  have read : german.Reachable := @Reachable.read germanSource german rfl
  obtain ⟨-, terms, dates, -, -, -, -, assoc⟩ := merge_rightBiased .english read .english
  refine ⟨.english, read, ?_, ?_, ?_, assoc⟩
  · rw [terms]
    rfl
  · rw [terms]
    decide +kernel
  · rw [dates]
    rfl

end Locale

end CiteStyle
