-- Passes that differ in nothing but the readers of dates that they keep. If these
-- follow one choice, then every element gives and tells the same in both passes,
-- and they follow it still. So one cite says nothing to the next.
import CiteStyle.Proofs.ReaderTables
import CiteStyle.Proofs.StepRelations
import CiteStyle.Render.Style

namespace CiteStyle

open Rendering

/-! ## Steps in two passes -/

/-- Two passes differ in their readers at most, and these follow one choice. -/
structure Pass.Agree (choice : ReaderChoice) (p q : Pass) : Prop where
  suppressed : p.suppressed = q.suppressed
  lastLabel : p.lastLabel = q.lastLabel
  missedCalls : p.missedCalls = q.missedCalls
  left : p.readers.Follows choice
  right : q.readers.Follows choice

/-- A step gives and tells the same in passes that agree, and leaves passes that agree. -/
def Blind (choice : ReaderChoice) (x : Rendering α) : Prop :=
  ∀ p q, p.Agree choice q →
    (x p).1 = (x q).1 ∧ (x p).2.1 = (x q).2.1 ∧ (x p).2.2.Agree choice (x q).2.2

theorem blind_readDate {choice : ReaderChoice} {s : Setting} (covers : choice.Covers s)
    (text : String) : Blind choice (readDate s text) := by
  intro p q h
  obtain ⟨readers, left, read⟩ := covers.readDate h.left text
  obtain ⟨readers', right, read'⟩ := covers.readDate h.right text
  rw [read, read']
  exact ⟨rfl, rfl, { h with left, right }⟩

/-- That steps do not see the readers is a law of steps, if the readers of all locales that are
asked are chosen. -/
theorem blind_law {choice : ReaderChoice} {s : Setting} (covers : choice.Covers s) : StepLaw s (Blind choice) :=
  PassMatch.law {
    suppressed := fun h => h.suppressed
    lastLabel := fun h => h.lastLabel
    label := fun h _ => { h with lastLabel := rfl }
    suppress := fun h names => { h with suppressed := congrArg (· ++ names) h.suppressed }
    readDate := blind_readDate covers }

/-! ## Bodies of cites -/

/-- The locales in which a style reads dates, given the locale that it renders in. -/
def Locale.consulted (locale : Locale) : List Locale :=
  if Locale.english.lang = locale.lang then [locale] else [locale, Locale.english]

theorem Locale.mem_consulted {locale l : Locale} (mem : l ∈ locale.consulted) :
    l = locale ∨ l = Locale.english := by
  unfold consulted at mem
  split at mem
  · exact .inl (List.mem_singleton.mp mem)
  · simpa using mem

/-- No two of them have one tag. -/
theorem Locale.consulted_apart (locale : Locale) :
    ∀ l ∈ locale.consulted, ∀ l' ∈ locale.consulted, l.lang = l'.lang → l = l' :=
  readingLocales_apart { record := {}, locale } Locale.english

namespace Style

variable {choice : ReaderChoice} {locale : Locale}
  (asked : ∀ l ∈ locale.consulted, l ∈ choice.locales)
include asked

theorem blind_renderPass (style : Style) (layout : Layout) (record : Record) (cite : Cite) :
    Blind choice (style.renderPass layout locale record cite) := by
  have law : StepLaw (style.setting layout record locale cite) (Blind choice) := by
    refine blind_law fun fallback found => ?_
    cases found
    exact asked
  have missed (name : String) : Blind choice (Element.missCall name) :=
    Alike.missCall fun p q h => { h with missedCalls := congrArg (· ++ [name]) h.missedCalls }
  exact law.elementLaw.renderWithin missed _ layout.elements

/-- The body of a cite does not depend on the table, as long as it follows the choice. -/
theorem renderBody_blind (style : Style) (layout : Layout) (record : Record) (cite : Cite)
    {readers readers' : DateReaders} (h : readers.Follows choice) (h' : readers'.Follows choice) :
    (style.renderBody layout locale record cite readers).1 =
        (style.renderBody layout locale record cite readers').1 ∧
      DateReaders.Follows (style.renderBody layout locale record cite readers).2 choice := by
  have agree : Pass.Agree choice { readers } { readers := readers' } := ⟨rfl, rfl, rfl, h, h'⟩
  obtain ⟨result, -, after⟩ := blind_renderPass asked style layout record cite _ _ agree
  exact ⟨result, after.left⟩

/-- The bodies of some cites are those that each of them has alone, with any table that follows
the choice. -/
theorem renderBodies_blind (style : Style) (cites : List (Record × Cite)) {alone : DateReaders}
    (ha : alone.Follows choice) :
    ∀ {readers : DateReaders}, readers.Follows choice →
      (style.renderBodies locale cites readers).1 = cites.map (fun cited =>
          (style.renderBody style.citation locale cited.1 cited.2 alone).1) ∧
        DateReaders.Follows (style.renderBodies locale cites readers).2 choice := by
  induction cites with
  | nil => exact fun h => ⟨rfl, h⟩
  | cons cited rest ih =>
    intro readers h
    obtain ⟨same, next⟩ := renderBody_blind asked style style.citation cited.1 cited.2 h ha
    obtain ⟨others, after⟩ := ih next
    refine ⟨?_, after⟩
    rw [List.map_cons, ← same, ← others]
    rfl

end Style

end CiteStyle
