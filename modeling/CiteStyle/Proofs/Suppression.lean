-- Suppression is for good. Once a variable counts as absent, by its own name or
-- because it won as a substitute, nothing in the rest of the pass finds it: no
-- look-up, told or silent, no condition, no label, and no element that shows it.
-- Nothing that can be done with a session takes a suppressed variable back.
import CiteStyle.Proofs.InPlace
import CiteStyle.Proofs.OutputLaws
import CiteStyle.Proofs.ReaderTables
import CiteStyle.Proofs.Substitutes
import CiteStyle.Render.Session.Operation

namespace CiteStyle

open Rendering

/-! ## Looking suppressed variables up -/

namespace Setting

variable {suppressed : List String} {name : String} (s : Setting) (mem : name ∈ suppressed)
include mem

theorem text?_suppressed (short : Bool) : s.text? suppressed short name = none :=
  if_pos (List.contains_iff_mem.mpr mem)

theorem date?_suppressed : s.date? suppressed name = none :=
  if_pos (List.contains_iff_mem.mpr mem)

theorem names?_suppressed : s.names? suppressed name = none :=
  if_pos (List.contains_iff_mem.mpr mem)

theorem value?_suppressed : s.value? suppressed name = none := by
  unfold value?
  rw [s.text?_suppressed mem, s.date?_suppressed mem, s.names?_suppressed mem]
  rfl

end Setting

namespace LookUp

variable (s : Setting) (name : String)

/-- What a look-up finds. -/
def found? (suppressed : List String) : LookUp → Option Value
  | .text short | .silentText short => (s.text? suppressed short name).map .text
  | .date | .silentDate => (s.date? suppressed name).map .date
  | .names => (s.names? suppressed name).map .names
  | .value | .silentValue => s.value? suppressed name

/-- A look-up tells at most whether it found something, and leaves the pass as it is. -/
theorem take_apply (kind : LookUp) (p : Pass) :
    kind.take s name p =
      let found := kind.found? s name p.suppressed
      (found, if kind.isTold name then [⟨name, found.isSome⟩] else [], p) := by
  have told {α : Type} (x : Option α) (f : α → Value) : (x.map f).isSome = x.isSome :=
    Option.isSome_map
  cases kind with
  | text short =>
    simp only [take, bind_apply, fetchText_apply, found?, isTold, told, decide_not,
      Bool.not_eq_true', decide_eq_false_iff_not, ite_not]
    split <;> rfl
  | date =>
    simp only [found?, told]
    rfl
  | names =>
    simp only [found?, told]
    rfl
  | silentText | silentDate | value | silentValue => rfl

variable {name}

theorem found?_suppressed (kind : LookUp) {suppressed : List String} (mem : name ∈ suppressed) :
    kind.found? s name suppressed = none := by
  cases kind <;> simp only [found?, s.text?_suppressed mem, s.date?_suppressed mem,
    s.names?_suppressed mem, s.value?_suppressed mem, Option.map_none]

/-- However a suppressed variable is looked up, nothing is found. Listeners that hear of it hear
just that. -/
theorem take_suppressed (kind : LookUp) {p : Pass} (mem : name ∈ p.suppressed) :
    kind.take s name p = (none, if kind.isTold name then [⟨name, false⟩] else [], p) := by
  rw [take_apply, found?_suppressed s kind mem]
  rfl

end LookUp

/-! ## Records without a variable -/

/-- Some entries without those of a name. -/
def withoutEntry (name : String) (entries : List (String × α)) : List (String × α) :=
  entries.filter (·.1 ≠ name)

theorem lookup_withoutEntry (name other : String) (entries : List (String × α)) :
    (withoutEntry name entries).lookup other =
      if other = name then none else entries.lookup other := by
  unfold withoutEntry
  rw [lookup_filter_names (fun key => decide (key ≠ name))]
  by_cases own : other = name <;> simp [own]

/-- A setting in which neither the record nor the cite has a variable. -/
def Setting.without (s : Setting) (name : String) : Setting :=
  { s with
    record := { s.record with
      texts := withoutEntry name s.record.texts
      dates := withoutEntry name s.record.dates
      names := withoutEntry name s.record.names }
    cite := { s.cite with locator := if name = "locator" then none else s.cite.locator } }

namespace Setting

variable {suppressed : List String} {name : String} (s : Setting) (mem : name ∈ suppressed)
include mem

theorem text?_without (other : String) :
    (s.without name).text? (suppressed.filter (· ≠ name)) false other =
      s.text? suppressed false other := by
  by_cases own : other = name
  · subst own
    rw [s.text?_suppressed mem]
    unfold text? without recordText? Record.text?
    by_cases locator : other = "locator" <;>
      cases s.cite.locator <;> simp [lookup_withoutEntry, locator]
  · unfold text? without recordText? Record.text?
    by_cases locator : name = "locator"
    · cases s.cite.locator <;> simp_all [lookup_withoutEntry]
    · cases s.cite.locator <;> simp [lookup_withoutEntry, own, locator]

theorem date?_without (other : String) :
    (s.without name).date? (suppressed.filter (· ≠ name)) other = s.date? suppressed other := by
  by_cases own : other = name
  · subst own
    rw [s.date?_suppressed mem]
    simp [date?, without, Record.date?, lookup_withoutEntry]
  · simp [date?, without, Record.date?, lookup_withoutEntry, own]

theorem names?_without (other : String) :
    (s.without name).names? (suppressed.filter (· ≠ name)) other = s.names? suppressed other := by
  by_cases own : other = name
  · subst own
    rw [s.names?_suppressed mem]
    simp [names?, without, Record.names?, lookup_withoutEntry]
  · simp [names?, without, Record.names?, lookup_withoutEntry, own]

theorem value?_without (other : String) :
    (s.without name).value? (suppressed.filter (· ≠ name)) other = s.value? suppressed other := by
  unfold value?
  rw [s.text?_without mem, s.date?_without mem, s.names?_without mem]

end Setting

/-- To a condition a suppressed variable is one that is neither in the record nor in the cite. -/
theorem Condition.holds_without {suppressed : List String} {name : String}
    (mem : name ∈ suppressed) (s : Setting) (c : Condition) :
    c.holds (s.without name) (suppressed.filter (· ≠ name)) = c.holds s suppressed := by
  have results : c.results (s.without name) (suppressed.filter (· ≠ name)) =
      c.results s suppressed := by
    have numeric : isNumeric (s.without name) (suppressed.filter (· ≠ name)) =
        isNumeric s suppressed := by
      funext other
      unfold isNumeric
      rw [s.value?_without mem]
    unfold results countedBy
    simp only [numeric, s.text?_without mem, s.date?_without mem, s.value?_without mem]
    rfl
  have positions : c.positionResults (s.without name) = c.positionResults s := rfl
  unfold holds
  rw [results, positions]

/-! ## Elements that show suppressed variables -/

theorem LabelElement.remember_suppressed (l : LabelElement) (name : String) (place : Nat)
    (p : Pass) : (l.remember name place p).2.2.suppressed = p.suppressed := by
  unfold remember
  split <;> rfl

section
variable {p : Pass} {name : String} (mem : name ∈ p.suppressed) (s : Setting)
include mem

/-- The label of a suppressed variable is empty, also where it is repeated for a later part. -/
theorem LabelElement.renderFor_suppressed (l : LabelElement) (place : Nat) :
    (l.renderFor s name place p).1 = [] := by
  have still : name ∈ (l.remember name place p).2.2.suppressed := by
    rwa [l.remember_suppressed]
  unfold renderFor
  simp only [bind_apply, fetchValue_apply, s.value?_suppressed still, pure_apply]
  exact Decoration.apply_nil s.locale l.decoration

theorem TextElement.render_suppressed (call : String → Rendering Buffer) {e : TextElement}
    {short : Bool} (shows : e.source = .ofVariable name short) : (e.render call s p).1 = [] := by
  unfold render renderSource
  rw [map_apply, shows]
  simp only [bind_apply, fetchText_apply, s.text?_suppressed mem, pure_apply]
  exact Decoration.apply_nil s.locale e.decoration

theorem NumberElement.render_suppressed {e : NumberElement} (shows : e.subject = name) :
    (e.render s p).1 = [] := by
  unfold render
  simp only [bind_apply, fetchText_apply, shows, s.text?_suppressed mem, pure_apply]
  have blank : e.form.writeAll s.locale "" = [] := by
    cases e.form <;> rfl
  rw [Option.getD_none, blank]
  exact Decoration.apply_nil s.locale e.decoration

/-- A suppressed date gives nothing, and tells that it was not found. -/
theorem DateElement.render_suppressed {e : DateElement} (shows : e.subject = name) :
    e.render s p = ([], [⟨name, false⟩], p) := by
  have content : e.renderContent s p = ([], [], p) := by
    have peeked : peekDate s e.subject p = (none, [], p) := by
      show (s.date? p.suppressed e.subject, [], p) = _
      rw [shows, s.date?_suppressed mem]
    unfold renderContent
    rw [bind_apply, peeked]
    rfl
  unfold render
  simp only [bind_apply, content, report, pure_apply, shows, Decoration.apply_nil]
  rfl

end

namespace NamesFormat

variable {p : Pass} {names : List String} (mem : ∀ name ∈ names, name ∈ p.suppressed)
  (s : Setting) (f : NamesFormat)
include mem

/-- Suppressed names are each looked up in vain. -/
theorem renderLists_suppressed :
    f.renderLists s names p = (names.map fun _ => [], names.map (⟨·, false⟩), p) := by
  induction names with
  | nil => rfl
  | cons name rest ih =>
    have own := s.names?_suppressed (mem name List.mem_cons_self)
    have first : f.renderList s name p = ([], [⟨name, false⟩], p) := by
      unfold renderList
      rw [bind_apply, fetchNames_apply, own]
      rfl
    have others := ih fun name inside => mem name (List.mem_cons_of_mem _ inside)
    unfold renderLists
    simp only [bind_apply, first, others, pure_apply, List.append_nil]
    rfl

theorem countNames_suppressed : f.countNames s names p = (0, names.map (⟨·, false⟩), p) := by
  induction names with
  | nil => rfl
  | cons name rest ih =>
    have own := s.names?_suppressed (mem name List.mem_cons_self)
    have others := ih fun name inside => mem name (List.mem_cons_of_mem _ inside)
    have none : f.name.count s.nameOptions [] = 0 := by simp [NameFormat.count]
    unfold countNames
    simp only [bind_apply, fetchNames_apply, own, others, pure_apply, Option.getD_none, none,
      List.append_nil]
    rfl

theorem render_suppressed : f.render s names p = ([], names.map (⟨·, false⟩), p) := by
  have content : f.renderContent s names p = ([], names.map (⟨·, false⟩), p) := by
    have joined : Buffer.joinFilled f.delimiter (names.map fun _ => []) = [] := by
      unfold Buffer.joinFilled
      rw [List.filter_eq_nil_iff.mpr (by simp)]
      rfl
    unfold renderContent
    cases f.name.form with
    | count =>
      show (writeCount <$> f.countNames s names) p = _
      rw [map_apply, f.countNames_suppressed mem s]
      rfl
    | long | short =>
      show (Buffer.joinFilled f.delimiter <$> f.renderLists s names) p = _
      rw [map_apply, f.renderLists_suppressed mem s, joined]
  unfold render
  rw [map_apply, content, Decoration.apply_nil]

end NamesFormat

namespace Element

/-- An element shows nothing but variables of a list: it is the text, the number, the label or the
date of one of them, or it has lists of names of no others and no substitute for them. -/
def ShowsOnly (hidden : List String) : Element → Prop
  | .text e => ∃ name ∈ hidden, ∃ short, e.source = .ofVariable name short
  | .number e => e.subject ∈ hidden
  | .label e => ∃ name ∈ hidden, e.subject = some name
  | .date e => e.subject ∈ hidden
  | .names subjects _ substitute => (∀ name ∈ subjects, name ∈ hidden) ∧ substitute = []
  | .group .. | .choose _ => False

theorem ShowsOnly.mono {hidden more : List String} {e : Element} (shows : e.ShowsOnly hidden)
    (subset : hidden ⊆ more) : e.ShowsOnly more := by
  cases e with
  | text e =>
    obtain ⟨name, mem, short, source⟩ := shows
    exact ⟨name, subset mem, short, source⟩
  | number e | date e => exact subset shows
  | label e =>
    obtain ⟨name, mem, subject⟩ := shows
    exact ⟨name, subset mem, subject⟩
  | names subjects format substitute =>
    exact ⟨fun name inside => subset (shows.1 name inside), shows.2⟩
  | group | choose => exact shows

theorem renderWithin_suppressed {p : Pass} {e : Element} (shows : e.ShowsOnly p.suppressed)
    (s : Setting) (depth : Nat) : (renderWithin s depth [e] p).1 = [] := by
  have alone : (renderWithin s depth [e] p).1 = (e.pieces (renderCall s depth) s p).1.flatten := by
    simp [renderWithin, piecesOf, map_apply]
  rw [alone]
  cases e with
  | text e =>
    obtain ⟨name, mem, short, source⟩ := shows
    simp [pieces, map_apply, e.render_suppressed mem s _ source]
  | number e => simp [pieces, map_apply, e.render_suppressed shows s rfl]
  | label e =>
    obtain ⟨name, mem, subject⟩ := shows
    simp [pieces, map_apply, LabelElement.render, subject, e.renderFor_suppressed mem s]
  | date e => simp [pieces, map_apply, e.render_suppressed shows s rfl]
  | names subjects format substitute =>
    obtain ⟨mem, rfl⟩ := shows
    rw [pieces, bind_apply, format.render_suppressed mem s]
    rfl
  | group | choose => exact shows.elim

end Element

/-! ## What is told -/

/-- A step keeps a variable suppressed, and tells of no look-up that finds it. -/
def Unfound (name : String) (x : Rendering α) : Prop :=
  ∀ p, name ∈ p.suppressed → name ∈ (x p).2.2.suppressed ∧
    ∀ fetch ∈ (x p).2.1, fetch.name = name → fetch.found = false

namespace Unfound

variable {name : String}

theorem pure (a : α) : Unfound name (pure a : Rendering α) := fun _ mem =>
  ⟨mem, fun _ told => nomatch told⟩

theorem bind {x : Rendering α} {f : α → Rendering β} (hx : Unfound name x)
    (hf : ∀ a, Unfound name (f a)) : Unfound name (x >>= f) := by
  intro p mem
  obtain ⟨between, before⟩ := hx p mem
  obtain ⟨left, after⟩ := hf (x p).1 _ between
  exact ⟨left, fun fetch told => (List.mem_append.mp told).elim (before fetch) (after fetch)⟩

/-- A look-up that tells whether it found something is not heard to find what is suppressed. -/
theorem single {other : String} {found : Bool}
    (unfound : other = name → found = false) :
    ∀ fetch ∈ [Fetch.mk other found], fetch.name = name → fetch.found = false := by
  intro fetch told own
  obtain rfl := List.mem_singleton.mp told
  exact unfound own

theorem renderDate (s : Setting) (e : DateElement) : Unfound name (e.render s) := by
  intro p mem
  by_cases own : e.subject = name
  · rw [e.render_suppressed mem s own]
    exact ⟨mem, single fun _ => rfl⟩
  · obtain ⟨readers, content⟩ := Quiet.renderContent s e p
    have told : (e.render s p).2 =
        ([⟨e.subject, !(e.renderContent s p).1.isEmpty⟩], { p with readers }) := by
      unfold DateElement.render
      simp only [bind_apply, content, report, pure_apply]
      rfl
    rw [told]
    exact ⟨mem, single fun same => absurd same own⟩

/-- That what is suppressed is not found is a law of elements. -/
theorem law (s : Setting) : ElementLaw s (Unfound name) where
  pure := pure
  bind := bind
  lastLabel hf p := hf _ p
  fetchText short other p mem := by
    rw [fetchText_apply]
    refine ⟨mem, ?_⟩
    dsimp only
    split
    · exact fun _ told => nomatch told
    · refine single fun same => ?_
      rw [same, s.text?_suppressed mem]
      rfl
  fetchNames other p mem := by
    refine ⟨mem, single fun same => ?_⟩
    rw [same, s.names?_suppressed mem]
    rfl
  fetchValue other p mem := by
    refine ⟨mem, single fun same => ?_⟩
    rw [same, s.value?_suppressed mem]
    rfl
  renderDate := renderDate s
  takes _ _ mem := ⟨mem, fun _ told => nomatch told⟩
  listening hx := hx
  label _ _ mem := ⟨mem, fun _ told => nomatch told⟩
  suppress _ _ mem := ⟨List.mem_append_left _ mem, fun _ told => nomatch told⟩

theorem renderWithin (s : Setting) (depth : Nat) (elements : List Element) :
    Unfound name (Element.renderWithin s depth elements) := by
  refine (law s).renderWithin (fun called => ?_) depth elements
  exact bind (fun _ mem => ⟨mem, fun _ told => nomatch told⟩) fun _ => pure []

end Unfound

/-! ## Passes that hide a variable -/

/-- Nothing that is done from a pass on finds a variable. -/
structure Pass.Hides (p : Pass) (name : String) : Prop where
  /-- However it is looked up there is nothing, and all that is told is that nothing was found. -/
  lookUp : ∀ s (kind : LookUp),
    kind.take s name p = (none, if kind.isTold name then [⟨name, false⟩] else [], p)
  /-- A condition holds if it does so without the variable in the record and in the cite. -/
  condition : ∀ s (c : Condition),
    c.holds (s.without name) (p.suppressed.filter (· ≠ name)) = c.holds s p.suppressed
  /-- Its label is empty, also that of a later part. -/
  label : ∀ s (l : LabelElement) place, (l.renderFor s name place p).1 = []
  /-- No look-up finds it while elements are rendered, and it is hidden after them. -/
  elements : ∀ s depth elements,
    let effect := Element.renderWithin s depth elements p
    name ∈ effect.2.2.suppressed ∧ ∀ fetch ∈ effect.2.1, fetch.name = name → fetch.found = false

theorem Pass.hides_of_suppressed {p : Pass} {name : String} (mem : name ∈ p.suppressed) :
    p.Hides name where
  lookUp s kind := kind.take_suppressed s mem
  condition s c := c.holds_without mem s
  label s l place := l.renderFor_suppressed mem s place
  elements s depth elements := Unfound.renderWithin s depth elements p mem

/-! ## Runs -/

namespace Session

/-- Whatever is done with a session, nothing that is suppressed is forgotten. -/
theorem run_suppressed (operation : Operation) (session : Session) :
    session.pass.suppressed <+: (operation.run session).2.pass.suppressed := by
  induction operation generalizing session with
  | lookUp kind name =>
    show _ <+: (kind.take session.topSetting name session.pass).2.2.suppressed
    rw [LookUp.take_apply]
  | report | listen | dismiss | emit | child => exact List.prefix_rfl
  | readDate text =>
    obtain ⟨readers, after⟩ := Quiet.readDate session.topSetting text session.pass
    show _ <+: (Rendering.readDate session.topSetting text session.pass).2.2.suppressed
    rw [after]
  | suppress name => exact List.prefix_append _ _
  | merge =>
    obtain ⟨setting, pass, top, below, listeners⟩ := session
    cases below <;> exact List.prefix_rfl
  | discard =>
    obtain ⟨setting, pass, top, below, listeners⟩ := session
    cases below <;> exact List.prefix_rfl
  | render e =>
    show _ <+: (Session.render e session).2.pass.suppressed
    rw [render_eq]
    exact keeps_suppressed session.topSetting session.topSetting.callDepth [e] session.pass
  | beneath operation ih =>
    obtain ⟨setting, pass, top, below, listeners⟩ := session
    cases below with
    | nil => exact List.prefix_rfl
    | cons next rest => exact ih ⟨setting, pass, next, rest, listeners⟩

theorem after_append (session : Session) (before later : List Operation) :
    session.after (before ++ later) = (session.after before).after later :=
  List.foldl_append

/-- Nor is anything forgotten in a run. -/
theorem after_suppressed (operations : List Operation) (session : Session) :
    session.pass.suppressed <+: (session.after operations).pass.suppressed := by
  induction operations generalizing session with
  | nil => exact List.prefix_rfl
  | cons operation rest ih => exact (run_suppressed operation session).trans (ih _)

/-- Suppression lasts. A variable is suppressed by its name, or when a candidate for a substitute
wins that looks it up. From any pass on in which it is suppressed, also in the midst of rendering,
it is hidden, and elements that show nothing but suppressed variables give nothing. Whatever is
done with a session, the variables that are suppressed in it stay so. -/
theorem suppression_lasts (session : Session) (before later : List Operation) :
    let between := session.after before
    let last := session.after (before ++ later)
    (∀ name, name ∈ (session.after (before ++ [.suppress name])).pass.suppressed) ∧
    (∀ (s : Setting) (depth : Nat) (p : Pass) (losers : List Element) (winner : Element)
      (rest : List Element),
      let left := Element.renderWithin s depth losers p
      let won := Element.renderWithin s depth [winner] left.2.2
      left.1 = [] → won.1 ≠ [] → ∀ fetch ∈ won.2.1, fetch.name ∈
        (Element.substituteWithin s depth (losers ++ winner :: rest) p).2.2.suppressed) ∧
    (∀ p : Pass, (∀ name ∈ p.suppressed, p.Hides name) ∧
      ∀ e : Element, e.ShowsOnly p.suppressed → ∀ s depth,
        (Element.renderWithin s depth [e] p).1 = []) ∧
    (∀ name ∈ between.pass.suppressed, last.pass.Hides name ∧ ∀ kind : LookUp,
      perform (kind.take · name) last =
        (none, last.told (if kind.isTold name then [⟨name, false⟩] else []) last.pass)) ∧
    ∀ e : Element, e.ShowsOnly between.pass.suppressed →
      (render e last).1 = [] ∧ (render e last).2.top = last.top := by
  intro between last
  have grown : between.pass.suppressed <+: last.pass.suppressed := by
    have := after_suppressed later between
    rwa [← after_append] at this
  refine ⟨fun name => ?_, ?_, fun p => ⟨fun name mem => Pass.hides_of_suppressed mem,
    fun e shows s depth => Element.renderWithin_suppressed shows s depth⟩,
    fun name mem => ?_, fun e shows => ?_⟩
  · rw [after_append]
    exact List.mem_append_right _ (List.mem_singleton_self name)
  · intro s depth p losers winner rest left won lost filled fetch told
    have suppressed : (Element.substituteWithin s depth (losers ++ winner :: rest) p).2.2 =
        won.2.2.suppress (Fetch.names won.2.1) := by
      rw [Element.substituteWithin_losers lost]
      exact congrArg (·.2.2) (Element.substituteWithin_winner filled rest)
    rw [suppressed]
    exact List.mem_append_right _ (Fetch.mem_names.mpr ⟨fetch, told, rfl⟩)
  · have hidden := Pass.hides_of_suppressed (grown.mem mem)
    refine ⟨hidden, fun kind => ?_⟩
    rw [perform_apply, hidden.lookUp]
  · have blank : (Element.render last.topSetting e last.pass).1 = [] :=
      Element.renderWithin_suppressed (shows.mono grown.subset) last.topSetting
        last.topSetting.callDepth
    rw [render_eq]
    refine ⟨blank, ?_⟩
    simp only [appended, blank, List.append_nil]
    rfl

/-- The title that stands in for the author of a book without one is not shown again, in another
output either. -/
theorem suppression_lasts_nested :
    let titled : Element := .text ⟨.ofVariable "title" false, {}⟩
    let named : Element := .names ["author"] ⟨{}, none, false, "", {}⟩ [titled]
    let first : List Operation := [.render named]
    let others : List Operation := [.child {}, .lookUp (.text true) "title", .beneath .discard]
    "title" ∈ (nestedSession.after first).pass.suppressed ∧
      (nestedSession.after (first ++ others)).pass.Hides "title" ∧
      (render titled (nestedSession.after (first ++ others))).1 = [] := by
  intro titled named first others
  have now : "title" ∈ (nestedSession.after first).pass.suppressed := by decide +kernel
  obtain ⟨-, -, -, hidden, blank⟩ := suppression_lasts nestedSession first others
  exact ⟨now, (hidden "title" now).1, (blank titled ⟨"title", now, false, rfl⟩).1⟩

end Session

end CiteStyle
