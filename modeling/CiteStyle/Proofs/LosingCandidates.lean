-- What losing candidates leave behind. A candidate without output is rendered like
-- any other, in the pass itself, and nothing of that is undone. Yet of all that it
-- did only three things stay: its look-ups were heard, and it may have suppressed
-- variables and set the last label. Whoever renders later sees no more of it, and
-- most candidates leave the last two alone.
import CiteStyle.Proofs.CaseChanges
import CiteStyle.Proofs.FilledOutput
import CiteStyle.Proofs.ReaderTables
import CiteStyle.Proofs.Substitutes

namespace CiteStyle

open Rendering

/-! ## Passes that go on alike -/

/-- Two passes after which all is rendered alike: what is suppressed and the last label are the
same, and the readers follow one choice. -/
structure Pass.Like (choice : ReaderChoice) (p q : Pass) : Prop where
  suppressed : p.suppressed = q.suppressed
  lastLabel : p.lastLabel = q.lastLabel
  left : p.readers.Follows choice
  right : q.readers.Follows choice

section
variable {choice : ReaderChoice} {s : Setting} (covers : choice.Covers s)
include covers

theorem likeLaw : ElementLaw s (Alike (Pass.Like choice)) :=
  (PassMatch.law {
    suppressed := fun h => h.suppressed
    lastLabel := fun h => h.lastLabel
    label := fun h _ => { h with lastLabel := rfl }
    suppress := fun h names => { h with suppressed := congrArg (· ++ names) h.suppressed }
    readDate := by
      intro text p q h
      obtain ⟨readers, left, read⟩ := covers.readDate h.left text
      obtain ⟨readers', right, read'⟩ := covers.readDate h.right text
      rw [read, read']
      exact ⟨rfl, rfl, { h with left, right }⟩ }).elementLaw

theorem alike_renderCall (depth : Nat) (name : String) :
    Alike (Pass.Like choice) (Element.renderCall s depth name) :=
  (likeLaw covers).renderCall (fun _ => Alike.missCall fun _ _ h => { h with }) depth name

theorem alike_renderWithin (depth : Nat) (elements : List Element) :
    Alike (Pass.Like choice) (Element.renderWithin s depth elements) :=
  (likeLaw covers).map _ ((likeLaw covers).piecesOf elements fun name _ =>
    alike_renderCall covers depth name)

theorem alike_substituteWithin (depth : Nat) (candidates : List Element) :
    Alike (Pass.Like choice) (Element.substituteWithin s depth candidates) :=
  (likeLaw covers).firstFilled candidates fun name _ => alike_renderCall covers depth name

end

/-- The locales that a setting asks differ in their tags, so any table of readers follows a choice
for them. -/
theorem DateReaders.exists_choice (readers : DateReaders) (s : Setting) :
    ∃ choice : ReaderChoice, choice.Covers s ∧ readers.Follows choice := by
  cases found : s.fallback with
  | none =>
    refine ⟨.ofTable readers [] (by simp), fun fallback h => ?_, follows_ofTable readers [] _⟩
    rw [found] at h
    cases h
  | some fallback =>
    have apart : ∀ l ∈ readingLocales s fallback, ∀ l' ∈ readingLocales s fallback,
        l.lang = l'.lang → l = l' := readingLocales_apart s fallback
    refine ⟨.ofTable readers _ apart, fun other h => ?_, follows_ofTable readers _ apart⟩
    obtain rfl : fallback = other := Option.some.inj (found.symm.trans h)
    exact fun l mem => mem

/-! ## Steps that touch neither suppression nor the last label -/

/-- A step suppresses nothing and sets no label. -/
def Untouched (x : Rendering α) : Prop :=
  ∀ p, (x p).2.2.suppressed = p.suppressed ∧ (x p).2.2.lastLabel = p.lastLabel

namespace Untouched

theorem pure (a : α) : Untouched (pure a : Rendering α) := fun _ => ⟨rfl, rfl⟩

theorem bind {x : Rendering α} {f : α → Rendering β} (hx : Untouched x)
    (hf : ∀ a, Untouched (f a)) : Untouched (x >>= f) := by
  intro p
  obtain ⟨suppressed, label⟩ := hx p
  obtain ⟨suppressed', label'⟩ := hf (x p).1 (x p).2.2
  exact ⟨suppressed'.trans suppressed, label'.trans label⟩

theorem law (s : Setting) : LeafLaw s Untouched where
  pure := pure
  bind := bind
  lastLabel hf p := hf _ p
  fetchText short name p := by
    rw [fetchText_apply]
    exact ⟨rfl, rfl⟩
  fetchNames _ _ := ⟨rfl, rfl⟩
  fetchValue _ _ := ⟨rfl, rfl⟩
  renderDate e := by
    unfold DateElement.render
    refine bind (fun p => ?_) fun _ => bind (fun _ => ⟨rfl, rfl⟩) fun _ => pure _
    obtain ⟨readers, after⟩ := Quiet.renderContent s e p
    rw [after]
    exact ⟨rfl, rfl⟩
  takes _ _ := ⟨rfl, rfl⟩

theorem remember {name : String} (other : LabelElement.hasOwnLabels name = false)
    (l : LabelElement) (place : Nat) : Untouched (l.remember name place) := by
  unfold LabelElement.remember
  rw [other, Bool.and_false]
  exact pure ()

end Untouched

/-! ## Decorations that take nothing away -/

/-- No text becomes empty when its case is changed. -/
theorem Buffer.changeCase_ne_nil {b : Buffer} (filled : b.NoEmptyText) (some : b ≠ [])
    (locale : Locale) (textCase : TextCase) : b.changeCase locale textCase ≠ [] := by
  obtain ⟨t, rest, rfl⟩ := List.exists_cons_of_ne_nil some
  have kept : (t.mapText (textCase.apply (locale.language == "en"))).isEmptyText = false := by
    have text := filled t List.mem_cons_self
    cases t with
    | text kind s formatting =>
      have nonempty : s ≠ "" := by simpa [Token.isEmptyText] using text
      simpa [Token.mapText, Token.isEmptyText] using textCase.apply_ne_empty _ nonempty
    | displayStart d | displayEnd d => rfl
  unfold changeCase mapText
  rw [List.map_cons, List.filter_cons_of_pos (by simpa using kept)]
  exact List.cons_ne_nil _ _

theorem Buffer.between_ne_nil {b : Buffer} (some : b ≠ []) (first last : TokenKind)
    (s t : String) : (b.prependText first s).appendText last t ≠ [] := by
  simp [appendText, prependText, some]

theorem Decoration.applyStage_ne_nil {locale : Locale} {d : Decoration}
    (kept : d.stripPeriods = false) {b : Buffer} (filled : b.NoEmptyText) (some : b ≠ [])
    (stage : Stage) : d.applyStage locale b stage ≠ [] := by
  have present : ¬b.isEmpty = true := by simpa using some
  cases stage with
  | formatting => exact (List.map_eq_nil_iff.not).mpr some
  | stripPeriods =>
    show (if d.stripPeriods then _ else _) ≠ []
    rwa [if_neg (by simp [kept])]
  | textCase =>
    show applyTo (Buffer.changeCase locale) d.textCase b ≠ []
    unfold applyTo
    split
    · exact Buffer.changeCase_ne_nil filled some locale _
    · exact some
  | quotes =>
    show (if d.quotes then b.quoted locale else b) ≠ []
    split
    · unfold Buffer.quoted
      rw [if_neg present]
      exact Buffer.between_ne_nil some _ _ _ _
    · exact some
  | affixes =>
    show d.affixes.apply b ≠ []
    unfold Affixes.apply
    rw [if_neg present]
    exact Buffer.between_ne_nil some _ _ _ _
  | display =>
    show applyTo Display.frame d.display b ≠ []
    unfold applyTo Display.frame
    split
    · rw [if_neg present]
      exact List.cons_ne_nil _ _
    · exact some

/-- Unless it strips periods, a decoration leaves something of what is there. -/
theorem Decoration.eq_nil_of_apply {locale : Locale} {d : Decoration}
    (kept : d.stripPeriods = false) {b : Buffer} (filled : b.NoEmptyText)
    (blank : d.apply locale b = []) : b = [] := by
  by_contra some
  have still : (d.apply locale b).NoEmptyText ∧ d.apply locale b ≠ [] :=
    d.apply_keeps (P := fun b => b.NoEmptyText ∧ b ≠ [])
      (fun stage _ h => ⟨h.1.applyStage locale d stage, applyStage_ne_nil kept h.1 h.2 stage⟩)
      ⟨filled, some⟩
  exact still.2 blank

/-! ## Candidates without a trace -/

namespace Element

/-- An element sets no label that is repeated, and suppresses nothing unless it gives output.
`covered` says that output may be taken away again around the element, so that it must not suppress
anything at all. -/
inductive Traceless (macros : Macros) : Bool → Element → Prop
  | text {covered : Bool} {e : TextElement} (leaf : ∀ name, e.source ≠ .call name) :
    Traceless macros covered (.text e)
  | call {covered : Bool} {name : String} {d : Decoration}
    (children : ∀ children, macros.lookup name = some children → ∀ e ∈ children,
      Traceless macros (covered || d.stripPeriods) e) :
    Traceless macros covered (.text ⟨.call name, d⟩)
  | number {covered : Bool} {e : NumberElement} : Traceless macros covered (.number e)
  | date {covered : Bool} {e : DateElement} : Traceless macros covered (.date e)
  | label {covered : Bool} {e : LabelElement}
    (other : ∀ name, e.subject = some name → LabelElement.hasOwnLabels name = false) :
    Traceless macros covered (.label e)
  | names {covered : Bool} {subjects : List String} {format : NamesFormat}
    {substitute : List Element}
    (other : ∀ l, format.label = some l → ∀ name ∈ subjects,
      LabelElement.hasOwnLabels name = false)
    (alone : covered → substitute = [])
    (candidates : ∀ e ∈ substitute, Traceless macros false e) :
    Traceless macros covered (.names subjects format substitute)
  | group {covered : Bool} {delimiter : String} {d : Decoration} {children : List Element}
    (items : ∀ e ∈ children, Traceless macros true e) :
    Traceless macros covered (.group delimiter d children)
  | choose {covered : Bool} {branches : List Branch}
    (items : ∀ condition children, .mk condition children ∈ branches → ∀ e ∈ children,
      Traceless macros covered e) :
    Traceless macros covered (.choose branches)

/-- A step sets no label, and suppresses nothing unless it gives output that is not covered. -/
def Leaves (covered : Bool) (x : Rendering (List Buffer)) : Prop :=
  ∀ p, (x p).2.2.lastLabel = p.lastLabel ∧
    (covered ∨ (x p).1.flatten = [] → (x p).2.2.suppressed = p.suppressed)

variable {s : Setting} {covered : Bool} {call : String → Rendering Buffer}

theorem Leaves.of_untouched {x : Rendering (List Buffer)} (h : Untouched x) : Leaves covered x :=
  fun p => ⟨(h p).2, fun _ => (h p).1⟩

theorem leaves_piecesOf {es : List Element} (each : ∀ e ∈ es, Leaves covered (e.pieces call s)) :
    Leaves covered (piecesOf call s es) := by
  induction es with
  | nil => exact .of_untouched (.pure [])
  | cons e rest ih =>
    intro p
    obtain ⟨label, suppressed⟩ := each e List.mem_cons_self p
    obtain ⟨label', suppressed'⟩ := ih (fun e mem => each e (List.mem_cons_of_mem _ mem))
      (e.pieces call s p).2.2
    simp only [piecesOf, bind_apply, pure_apply, List.flatten_append, List.append_eq_nil_iff]
    refine ⟨label'.trans label, fun blank => ?_⟩
    exact (suppressed' (blank.imp id (·.2))).trans (suppressed (blank.imp id (·.1)))

theorem leaves_branchPieces {bs : List Branch}
    (each : ∀ condition children, .mk condition children ∈ bs → ∀ e ∈ children,
      Leaves covered (e.pieces call s)) : Leaves covered (branchPieces call s bs) := by
  induction bs with
  | nil => exact .of_untouched (.pure [])
  | cons b rest ih =>
    obtain ⟨condition, children⟩ := b
    have first := leaves_piecesOf (each condition children List.mem_cons_self)
    have others := ih fun c es mem => each c es (List.mem_cons_of_mem _ mem)
    intro p
    have taken : takes s condition p = (condition.all (·.holds s p.suppressed), [], p) := rfl
    simp only [branchPieces, bind_apply, taken]
    cases condition.all (·.holds s p.suppressed)
    · exact others p
    · exact first p

/-- A candidate that loses leaves nothing; the names of the winner may be suppressed. -/
theorem leaves_firstFilled {es : List Element} (each : ∀ e ∈ es, Leaves false (e.pieces call s)) :
    Leaves false ((fun b => [b]) <$> firstFilled call s es) := by
  induction es with
  | nil => exact .of_untouched (.pure [[]])
  | cons e rest ih =>
    intro p
    obtain ⟨label, suppressed⟩ := each e List.mem_cons_self p
    obtain ⟨label', suppressed'⟩ := ih (fun e mem => each e (List.mem_cons_of_mem _ mem))
      (e.pieces call s p).2.2
    rw [map_apply] at label' suppressed' ⊢
    rw [firstFilled_cons]
    rcases h : e.pieces call s p with ⟨items, fetches, left⟩
    rw [h] at label suppressed label' suppressed'
    by_cases blank : items.flatten = []
    · simp only [blank, List.isEmpty_nil, if_true]
      exact ⟨label'.trans label, fun h => (suppressed' h).trans (suppressed (.inr blank))⟩
    · have filled : ¬items.flatten.isEmpty = true := by simpa using blank
      simp only [if_neg filled]
      exact ⟨label, fun h => absurd h (by simpa using blank)⟩

theorem leaves_renderCall (depth : Nat) {name : String}
    (each : ∀ children, s.macros.lookup name = some children → ∀ e ∈ children,
      ∀ depth, Leaves covered (e.pieces (renderCall s depth) s)) :
    Leaves covered ((fun b => [b]) <$> renderCall s depth name) := by
  have missed : Leaves covered ((fun b => [b]) <$> missCall name) :=
    .of_untouched fun _ => ⟨rfl, rfl⟩
  cases depth with
  | zero => exact missed
  | succ depth =>
    rw [renderCall]
    cases found : s.macros.lookup name with
    | none => exact missed
    | some children =>
      intro p
      have inside := leaves_piecesOf (fun e mem => each children found e mem depth) p
      simpa only [map_apply, List.flatten_singleton] using inside

theorem leaves_call {depth : Nat} {name : String} {d : Decoration}
    (inside : Leaves (covered || d.stripPeriods) ((fun b => [b]) <$> renderCall s depth name)) :
    Leaves covered (pieces (renderCall s depth) s (.text ⟨.call name, d⟩)) := by
  intro p
  obtain ⟨label, suppressed⟩ := inside p
  simp only [map_apply, List.flatten_singleton] at label suppressed
  simp only [pieces, TextElement.render, TextElement.renderSource, bind_apply, map_apply,
    pure_apply, List.flatten_singleton]
  refine ⟨label, fun h => suppressed ?_⟩
  rcases h with covered | blank
  · exact .inl (by simp [covered])
  · -- Only a decoration that strips periods can have emptied what the macro gives.
    by_cases strips : d.stripPeriods = true
    · exact .inl (by simp [strips])
    · have filled := Buffer.noEmptyText_law.gives_renderCall (s := s) (fun _ _ _ _ => trivial)
        depth name p
      exact .inr (Decoration.eq_nil_of_apply (by simpa using strips) filled blank)

theorem leaves_names {subjects : List String} {format : NamesFormat} {substitute : List Element}
    (other : ∀ l, format.label = some l → ∀ name ∈ subjects,
      LabelElement.hasOwnLabels name = false)
    (others : Leaves covered ((fun b => [b]) <$> firstFilled call s substitute)) :
    Leaves covered (pieces call s (.names subjects format substitute)) := by
  intro p
  have own := (Untouched.law s).renderNames format
    (fun l h name mem => .remember (other l h name mem) l 0) p
  rw [pieces, bind_apply]
  rcases found : format.render s subjects p with ⟨content, fetches, left⟩
  rw [found] at own
  by_cases blank : content.isEmpty
  · simp only [if_pos blank]
    obtain ⟨label, suppressed⟩ := others left
    simp only [map_apply] at label suppressed
    exact ⟨label.trans own.2, fun h => (suppressed h).trans own.1⟩
  · simp only [if_neg blank]
    exact ⟨own.2, fun _ => own.1⟩

/-- What a traceless element leaves, by what its parts leave, however deep macros call each
other. -/
theorem Traceless.leaves {e : Element} (h : Traceless s.macros covered e) (depth : Nat) :
    Leaves covered (e.pieces (renderCall s depth) s) := by
  have law := Untouched.law s
  induction h generalizing depth with
  | text leaf =>
    rw [pieces]
    exact .of_untouched (.bind (law.renderText _ fun name h => absurd h (leaf name))
      fun _ => .pure _)
  | number =>
    rw [pieces]
    exact .of_untouched (.bind (law.renderNumber _) fun _ => .pure _)
  | date =>
    rw [pieces]
    exact .of_untouched (.bind (law.renderDate _) fun _ => .pure _)
  | label other =>
    rw [pieces]
    exact .of_untouched (.bind (law.renderLabel fun name h => .remember (other name h) _ 0)
      fun _ => .pure _)
  | call children ih =>
    exact leaves_call (leaves_renderCall depth ih)
  | @names covered subjects format substitute other alone candidates ih =>
    refine leaves_names other ?_
    cases covered with
    | false => exact leaves_firstFilled fun e mem => ih e mem depth
    | true =>
      rw [alone rfl]
      exact .of_untouched (.pure [[]])
  | group items ih =>
    rw [pieces]
    refine .of_untouched (.bind (fun p => ?_) fun _ => .pure _)
    obtain ⟨label, suppressed⟩ := leaves_piecesOf (fun e mem => ih e mem depth) p
    exact ⟨suppressed (.inl rfl), label⟩
  | choose items ih =>
    rw [pieces]
    exact leaves_branchPieces fun c es mem e inside => ih c es mem e inside depth

/-- Candidates that lose without a trace leave what is suppressed and the last label alone. -/
theorem Traceless.lost {depth : Nat} {losers : List Element} {p : Pass}
    (traceless : ∀ e ∈ losers, Traceless s.macros false e)
    (lost : (renderWithin s depth losers p).1 = []) :
    (renderWithin s depth losers p).2.2.suppressed = p.suppressed ∧
      (renderWithin s depth losers p).2.2.lastLabel = p.lastLabel := by
  obtain ⟨label, suppressed⟩ := leaves_piecesOf (fun e mem => (traceless e mem).leaves depth) p
  unfold renderWithin at lost ⊢
  rw [map_apply] at lost ⊢
  exact ⟨suppressed (.inr lost), label⟩

end Element

/-! ## All that is rendered later -/

/-- From two passes on all is rendered alike in the contexts of one scope, which differ in the
options of their names. -/
structure Pass.SameFrom (s : Setting) (p q : Pass) : Prop where
  suppressed : p.suppressed = q.suppressed
  lastLabel : p.lastLabel = q.lastLabel
  later : ∀ (options : NameOptions) (depth : Nat) (elements : List Element),
    let render := Element.renderWithin { s with nameOptions := options } depth elements
    (render p).1 = (render q).1 ∧ (render p).2.1 = (render q).2.1 ∧
      (render p).2.2.suppressed = (render q).2.2.suppressed

theorem Pass.Like.sameFrom {choice : ReaderChoice} {s : Setting} (covers : choice.Covers s)
    {p q : Pass} (like : p.Like choice q) : p.SameFrom s q where
  suppressed := like.suppressed
  lastLabel := like.lastLabel
  later options depth elements := by
    have covers' : choice.Covers { s with nameOptions := options } := covers
    obtain ⟨output, told, after⟩ := alike_renderWithin covers' depth elements p q like
    exact ⟨output, told, after.suppressed⟩

/-- What losing candidates leave behind. They are rendered in the pass, their look-ups are heard,
and the other candidates go on from where they leave it. If they suppressed nothing and left the
last label alone, as candidates do that are traceless, then nothing else is different from a
substitute that does not list them: not its output, nor what is suppressed, nor anything that is
rendered later. -/
theorem Element.losers_sameFrom {s : Setting} {depth : Nat} {losers : List Element} {p : Pass}
    (lost : (renderWithin s depth losers p).1 = []) (rest : List Element) :
    let left := renderWithin s depth losers p
    let found := substituteWithin s depth rest left.2.2
    let listed := substituteWithin s depth (losers ++ rest) p
    let alone := substituteWithin s depth rest p
    listed = (found.1, left.2.1 ++ found.2.1, found.2.2) ∧
      p.suppressed <+: left.2.2.suppressed ∧
      ((∀ e ∈ losers, e.Traceless s.macros false) →
        left.2.2.suppressed = p.suppressed ∧ left.2.2.lastLabel = p.lastLabel) ∧
      (left.2.2.suppressed = p.suppressed → left.2.2.lastLabel = p.lastLabel →
        listed.1 = alone.1 ∧ listed.2.1 = left.2.1 ++ alone.2.1 ∧
          listed.2.2.SameFrom s alone.2.2) := by
  intro left found listed alone
  have heard : listed = (found.1, left.2.1 ++ found.2.1, found.2.2) :=
    substituteWithin_losers lost rest
  refine ⟨heard, ?_, fun traceless => Traceless.lost traceless lost, fun suppressed label => ?_⟩
  · exact step_suppressed.keeps_renderWithin (fun _ _ => List.prefix_rfl) s depth losers p
  · obtain ⟨choice, covers, follows⟩ := p.readers.exists_choice s
    -- The readers that the losers looked up are those that anyone would be given.
    have still : DateReaders.Follows left.2.2.readers choice :=
      (alike_renderWithin covers depth losers p p ⟨rfl, rfl, follows, follows⟩).2.2.left
    obtain ⟨output, told, after⟩ := alike_substituteWithin covers depth rest left.2.2 p
      ⟨suppressed, label, still, follows⟩
    rw [heard]
    exact ⟨output, congrArg (left.2.1 ++ ·) told, after.sameFrom covers⟩

/-! ## Candidates in a setting -/

namespace Element

/-- The text of a title. -/
def titleText (d : Decoration) : Element := .text ⟨.ofVariable "title" false, d⟩

/-- Names of a variable, in whose place other elements may stand. -/
def namesOr (subject : String) (substitute : List Element) : Element :=
  .names [subject] ⟨{}, none, false, "", {}⟩ substitute

/-- A work with a title, and a macro for its editors in whose place the title may stand. -/
def titledSetting (title : String) : Setting where
  record := { texts := [("title", title)] }
  locale := Locale.english
  cite := { locator := some "p. 3, vol. 4" }
  macros := [("editors", [namesOr "editor" [titleText {}]])]

theorem losers_sameFrom_untitled :
    let s := titledSetting ""
    let losers : List Element := [.text ⟨.call "editors", {}⟩, titleText { stripPeriods := true }]
    let rest : List Element := [.text ⟨.value "Anonymous", {}⟩]
    (renderWithin s 1 losers {}).1 = [] ∧ (∀ e ∈ losers, e.Traceless s.macros false) ∧
      (substituteWithin s 1 (losers ++ rest) {}).1 = [.ofText .plain "Anonymous"] := by
  intro s losers rest
  have lost : (renderWithin s 1 losers {}).1 = [] := by decide +kernel
  have title (d : Decoration) : Traceless s.macros false (titleText d) :=
    .text fun name => TextSource.noConfusion
  have traceless : ∀ e ∈ losers, e.Traceless s.macros false := by
    intro e mem
    rcases List.mem_cons.mp mem with rfl | mem
    · refine .call fun children found e mem => ?_
      obtain rfl : [namesOr "editor" [titleText {}]] = children := Option.some.inj found
      obtain rfl := List.mem_singleton.mp mem
      refine .names (fun l none => nomatch none) (fun covered => nomatch covered) fun e mem => ?_
      obtain rfl := List.mem_singleton.mp mem
      exact title {}
    · obtain rfl := List.mem_singleton.mp mem
      exact title _
  obtain ⟨-, -, keeps, same⟩ := losers_sameFrom lost rest
  obtain ⟨suppressed, label⟩ := keeps traceless
  exact ⟨lost, traceless, (same suppressed label).1.trans (by decide +kernel)⟩

/-- Three losing candidates that leave a trace. The title stands in for the editors in the first, but
is emptied there, and the next candidate does not find it anymore. The second sets the label that is
repeated in the locator later. The third finds a title and shows nothing of it, but the group around
the names hears of it. -/
theorem losers_leave_traces :
    let s := titledSetting "."
    let stripped : Decoration := { stripPeriods := true }
    let locator : List Element := [.text ⟨.ofVariable "locator" false, {}⟩]
    let labelled : Pass := { lastLabel := some ⟨some "locator", .long, .contextual, {}⟩ }
    let value : Element := .text ⟨.value "x", {}⟩
    let emptied : List Element := [.text ⟨.call "editors", stripped⟩]
    let relabels : List Element := [.label ⟨some "number", .long, .contextual, {}⟩]
    let grouped (candidates : List Element) : List Element :=
      [.group "" {} [namesOr "author" candidates]]
    ((renderWithin s 1 emptied {}).1 = [] ∧
      (substituteWithin s 1 (emptied ++ [titleText {}]) {}).1 = [] ∧
      (substituteWithin s 1 [titleText {}] {}).1 = [.ofText .plain "."]) ∧
    ((renderWithin s 1 relabels labelled).1 = [] ∧
      (renderWithin s 1 locator (substituteWithin s 1 (relabels ++ [value]) labelled).2.2).1 =
        [.ofText .plain "3, ", .ofText .plain "4"] ∧
      (renderWithin s 1 locator (substituteWithin s 1 [value] labelled).2.2).1 =
        [.ofText .plain "3, ", .ofText .plain "volume", .ofText .plain "4"]) ∧
    ((renderWithin s 1 [titleText stripped] {}).1 = [] ∧
      (renderWithin s 1 (grouped [titleText stripped, value]) {}).1 = [.ofText .plain "x"] ∧
      (renderWithin s 1 (grouped [value]) {}).1 = []) := by
  decide +kernel

end Element

end CiteStyle
