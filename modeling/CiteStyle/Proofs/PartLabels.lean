-- The labels in front of the parts of a locator or of a number. A label stands in front of the
-- first part only, but it is remembered, and the text repeats it in front of every other part. All
-- parts but the first have labels of their own, so each place is named by what stands there.
import CiteStyle.Proofs.LabelSequences
import CiteStyle.Proofs.NameLabels

namespace CiteStyle

open Rendering

/-! ## Labels of parts -/

namespace LabelElement

variable (l : LabelElement) (s : Setting) (name : String)

/-- The term for a part: its own label. Without one, a locator is what the cite says, or else a
page, and a number is a number. -/
def termFor (part : Locator.Part) : String :=
  part.label.getD (if name = "locator" then s.cite.label.getD "page" else name)

/-- What a label shows in front of a part: the term for the part in the number of the part; nothing
if the locale does not have it. -/
def inFrontOf (part : Locator.Part) : Buffer :=
  match s.locale.term? (termFor s name part) l.form part.plural with
  | some text => l.decoration.apply s.locale (Buffer.ofText .plain text)
  | none => []

/-- The label of the first part is remembered. -/
theorem renderFor_first (own : hasOwnLabels name) (p : Pass) :
    ∃ fetches, l.renderFor s name 0 p =
      (l.shown s name 0 p.suppressed, fetches, { p with lastLabel := some l }) := by
  unfold renderFor remember
  rw [own]
  exact ⟨_, rfl⟩

/-- The label of another part is not. -/
theorem renderFor_later {place : Nat} (later : 0 < place) (p : Pass) :
    ∃ fetches, l.renderFor s name place p = (l.shown s name place p.suppressed, fetches, p) := by
  unfold renderFor remember
  rw [if_neg (by simp [Nat.ne_of_gt later])]
  exact ⟨_, rfl⟩

variable {l s name} {text : String} {suppressed : List String} {place : Nat} {part : Locator.Part}

/-- A label shows the term for the part at its place, which only in the first place may be without
a label. -/
theorem shown_inFrontOf (own : hasOwnLabels name) (contextual : l.plural = .contextual)
    (found : s.value? suppressed name = some (.text text))
    (there : (Locator.parts text)[place]? = some part)
    (named : place = 0 ∨ part.label.isSome) :
    l.shown s name place suppressed = l.inFrontOf s name part := by
  have term : partTerm s name place part = termFor s name part := by
    unfold partTerm termFor
    rcases named with rfl | named
    · simp
    · obtain ⟨label, known⟩ := Option.isSome_iff_exists.mp named
      simp [known]
  have shownText : l.text s name place suppressed =
      (s.locale.term? (termFor s name part) l.form part.plural).getD "" := by
    simp [LabelElement.text, found, termText?, termOf?, own, there, term, isPlural, contextual]
  unfold shown inFrontOf
  rw [shownText]
  split
  · rename_i text known
    rw [known, Option.getD_some]
  · rename_i unknown
    rw [unknown]
    exact Decoration.apply_nil s.locale l.decoration

end LabelElement

/-! ## Texts of parts -/

namespace TextElement

variable {l : LabelElement} {s : Setting} {name text : String} {p : Pass}

/-- A part as it is written behind the label that is repeated in front of it. -/
def labelled (l : LabelElement) (s : Setting) (name : String) (part : Locator.Part) : Buffer :=
  l.inFrontOf s name part ++ Buffer.ofText .plain part.text

/-- Every part from a later place on repeats the label that is remembered. -/
theorem renderParts_later (own : LabelElement.hasOwnLabels name) (subject : l.subject = some name)
    (contextual : l.plural = .contextual) (last : p.lastLabel = some l)
    (found : s.value? p.suppressed name = some (.text text)) (place : Nat) (later : 0 < place)
    {rest : List Locator.Part} (left : (Locator.parts text).drop place = rest)
    (named : ∀ part ∈ rest, part.label.isSome) :
    (renderParts s place rest p).1 = rest.flatMap (labelled l s name) := by
  induction rest generalizing place with
  | nil => rfl
  | cons part rest ih =>
    rw [List.forall_mem_cons] at named
    have there : (Locator.parts text)[place]? = some part := by
      rw [← List.head?_drop, left, List.head?_cons]
    have others : (Locator.parts text).drop (place + 1) = rest := by
      rw [← List.tail_drop, left, List.tail_cons]
    obtain ⟨fetches, label⟩ := l.renderFor_later s name later p
    have repeated : renderPartLabel s place part p = (l.inFrontOf s name part, fetches, p) := by
      rw [renderPartLabel_eq, bind_apply]
      simp only [remembered, repeatedLabel, last, Option.elim_some, later, named.1, decide_true,
        Bool.and_self, if_true, LabelElement.render, subject, label, List.nil_append]
      rw [LabelElement.shown_inFrontOf own contextual found there (.inr named.1)]
    rw [renderParts, bind_apply, repeated]
    simp only [bind_apply, pure_apply, ih (place + 1) (Nat.succ_pos place) others named.2,
      List.flatMap_cons, labelled]

/-- A short form of a locator or of a number is not looked for. -/
theorem text?_short (own : LabelElement.hasOwnLabels name) (suppressed : List String)
    (short : Bool) : s.text? suppressed short name = s.text? suppressed false name := by
  have whole : Setting.shortened.contains name = false := by
    rcases (by simpa [LabelElement.hasOwnLabels] using own) with rfl | rfl <;> decide
  simp only [Setting.text?, Setting.recordText?, whole, Bool.and_false]

theorem value?_of_text? {suppressed : List String}
    (found : s.text? suppressed false name = some text) :
    s.value? suppressed name = some (.text text) := by
  simp [Setting.value?, found]

/-- The text of a locator or of a number: its first part, and then every other part behind the
label that is remembered. -/
theorem render_labelled {call : String → Rendering Buffer} {e : TextElement} {short : Bool}
    {first : Locator.Part} {rest : List Locator.Part}
    (own : LabelElement.hasOwnLabels name) (subject : l.subject = some name)
    (contextual : l.plural = .contextual) (source : e.source = .ofVariable name short)
    (last : p.lastLabel = some l) (found : s.text? p.suppressed false name = some text)
    (read : Locator.parts text = first :: rest) (named : ∀ part ∈ rest, part.label.isSome) :
    (e.render call s p).1 = e.decoration.apply s.locale
      (Buffer.ofText .plain first.text ++ rest.flatMap (labelled l s name)) := by
  have bare : renderPartLabel s 0 first p = ([], [], p) := by
    rw [renderPartLabel_eq, bind_apply]
    simp only [remembered, repeatedLabel, last, Option.elim_some, Nat.lt_irrefl, decide_false,
      Bool.false_and, Bool.false_eq_true, if_false, pure_apply, List.nil_append]
  have others := renderParts_later own subject contextual last (value?_of_text? found) 1
    Nat.one_pos (by rw [read]; rfl) named
  have written : (renderVariable s name text p).1 =
      Buffer.ofText .plain first.text ++ rest.flatMap (labelled l s name) := by
    have parts : renderVariable s name text = renderParts s 0 (Locator.parts text) := by
      rcases (by simpa [LabelElement.hasOwnLabels] using own) with rfl | rfl <;> rfl
    rw [parts, read, renderParts, bind_apply, bare]
    simp only [bind_apply, pure_apply, others, List.nil_append]
  rw [TextElement.render, map_apply, source, renderSource, bind_apply, fetchText_apply]
  simp only [text?_short own, found, written]

end TextElement

/-! ## Elements that leave the label alone -/

/-- A step sets no label. -/
def KeepsLabel (x : Rendering α) : Prop := ∀ p, (x p).2.2.lastLabel = p.lastLabel

namespace KeepsLabel

theorem pure (a : α) : KeepsLabel (pure a : Rendering α) := fun _ => rfl

theorem bind {x : Rendering α} {f : α → Rendering β} (hx : KeepsLabel x)
    (hf : ∀ a, KeepsLabel (f a)) : KeepsLabel (x >>= f) := fun p =>
  (hf (x p).1 (x p).2.2).trans (hx p)

theorem map {x : Rendering α} (f : α → β) (hx : KeepsLabel x) : KeepsLabel (f <$> x) := by
  rw [map_eq_pure_bind]
  exact hx.bind fun a => .pure (f a)

theorem of_untouched {x : Rendering α} (h : Untouched x) : KeepsLabel x := fun p => (h p).2

end KeepsLabel

namespace Element

/-- No label of a number or of a locator is in an element, in the macros that it calls, or in what
may stand in the place of its names. -/
inductive SetsNoLabel (macros : Macros) : Element → Prop
  | text {e : TextElement} (leaf : ∀ name, e.source ≠ .call name) : SetsNoLabel macros (.text e)
  | call {name : String} {d : Decoration}
    (children : ∀ children, macros.lookup name = some children → ∀ e ∈ children,
      SetsNoLabel macros e) :
    SetsNoLabel macros (.text ⟨.call name, d⟩)
  | number {e : NumberElement} : SetsNoLabel macros (.number e)
  | date {e : DateElement} : SetsNoLabel macros (.date e)
  | label {e : LabelElement}
    (other : ∀ name, e.subject = some name → LabelElement.hasOwnLabels name = false) :
    SetsNoLabel macros (.label e)
  | names {subjects : List String} {format : NamesFormat} {substitute : List Element}
    (other : ∀ l, format.label = some l → ∀ name ∈ subjects,
      LabelElement.hasOwnLabels name = false)
    (candidates : ∀ e ∈ substitute, SetsNoLabel macros e) :
    SetsNoLabel macros (.names subjects format substitute)
  | group {delimiter : String} {d : Decoration} {children : List Element}
    (items : ∀ e ∈ children, SetsNoLabel macros e) :
    SetsNoLabel macros (.group delimiter d children)
  | choose {branches : List Branch}
    (items : ∀ condition children, .mk condition children ∈ branches → ∀ e ∈ children,
      SetsNoLabel macros e) :
    SetsNoLabel macros (.choose branches)

variable {s : Setting} {call : String → Rendering Buffer}

theorem keepsLabel_piecesOf {es : List Element} (each : ∀ e ∈ es, KeepsLabel (e.pieces call s)) :
    KeepsLabel (piecesOf call s es) := by
  induction es with
  | nil => exact .pure []
  | cons e rest ih =>
    rw [List.forall_mem_cons] at each
    rw [piecesOf]
    exact each.1.bind fun _ => (ih each.2).bind fun _ => .pure _

theorem keepsLabel_branchPieces {bs : List Branch}
    (each : ∀ condition children, .mk condition children ∈ bs → ∀ e ∈ children,
      KeepsLabel (e.pieces call s)) : KeepsLabel (branchPieces call s bs) := by
  induction bs with
  | nil => exact .pure []
  | cons b rest ih =>
    obtain ⟨condition, children⟩ := b
    have taken : KeepsLabel (takes s condition) := fun _ => rfl
    rw [branchPieces]
    refine taken.bind fun taken => ?_
    split
    · exact keepsLabel_piecesOf (each condition children List.mem_cons_self)
    · exact ih fun c es mem => each c es (List.mem_cons_of_mem _ mem)

theorem keepsLabel_firstFilled {es : List Element}
    (each : ∀ e ∈ es, KeepsLabel (e.pieces call s)) : KeepsLabel (firstFilled call s es) := by
  induction es with
  | nil => exact .pure []
  | cons e rest ih =>
    rw [List.forall_mem_cons] at each
    have heard : KeepsLabel (listening (e.pieces call s)) := each.1
    rw [firstFilled]
    refine heard.bind fun told => ?_
    obtain ⟨items, fetches⟩ := told
    dsimp only
    split
    · exact ih each.2
    · exact .bind (fun _ => rfl) fun _ => .pure _

theorem keepsLabel_renderCall (depth : Nat) {name : String}
    (each : ∀ children, s.macros.lookup name = some children → ∀ e ∈ children,
      ∀ depth, KeepsLabel (e.pieces (renderCall s depth) s)) :
    KeepsLabel (renderCall s depth name) := by
  have missed : KeepsLabel (missCall name) := fun _ => rfl
  cases depth with
  | zero => exact missed
  | succ depth =>
    rw [renderCall]
    split
    · exact .map _ (keepsLabel_piecesOf fun e mem => each _ ‹_› e mem depth)
    · exact missed

/-- Whatever else is rendered, the label that is remembered stays. -/
theorem SetsNoLabel.keepsLabel {e : Element} (h : SetsNoLabel s.macros e) (depth : Nat) :
    KeepsLabel (e.pieces (renderCall s depth) s) := by
  have law := Untouched.law s
  induction h generalizing depth with
  | text leaf =>
    rw [pieces]
    exact .of_untouched (.bind (law.renderText _ fun name h => absurd h (leaf name))
      fun _ => .pure _)
  | number =>
    rw [pieces]
    exact .of_untouched (.bind (law.renderNumber _) fun _ => .pure _)
  | date =>
    rw [pieces]
    exact .of_untouched (.bind (law.renderDate _) fun _ => .pure _)
  | label other =>
    rw [pieces]
    exact .of_untouched (.bind (law.renderLabel fun name h => .remember (other name h) _ 0)
      fun _ => .pure _)
  | call children ih =>
    rw [pieces]
    exact .bind (.map _ (keepsLabel_renderCall depth ih)) fun _ => .pure _
  | @names subjects format substitute other candidates ih =>
    have own := law.renderNames format fun l h name mem => Untouched.remember (other l h name mem) l 0
    rw [pieces]
    refine .bind (.of_untouched own) fun content => ?_
    split
    · exact .bind (keepsLabel_firstFilled fun e mem => ih e mem depth) fun _ => .pure _
    · exact .pure _
  | group items ih =>
    have inside := keepsLabel_piecesOf fun e mem => ih e mem depth
    have heard : KeepsLabel (listening _) := inside
    rw [pieces]
    exact .bind heard fun _ => .pure _
  | choose items ih =>
    rw [pieces]
    exact keepsLabel_branchPieces fun c es mem e inside => ih c es mem e inside depth

theorem keepsLabel_renderWithin {es : List Element} (each : ∀ e ∈ es, SetsNoLabel s.macros e)
    (depth : Nat) : KeepsLabel (renderWithin s depth es) :=
  .map _ (keepsLabel_piecesOf fun e mem => (each e mem).keepsLabel depth)

/-! ## A label and a text -/

section
variable (depth : Nat) {l : LabelElement} {e : TextElement} {name : String} {short : Bool}
  {text : String} {p : Pass}

theorem renderWithin_label {first : Locator.Part} {rest : List Locator.Part}
    (own : LabelElement.hasOwnLabels name) (subject : l.subject = some name)
    (contextual : l.plural = .contextual) (found : s.text? p.suppressed false name = some text)
    (read : Locator.parts text = first :: rest) :
    ∃ fetches, renderWithin s depth [.label l] p =
      (l.inFrontOf s name first, fetches, { p with lastLabel := some l }) := by
  obtain ⟨fetches, label⟩ := l.renderFor_first s name own p
  have there : (Locator.parts text)[0]? = some first := by rw [read]; rfl
  rw [LabelElement.shown_inFrontOf own contextual (TextElement.value?_of_text? found) there
    (.inl rfl)] at label
  refine ⟨fetches, ?_⟩
  rw [renderWithin_single, pieces, map_apply, bind_apply]
  simp only [LabelElement.render, subject, label, pure_apply, List.flatten_singleton,
    List.append_nil]

theorem renderWithin_text (s : Setting) (e : TextElement) (p : Pass) :
    (renderWithin s depth [.text e] p).1 = (e.render (renderCall s depth) s p).1 := by
  rw [renderWithin_single, pieces, map_apply, bind_apply]
  simp only [pure_apply, List.flatten_singleton]

/-- A variable that is not suppressed has its text whatever else is suppressed. -/
theorem text?_of_present {suppressed suppressed' : List String}
    (found : s.text? suppressed false name = some text) (present : name ∉ suppressed') :
    s.text? suppressed' false name = some text := by
  unfold Setting.text? at *
  split at found
  · contradiction
  · rwa [if_neg (by simpa using present)]

/-- A label of a locator or of a number stands in front of the first part, and the text of the
variable repeats it in front of every other part. Every time it is the term for that part, in the
number of that part, or nothing if the locale does not have the term. Something may be rendered in
between, as long as the variable is not suppressed and the label is still the last one, which it is
if there is no other label of a locator or of a number. -/
theorem renderWithin_partLabels (which : name = "locator" ∨ name = "number")
    (subject : l.subject = some name) (contextual : l.plural = .contextual)
    (source : e.source = .ofVariable name short)
    (found : s.text? p.suppressed false name = some text) :
    let labelled (part : Locator.Part) :=
      l.inFrontOf s name part ++ Buffer.ofText .plain part.text
    (e.decoration = {} →
      (renderWithin s depth [.label l, .text e] p).1 = (Locator.parts text).flatMap labelled) ∧
    ∀ between : List Element,
      let left := renderWithin s depth between { p with lastLabel := some l }
      ((∀ other ∈ between, other.SetsNoLabel s.macros) → left.2.2.lastLabel = some l) ∧
      (left.2.2.lastLabel = some l → name ∉ left.2.2.suppressed →
        ∃ first rest, Locator.parts text = first :: rest ∧
          (renderWithin s depth (.label l :: between ++ [.text e]) p).1 =
            l.inFrontOf s name first ++ left.1 ++
              e.decoration.apply s.locale
                (Buffer.ofText .plain first.text ++ rest.flatMap labelled)) := by
  intro labelled
  have own : LabelElement.hasOwnLabels name := by
    simpa [LabelElement.hasOwnLabels, or_comm] using which
  obtain ⟨first, rest, read, named⟩ := Locator.exists_parts text
  obtain ⟨fetches, label⟩ := renderWithin_label depth own subject contextual found read
  have written {q : Pass} (last : q.lastLabel = some l) (present : name ∉ q.suppressed) :
      (renderWithin s depth [.text e] q).1 = e.decoration.apply s.locale
        (Buffer.ofText .plain first.text ++ rest.flatMap labelled) := by
    rw [renderWithin_text]
    exact TextElement.render_labelled own subject contextual source last
      (text?_of_present found present) read named
  have there : name ∉ p.suppressed := by
    intro hidden
    simp [Setting.text?, hidden] at found
  refine ⟨fun bare => ?_, fun between => ⟨fun quiet => ?_, fun last present => ?_⟩⟩
  · have both := renderWithin_cons s depth (.label l) [.text e] p
    rw [label] at both
    rw [both, read, List.flatMap_cons]
    simp only [written (q := { p with lastLabel := some l }) rfl there, bare,
      Decoration.apply_unset, id, labelled, List.append_assoc]
  · exact keepsLabel_renderWithin quiet depth _
  · refine ⟨first, rest, read, ?_⟩
    have after := renderWithin_append s depth between [.text e] { p with lastLabel := some l }
    rw [List.cons_append, renderWithin_cons, label]
    simp only [after, written last present, List.append_assoc]

end

/-- A label of a locator with a space behind it. -/
def locatorLabel : LabelElement where
  subject := some "locator"
  form := .short
  plural := .contextual
  decoration := { affixes := { behind := " " } }

/-- A text with a comma behind it. -/
def commaBehind (name : String) : Element :=
  .text ⟨.ofVariable name false, { affixes := { behind := ", " } }⟩

/-- A cite of a place in a work. The locale has no term for the label of the cite, under which the
first part stands. -/
def citedPlace : Setting where
  record := { texts := [("volume", "2")] }
  locale := .english
  cite := { locator := some "3, 4; p. 10-12, opp. 5", label := some "canto" }

theorem renderWithin_partLabels_cited :
    let e : TextElement := ⟨.ofVariable "locator" false, {}⟩
    let left := renderWithin citedPlace 1 [commaBehind "volume"] { lastLabel := some locatorLabel }
    citedPlace.text? [] false "locator" = some "3, 4; p. 10-12, opp. 5" ∧
      left.2.2.lastLabel = some locatorLabel ∧ "locator" ∉ left.2.2.suppressed ∧
      (renderWithin citedPlace 1 [.label locatorLabel, commaBehind "volume", .text e] {}).1.plainText =
        "2, 3, 4; pp. 10–12, opp. 5" := by
  intro e left
  have found : citedPlace.text? [] false "locator" = some "3, 4; p. 10-12, opp. 5" := by
    decide +kernel
  have labels := renderWithin_partLabels 1 (e := e) (p := {}) (l := locatorLabel) (.inl rfl) rfl rfl rfl
    found
  obtain ⟨keeps, whole⟩ := labels.2 [commaBehind "volume"]
  have quiet : left.2.2.lastLabel = some locatorLabel :=
    keeps (List.forall_mem_singleton.mpr (.text fun _ => TextSource.noConfusion))
  have present : "locator" ∉ left.2.2.suppressed := by decide +kernel
  refine ⟨found, quiet, present, ?_⟩
  obtain ⟨first, rest, read, written⟩ := whole quiet present
  have parts : Locator.parts "3, 4; p. 10-12, opp. 5" =
      [⟨"3, 4; ", none, true⟩, ⟨"10–12, ", some "page", true⟩, ⟨"5", some "opus", true⟩] := by
    decide +kernel
  obtain ⟨rfl, rfl⟩ := List.cons.inj (read.symm.trans parts)
  exact (congrArg Buffer.plainText written).trans (by decide +kernel)

end Element

end CiteStyle
