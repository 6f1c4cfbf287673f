-- What listeners hear. A session lets them know of three things: that something was
-- looked up or reported, that a listener came, and that one was dismissed. Whatever is
-- done with a session, in whichever of its outputs, these events alone decide what
-- each listener holds: all that is told after it came and before it is dismissed.
import CiteStyle.Proofs.GroupItems
import CiteStyle.Proofs.Suppression

namespace CiteStyle

open Rendering

/-! ## Names without repetition -/

/-- Names that are there already are left out, and so are those that come again. -/
theorem Fetch.foldl_addName (fetches : List Fetch) (names : List String) :
    fetches.foldl addName names =
      names ++ ((fetches.map (·.name)).filter (!names.contains ·)).eraseDups := by
  induction fetches generalizing names with
  | nil => simp
  | cons fetch rest ih =>
    rw [List.foldl_cons, ih, addName, List.map_cons]
    by_cases known : names.contains fetch.name
    · rw [if_pos known, List.filter_cons_of_neg (by simp only [known]; decide)]
    · rw [if_neg known, List.filter_cons_of_pos (by simpa using known), List.eraseDups_cons,
        List.filter_filter, List.append_assoc, List.singleton_append]
      have same : (fun name => !(names ++ [fetch.name]).contains name) =
          fun name => !name == fetch.name && !names.contains name := by
        funext name
        simp [Bool.and_comm, beq_eq_decide]
      rw [same]

theorem Fetch.names_eq (fetches : List Fetch) :
    Fetch.names fetches = (fetches.map (·.name)).eraseDups := by
  have whole := foldl_addName fetches []
  simpa [Fetch.names] using whole

namespace Session

/-! ## Events -/

/-- Something that a session lets listeners know, or that is done with them. -/
inductive Event where
  | told (fetch : Fetch)
  | joined (listener : Listener)
  | dismissed (number : Nat)
  deriving DecidableEq, Repr

namespace Event

/-- The look-up that an event tells. -/
def fetch? : Event → Option Fetch
  | .told fetch => some fetch
  | _ => none

/-- The listener that an event brings. -/
def listener? : Event → Option Listener
  | .joined listener => some listener
  | _ => none

/-- What the listener of a number hears of some events: all that they tell until it is
dismissed. -/
def heard (number : Nat) (events : List Event) : List Fetch :=
  (events.takeWhile (· ≠ .dismissed number)).filterMap fetch?

/-- The listeners after an event. -/
def change (listeners : List Registration) : Event → List Registration
  | .told fetch => listeners.map (·.tell [fetch])
  | .joined listener => listeners ++ [⟨listener, false⟩]
  | .dismissed number => listeners.modify number ({ · with dismissed := true })

theorem heard_told (number : Nat) (fetch : Fetch) (rest : List Event) :
    heard number (.told fetch :: rest) = fetch :: heard number rest := by
  unfold heard
  rw [List.takeWhile_cons_of_pos (by simp)]
  rfl

theorem heard_joined (number : Nat) (listener : Listener) (rest : List Event) :
    heard number (.joined listener :: rest) = heard number rest := by
  unfold heard
  rw [List.takeWhile_cons_of_pos (by simp)]
  rfl

theorem heard_dismissed (number other : Nat) (rest : List Event) :
    heard number (.dismissed other :: rest) = if other = number then [] else heard number rest := by
  unfold heard
  by_cases own : other = number
  · rw [if_pos own, List.takeWhile_cons_of_neg (by simp [own])]
    rfl
  · rw [if_neg own, List.takeWhile_cons_of_pos (by simp [own])]
    rfl

theorem foldl_told (fetches : List Fetch) (listeners : List Registration) :
    (fetches.map told).foldl change listeners = listeners.map (·.tell fetches) := by
  induction fetches generalizing listeners with
  | nil => exact (Registration.map_tell_nil listeners).symm
  | cons fetch rest ih =>
    rw [List.map_cons, List.foldl_cons, ih, change, List.map_map]
    exact List.map_congr_left fun r _ => (r.tell_append [fetch] rest).symm

theorem length_foldl (events : List Event) (listeners : List Registration) :
    (events.foldl change listeners).length =
      listeners.length + (events.filterMap listener?).length := by
  induction events generalizing listeners with
  | nil => rfl
  | cons event rest ih =>
    rw [List.foldl_cons, ih]
    cases event with
    | told fetch => simp [change, listener?, List.filterMap_cons]
    | joined listener =>
      simp only [change, listener?, List.filterMap_cons, List.length_append, List.length_cons,
        List.length_nil]
      omega
    | dismissed number => simp [change, listener?, List.filterMap_cons]

/-- A listener holds what it held and what it has heard since. -/
theorem getElem?_foldl (events : List Event) {listeners : List Registration} {number : Nat}
    {r : Registration} (found : listeners[number]? = some r) :
    (events.foldl change listeners)[number]? = some
      { listener := (r.tell (heard number events)).listener
        dismissed := r.dismissed || decide (.dismissed number ∈ events) } := by
  induction events generalizing listeners r with
  | nil =>
    have same : r.tell (heard number []) = r := r.tell_nil
    rw [List.foldl_nil, found, same]
    simp
  | cons event rest ih =>
    rw [List.foldl_cons]
    cases event with
    | told fetch =>
      have next : (listeners.map (·.tell [fetch]))[number]? = some (r.tell [fetch]) := by
        rw [List.getElem?_map, found]
        rfl
      rw [change, ih next, heard_told, r.dismissed_tell, ← r.tell_append]
      simp
    | joined listener =>
      have next : (listeners ++ [⟨listener, false⟩])[number]? = some r := by
        rw [List.getElem?_append_left (List.getElem?_eq_some_iff.mp found).1, found]
      rw [change, ih next, heard_joined]
      simp
    | dismissed other =>
      rw [change, heard_dismissed]
      by_cases own : other = number
      · have next : (listeners.modify other ({ · with dismissed := true }))[number]? =
            some { r with dismissed := true } := by
          simp [own, found]
        rw [ih next, if_pos own, r.tell_nil]
        simp [own, Registration.tell]
      · have next : (listeners.modify other ({ · with dismissed := true }))[number]? = some r := by
          simp [own, found]
        rw [ih next, if_neg own]
        simp [Ne.symm own]

/-- A listener that comes holds what it has heard since. -/
theorem getElem?_foldl_joined (front back : List Event) (l : Listener)
    (listeners : List Registration) :
    ((front ++ .joined l :: back).foldl change listeners)[listeners.length +
        (front.filterMap listener?).length]? =
      let number := listeners.length + (front.filterMap listener?).length
      some ⟨l.hearAll (heard number back), decide (.dismissed number ∈ back)⟩ := by
  rw [List.foldl_append, List.foldl_cons]
  have last : (change (front.foldl change listeners) (.joined l))[listeners.length +
      (front.filterMap listener?).length]? = some ⟨l, false⟩ := by
    rw [← length_foldl, change]
    exact List.getElem?_concat_length
  rw [getElem?_foldl back last]
  rfl

end Event

/-! ## Events of operations -/

/-- The events of an operation: a look-up is told if its kind is and its name allows it, and what
an element looks up while it is rendered is told in order. -/
def Operation.events : Operation → Session → List Event
  | .lookUp kind name, session =>
    if kind.isTold name then
      [.told ⟨name, (kind.found? session.topSetting name session.pass.suppressed).isSome⟩]
    else []
  | .report name found, _ => [.told ⟨name, found⟩]
  | .listen listener, _ => [.joined listener]
  | .dismiss number, _ => [.dismissed number]
  | .render e, session => (Element.render session.topSetting e session.pass).2.1.map .told
  | .beneath operation, session =>
    match session.below with
    | [] => []
    | next :: rest => operation.events { session with top := next, below := rest }
  | .readDate _, _ | .suppress _, _ | .emit _, _ | .child _, _ | .merge, _ | .discard, _ => []

/-- The events of some operations, one after the other. -/
def trace (session : Session) : List Operation → List Event
  | [] => []
  | operation :: rest => operation.events session ++ (operation.run session).2.trace rest

/-- The number of a listener that comes after some events. -/
def numberAfter (session : Session) (events : List Event) : Nat :=
  session.listeners.length + (events.filterMap Event.listener?).length

/-- The listeners after an operation go by its events. -/
theorem listeners_run (operation : Operation) (session : Session) :
    (operation.run session).2.listeners =
      (operation.events session).foldl Event.change session.listeners := by
  induction operation generalizing session with
  | lookUp kind name =>
    show session.listeners.map (·.tell (kind.take session.topSetting name session.pass).2.1) = _
    rw [LookUp.take_apply, Operation.events]
    split
    · rfl
    · exact Registration.map_tell_nil session.listeners
  | report name found => rfl
  | readDate text =>
    obtain ⟨readers, after⟩ := Quiet.readDate session.topSetting text session.pass
    show session.listeners.map
      (·.tell (Rendering.readDate session.topSetting text session.pass).2.1) = _
    rw [after]
    exact Registration.map_tell_nil session.listeners
  | suppress name => exact Registration.map_tell_nil session.listeners
  | listen | dismiss | emit | child => rfl
  | merge | discard =>
    obtain ⟨setting, pass, top, below, listeners⟩ := session
    cases below <;> rfl
  | render e =>
    show (Session.render e session).2.listeners = _
    rw [render_eq, Operation.events, Event.foldl_told]
    rfl
  | beneath operation ih =>
    obtain ⟨setting, pass, top, below, listeners⟩ := session
    cases below with
    | nil => rfl
    | cons next rest => exact ih ⟨setting, pass, next, rest, listeners⟩

theorem listeners_after (operations : List Operation) (session : Session) :
    (session.after operations).listeners =
      (session.trace operations).foldl Event.change session.listeners := by
  induction operations generalizing session with
  | nil => rfl
  | cons operation rest ih =>
    rw [trace, List.foldl_append, ← listeners_run]
    exact ih (operation.run session).2

/-! ## Listeners within elements -/

/-- A listener that stays for the items of a group hears what they look up, and so do the others. -/
theorem hearing_items (l : Listener) (depth : Nat) (delimiter : String) (children : List Element)
    (session : Session) :
    let s := session.topSetting
    let given := Element.piecesOf (Element.renderCall s depth) s children session.pass
    hearing l (inChild (Element.itemsInto (Element.callInto depth) delimiter children)) session =
      ((l.hearAll given.2.1, Buffer.joinFilled delimiter given.1),
        session.told given.2.1 given.2.2) := by
  intro s given
  rw [Element.itemsInto_eq (Element.callInto_eq depth), inChild_outputItems, hearing_perform,
    perform_apply]
  simp only [listening, bind_apply, map_apply, pure_apply, List.append_nil]
  rfl

/-- And so does one that stays for a candidate of a substitute. -/
theorem hearing_candidate (l : Listener) (depth : Nat) (e : Element) (session : Session) :
    let s := session.topSetting
    let given := e.pieces (Element.renderCall s depth) s session.pass
    hearing l (inChild (Element.renderInto (Element.callInto depth) e)) session =
      ((l.hearAll given.2.1, given.1.flatten), session.told given.2.1 given.2.2) := by
  intro s given
  rw [Element.renderInto_eq (Element.callInto_eq depth), inChild_output, hearing_perform,
    perform_apply]
  simp only [listening, bind_apply, map_apply, pure_apply, List.append_nil]
  rfl

/-! ## What is not told -/

/-- The look-ups that are not told, whatever is looked up. -/
def silentKinds : List LookUp := [.silentText false, .silentText true, .silentDate, .silentValue]

/-- What the listeners of a session never hear of. -/
structure Unheard (session : Session) : Prop where
  /-- Silent look-ups leave everything as it is. -/
  silent : ∀ kind ∈ silentKinds, ∀ name, ((Operation.lookUp kind name).run session).2 = session
  /-- So does a look-up of the text of the suffix of a year. -/
  yearSuffix : ∀ short, ((Operation.lookUp (.text short) "year-suffix").run session).2 = session
  /-- Elements that show this text tell nothing either. -/
  text : ∀ short decoration,
    (Operation.render (.text ⟨.ofVariable "year-suffix" short, decoration⟩)).events session = []
  number : ∀ e : NumberElement, e.subject = "year-suffix" →
    (Operation.render (.number e)).events session = []
  /-- A condition tells nothing. -/
  condition : ∀ condition p, (Element.takes session.topSetting condition p).2 = ([], p)
  /-- A choice tells what the branch tells that it takes. -/
  choice : ∀ branches,
    let s := session.topSetting
    let taken := Element.branchItems (Element.renderCall s s.callDepth) s branches session.pass
    (Operation.render (.choose branches)).events session =
      (Element.renderAll s taken session.pass).2.1.map .told

theorem lookUp_untold {kind : LookUp} {name : String} (untold : kind.isTold name = false)
    (session : Session) : ((Operation.lookUp kind name).run session).2 = session := by
  have silent : (kind.take session.topSetting name session.pass).2 = ([], session.pass) := by
    rw [kind.take_apply]
    simp only [untold, Bool.false_eq_true, if_false]
  show session.told (kind.take session.topSetting name session.pass).2.1
    (kind.take session.topSetting name session.pass).2.2 = session
  rw [silent]
  exact session.told_nil

theorem unheard (session : Session) : Unheard session where
  silent kind mem name := by
    refine lookUp_untold ?_ session
    unfold silentKinds at mem
    fin_cases mem <;> rfl
  yearSuffix short := lookUp_untold rfl session
  text short decoration := by
    have quiet (call : String → Rendering Buffer) (s : Setting) (p : Pass) :
        (TextElement.renderSource call s (.ofVariable "year-suffix" short) p).2.1 = [] := by
      simp only [TextElement.renderSource, bind_apply, fetchText_apply]
      cases s.text? p.suppressed short "year-suffix" <;> rfl
    unfold Operation.events Element.render Element.renderAll
    rw [Element.renderWithin_single]
    simp only [Element.pieces, TextElement.render, map_apply, bind_apply, pure_apply, quiet,
      List.append_nil, List.map_nil]
  number e same := by
    unfold Operation.events Element.render Element.renderAll
    rw [Element.renderWithin_single]
    simp only [Element.pieces, NumberElement.render, map_apply, bind_apply, fetchText_apply,
      pure_apply, same, if_true, List.append_nil, List.map_nil]
  condition condition p := rfl
  choice branches := by
    intro s taken
    unfold Operation.events Element.render Element.renderAll Element.renderWithin
    simp only [map_apply]
    rw [Element.branchPieces_items, Element.piecesOf_singleton, Element.pieces]

/-! ## The records of listeners -/

/-- Listeners hear exactly what is told while they are there. After any run of operations, in
whichever output, a listener holds what it held when it came, or at the start, and what was told
from then on until it was dismissed. A new listener that counts has the number of these look-ups
and of those that found nothing; one that collects has their names, each once, as they were first
heard. Silent look-ups, the text of the suffix of a year and conditions are not told, and the
listener within a group or a substitute hears what is told of the items or of the candidate. -/
theorem listeners_hear (session : Session) (operations : List Operation) :
    let trace := session.trace operations
    let last := session.after operations
    last.listeners.length = session.numberAfter trace ∧
    (∀ front l back, trace = front ++ .joined l :: back →
      let number := session.numberAfter front
      last.listeners[number]? =
        some ⟨l.hearAll (Event.heard number back), decide (.dismissed number ∈ back)⟩) ∧
    (∀ (number : Nat) (r : Registration), session.listeners[number]? = some r →
      last.listeners[number]? =
        some ⟨(r.tell (Event.heard number trace)).listener,
          r.dismissed || decide (.dismissed number ∈ trace)⟩) ∧
    (∀ fetches : List Fetch,
      (Listener.counting 0 0).hearAll fetches =
          .counting fetches.length (fetches.countP (!·.found)) ∧
        fetches.countP (!·.found) ≤ fetches.length ∧
        (Listener.collecting []).hearAll fetches =
          .collecting (fetches.map (·.name)).eraseDups) ∧
    Unheard last ∧
    ∀ l depth,
      let s := last.topSetting
      let call := Element.renderCall s depth
      let place := Element.callInto depth
      (∀ delimiter children,
        let given := Element.piecesOf call s children last.pass
        hearing l (inChild (Element.itemsInto place delimiter children)) last =
          ((l.hearAll given.2.1, Buffer.joinFilled delimiter given.1),
            last.told given.2.1 given.2.2)) ∧
      ∀ e : Element,
        let given := e.pieces call s last.pass
        hearing l (inChild (Element.renderInto place e)) last =
          ((l.hearAll given.2.1, given.1.flatten), last.told given.2.1 given.2.2) := by
  intro trace last
  have listeners : last.listeners = trace.foldl Event.change session.listeners :=
    listeners_after operations session
  refine ⟨?_, fun front l back split => ?_, fun number r found => ?_, fun fetches => ⟨?_, ?_, ?_⟩,
    unheard last, fun l depth => ⟨fun delimiter children => ?_, fun e => ?_⟩⟩
  · rw [listeners, Event.length_foldl]
    rfl
  · rw [listeners, split]
    exact Event.getElem?_foldl_joined front back l session.listeners
  · rw [listeners]
    exact Event.getElem?_foldl trace found
  · rw [Listener.hearAll_counting, Nat.zero_add, Nat.zero_add]
  · exact List.countP_le_length
  · rw [Listener.hearAll_collecting, ← Fetch.names_eq]
    rfl
  · exact hearing_items l depth delimiter children last
  · exact hearing_candidate l depth e last

/-- One listener counts, and another one that comes through the output below collects. -/
theorem listeners_hear_nested :
    let named : Element :=
      .names ["author"] ⟨{}, none, false, "", {}⟩ [.text ⟨.ofVariable "title" false, {}⟩]
    let operations : List Operation :=
      [.listen (.counting 0 0), .child {}, .lookUp (.text false) "title",
        .beneath (.listen (.collecting [])), .lookUp .silentDate "issued", .render named,
        .dismiss 0, .report "author" false, .lookUp .value "title"]
    let last := nestedSession.after operations
    last.listeners[0]? = some ⟨.counting 3 1, true⟩ ∧
      last.listeners[1]? = some ⟨.collecting ["author", "title"], false⟩ := by
  intro named operations last
  have trace : nestedSession.trace operations =
      [.joined (.counting 0 0), .told ⟨"title", true⟩, .joined (.collecting []),
        .told ⟨"author", false⟩, .told ⟨"title", true⟩, .dismissed 0, .told ⟨"author", false⟩,
        .told ⟨"title", false⟩] := by
    decide +kernel
  obtain ⟨-, came, -, records, -⟩ := listeners_hear nestedSession operations
  have first := came [] _ _ trace
  have second := came [.joined (.counting 0 0), .told ⟨"title", true⟩] _ _ trace
  dsimp only at first second
  rw [(records _).1] at first
  rw [(records _).2.2] at second
  exact ⟨first.trans (by decide +kernel), second.trans (by decide +kernel)⟩

end Session

end CiteStyle
