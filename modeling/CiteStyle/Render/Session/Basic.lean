-- Rendering step by step. A session has one pass and a stack of outputs, of
-- which the one on top grows; listeners hear what is looked up.
import CiteStyle.Render.Pass

namespace CiteStyle

/-! ## Listeners -/

/-- Something that hears of variables that are looked up. -/
inductive Listener where
  /-- Keeps the names, each once. -/
  | collecting (names : List String)
  /-- Counts the look-ups, and those that found nothing. -/
  | counting (called empty : Nat)
  deriving DecidableEq, Repr

namespace Listener

/-- Hear of one look-up. -/
def hear : Listener → Fetch → Listener
  | .collecting names, fetch => .collecting (Fetch.addName names fetch)
  | .counting called empty, fetch =>
    .counting (called + 1) (if fetch.found then empty else empty + 1)

/-- Something was looked up, and nothing was found. A listener that does not count cannot
tell. -/
def allEmpty : Listener → Bool
  | .collecting _ => false
  | .counting called empty => 0 < called && called == empty

/-- The names that a listener keeps. -/
def names : Listener → List String
  | .collecting names => names
  | .counting _ _ => []

/-- Hear of some look-ups in order. -/
def hearAll (l : Listener) (fetches : List Fetch) : Listener := fetches.foldl hear l

end Listener

/-- A listener of a session. Once it is dismissed it hears nothing more. -/
structure Registration where
  listener : Listener
  dismissed : Bool := false
  deriving DecidableEq, Repr

/-- Let a listener hear of some look-ups, unless it is dismissed. -/
def Registration.tell (r : Registration) (fetches : List Fetch) : Registration :=
  if r.dismissed then r else { r with listener := r.listener.hearAll fetches }

/-! ## Sessions -/

/-- An output of a session, and the options of the names that are rendered into it. -/
structure Frame where
  nameOptions : NameOptions := {}
  output : Buffer := []
  deriving DecidableEq, Repr

/-- A session. -/
structure Session where
  setting : Setting
  pass : Pass := {}
  top : Frame := {}
  below : List Frame := []
  /-- All listeners, in the order in which they came. -/
  listeners : List Registration := []

namespace Session

/-- The number of outputs. -/
def depth (session : Session) : Nat := session.below.length + 1

/-- What rendering into the output on top goes by. -/
def topSetting (session : Session) : Setting :=
  { session.setting with nameOptions := session.top.nameOptions }

/-! ## Looking up and adding output -/

/-- Take a step of the pass, and let all listeners hear of what it looks up. -/
def perform (step : Setting → Rendering α) : StateM Session α := fun session =>
  let (a, fetches, pass) := step session.topSetting session.pass
  (a, { session with pass, listeners := session.listeners.map (·.tell fetches) })

/-- Change the output on top. -/
def edit (f : Buffer → Buffer) : StateM Session Unit :=
  modify fun session => { session with top.output := f session.top.output }

/-- Add to the output on top. -/
def emit (b : Buffer) : StateM Session Unit := edit (· ++ b)

/-- Add an item to the output on top, after a delimiter if something stands there. -/
def emitItem (delimiter : String) (item : Buffer) : StateM Session Unit :=
  edit (·.appendItem delimiter item)

/-! ## Listening -/

/-- Let a listener hear from now on. The result is its number. -/
def listen (l : Listener) : StateM Session Nat := fun session =>
  (session.listeners.length, { session with listeners := session.listeners ++ [⟨l, false⟩] })

/-- Dismiss the listener of a number, if there is one. -/
def dismiss (number : Nat) : StateM Session Unit :=
  modify fun session =>
    { session with listeners := session.listeners.modify number ({ · with dismissed := true }) }

/-- Take the listener of a number away altogether. The result is what it has become. -/
def withdraw (number : Nat) : StateM Session (Option Listener) := fun session =>
  (session.listeners[number]?.map (·.listener),
    { session with listeners := session.listeners.eraseIdx number })

/-- Let a listener hear what some work looks up, and no more. -/
def hearing (l : Listener) (work : StateM Session α) : StateM Session (Listener × α) := do
  let number ← listen l
  let a ← work
  let heard ← withdraw number
  return (heard.getD l, a)

/-! ## Outputs -/

/-- Put a new output on top, with some options of names over those of the output below. -/
def child (options : NameOptions) : StateM Session Unit :=
  modify fun session =>
    { session with
      top := { nameOptions := session.top.nameOptions.merge options }
      below := session.top :: session.below }

/-- Take the output on top away, unless it is the only one. The result is what it holds. -/
def close : StateM Session Buffer := fun session =>
  match session.below with
  | [] => (session.top.output, session)
  | next :: rest => (session.top.output, { session with top := next, below := rest })

/-- What some work adds to a new output, which is taken away again. -/
def inChild (work : StateM Session Unit) : StateM Session Buffer := do
  child {}
  work
  close

/-- Take the output on top away, unless it is the only one. -/
def discard : StateM Session Unit :=
  modify fun session =>
    match session.below with
    | [] => session
    | next :: rest => { session with top := next, below := rest }

/-- Add the output on top to the one below, unless it is the only one. -/
def merge : StateM Session Unit :=
  modify fun session =>
    match session.below with
    | [] => session
    | next :: rest =>
      { session with top := { next with output := next.output ++ session.top.output }
                     below := rest }

end Session

end CiteStyle
