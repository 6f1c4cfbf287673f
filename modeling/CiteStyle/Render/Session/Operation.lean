-- What can be done with a session, as data: looking variables up, suppressing
-- them, listening, working with outputs of its own, and rendering. Any of it can
-- also be done with an output that does not stand on top.
import CiteStyle.Render.Session

namespace CiteStyle

open Rendering

/-! ## Looking variables up -/

/-- A way to look a variable up. The silent ones are not told to listeners. -/
inductive LookUp where
  | text (short : Bool)
  | silentText (short : Bool)
  | date
  | silentDate
  | names
  | value
  | silentValue
  deriving DecidableEq, Repr

namespace LookUp

/-- Look a variable up. -/
def take (s : Setting) (name : String) : LookUp → Rendering (Option Value)
  | .text short => return (← fetchText s short name).map .text
  | .silentText short => return (← peekText s short name).map .text
  | .date => return (← fetchDate s name).map .date
  | .silentDate => return (← peekDate s name).map .date
  | .names => return (← fetchNames s name).map .names
  | .value => fetchValue s name
  | .silentValue => peekValue s name

/-- Listeners hear of a look-up of a variable. They never hear of the text of the suffix of a
year. -/
def isTold (name : String) : LookUp → Bool
  | .text _ => name ≠ "year-suffix"
  | .date | .names | .value => true
  | .silentText _ | .silentDate | .silentValue => false

end LookUp

/-! ## Operations -/

namespace Session

/-- Do some work with the output below the one on top; nothing if there is none. -/
def beneath (work : StateM Session Unit) : StateM Session Unit :=
  modify fun session =>
    match session.below with
    | [] => session
    | next :: rest =>
      let after := (work { session with top := next, below := rest }).2
      { after with top := session.top, below := after.top :: after.below }

/-- Something that is done with a session. -/
inductive Operation where
  | lookUp (kind : LookUp) (name : String)
  | report (name : String) (found : Bool)
  | readDate (text : String)
  | suppress (name : String)
  | listen (listener : Listener)
  | dismiss (number : Nat)
  | emit (output : Buffer)
  | child (options : NameOptions)
  | merge
  | discard
  | render (e : Element)
  /-- An operation on the output below the one on top. -/
  | beneath (operation : Operation)

/-- Do something with a session. -/
def Operation.run : Operation → StateM Session Unit
  | .lookUp kind name => do let _ ← perform (kind.take · name)
  | .report name found => perform fun _ => Rendering.report name found
  | .readDate text => do let _ ← perform (Rendering.readDate · text)
  | .suppress name => perform fun _ => change (Pass.suppress [name])
  | .listen listener => do let _ ← Session.listen listener
  | .dismiss number => Session.dismiss number
  | .emit output => Session.emit output
  | .child options => Session.child options
  | .merge => Session.merge
  | .discard => Session.discard
  | .render e => do let _ ← Session.render e
  | .beneath operation => Session.beneath operation.run

/-- A session after some operations, one after the other. -/
def after (session : Session) (operations : List Operation) : Session :=
  operations.foldl (fun session operation => (operation.run session).2) session

end Session

end CiteStyle
