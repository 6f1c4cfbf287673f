-- One pass of rendering: what it remembers from one element to the next, and
-- what it says about the variables that it looks up.
import CiteStyle.DateText.Reader
import CiteStyle.Render.Setting

namespace CiteStyle

/-! ## Fetches -/

/-- A variable that was looked up. -/
structure Fetch where
  name : String
  found : Bool
  deriving DecidableEq, Repr

namespace Fetch

/-- Add a name to a list, unless it is there. -/
def addName (names : List String) (fetch : Fetch) : List String :=
  if names.contains fetch.name then names else names ++ [fetch.name]

/-- The names that were looked up, each once. -/
def names (fetches : List Fetch) : List String := fetches.foldl addName []

/-- Something was looked up, and nothing was found. -/
def allEmpty (fetches : List Fetch) : Bool := !fetches.isEmpty && fetches.all (!·.found)

end Fetch

/-! ## Passes -/

/-- What a pass remembers. -/
structure Pass where
  /-- The variables that count as absent. -/
  suppressed : List String := []
  /-- The last label of a number or of a locator. -/
  lastLabel : Option LabelElement := none
  readers : DateReaders := []
  /-- The macros that were called in vain: those not defined, and those that lie too deep. -/
  missedCalls : List String := []

/-- Let variables count as absent from now on. -/
def Pass.suppress (names : List String) (p : Pass) : Pass :=
  { p with suppressed := p.suppressed ++ names }

/-! ## Steps -/

/-- A step of a pass: its result, the variables that it looks up, in order, and what the pass
remembers after it. -/
def Rendering (α : Type) : Type := Pass → α × List Fetch × Pass

namespace Rendering

instance : Monad Rendering where
  pure a := fun p => (a, [], p)
  bind x f := fun p =>
    let (a, before, p) := x p
    let (b, after, p) := f a p
    (b, before ++ after, p)

theorem pure_apply (a : α) (p : Pass) : (pure a : Rendering α) p = (a, [], p) := rfl

theorem bind_apply (x : Rendering α) (f : α → Rendering β) (p : Pass) :
    (x >>= f) p = ((f (x p).1 (x p).2.2).1, (x p).2.1 ++ (f (x p).1 (x p).2.2).2.1,
      (f (x p).1 (x p).2.2).2.2) := rfl

instance : LawfulMonad Rendering :=
  LawfulMonad.mk' Rendering
    (fun x => by funext p; show ((x p).1, (x p).2.1 ++ [], (x p).2.2) = x p; simp)
    (fun a f => by funext p; simp [bind_apply, pure_apply])
    (fun x f g => by funext p; simp [bind_apply])

theorem map_apply (f : α → β) (x : Rendering α) (p : Pass) :
    (f <$> x) p = (f (x p).1, (x p).2) := by
  rw [map_eq_pure_bind, bind_apply]
  simp only [pure_apply, List.append_nil]

/-- What the pass remembers. -/
def remembered : Rendering Pass := fun p => (p, [], p)

/-- Change what the pass remembers. -/
def change (f : Pass → Pass) : Rendering Unit := fun p => ((), [], f p)

/-- Say that a variable was looked up. -/
def report (name : String) (found : Bool) : Rendering Unit := fun p => ((), [⟨name, found⟩], p)

/-- A step together with the variables that it looks up. -/
def listening (x : Rendering α) : Rendering (α × List Fetch) := fun p =>
  let (a, fetches, p) := x p
  ((a, fetches), fetches, p)

/-! ## Looking variables up -/

/-- Look up the text of a variable without telling so. -/
def peekText (s : Setting) (short : Bool) (name : String) : Rendering (Option String) :=
  return s.text? (← remembered).suppressed short name

/-- Look up the text of a variable. A look-up of the suffix of a year is never told. -/
def fetchText (s : Setting) (short : Bool) (name : String) : Rendering (Option String) := do
  let text ← peekText s short name
  if name = "year-suffix" then return text
  else
    report name text.isSome
    return text

/-- Look up a date without telling so. -/
def peekDate (s : Setting) (name : String) : Rendering (Option Date) :=
  return s.date? (← remembered).suppressed name

/-- Look up a date. -/
def fetchDate (s : Setting) (name : String) : Rendering (Option Date) := do
  let date ← peekDate s name
  report name date.isSome
  return date

/-- Look up names. -/
def fetchNames (s : Setting) (name : String) : Rendering (Option (List Name)) := do
  let names := s.names? (← remembered).suppressed name
  report name names.isSome
  return names

/-- Look up a variable without telling so. -/
def peekValue (s : Setting) (name : String) : Rendering (Option Value) :=
  return s.value? (← remembered).suppressed name

/-- Look up a variable. -/
def fetchValue (s : Setting) (name : String) : Rendering (Option Value) := do
  let value ← peekValue s name
  report name value.isSome
  return value

/-! ## Reading dates -/

/-- The locales in which a text is read as a date. -/
def readingLocales (s : Setting) (fallback : Locale) : List Locale :=
  if fallback.lang = s.locale.lang then [s.locale] else [s.locale, fallback]

/-- Read a text as a date that has a year. -/
def readDate (s : Setting) (text : String) : Rendering (Option ReadDate) :=
  match s.fallback with
  | none => return none
  | some fallback => do
    let (date, readers) := (← remembered).readers.read? text (readingLocales s fallback)
    change fun p => { p with readers }
    return date.filter (·.year.isSome)

end Rendering

end CiteStyle
