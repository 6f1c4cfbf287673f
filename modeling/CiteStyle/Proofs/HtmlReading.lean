-- Reading HTML, strictly: the characters that are shown, with character
-- references decoded, and the tags between them with their attributes. An escaped
-- text is read as itself, in a tag and outside of tags, and what is put into an
-- element is read as it is read alone.
import CiteStyle.Output.Markup

namespace CiteStyle.Html

/-! ## Pieces -/

/-- A tag that starts an element. -/
structure StartTag where
  name : List Char
  attributes : List (List Char × List Char) := []
  deriving DecidableEq, Repr

/-- A character that is shown, or a tag. -/
inductive Piece where
  | shown (c : Char)
  | start (tag : StartTag)
  | stop (name : List Char)
  deriving DecidableEq, Repr

/-- What is left of some pieces once the tags are deleted. -/
def shownText (pieces : List Piece) : String :=
  String.ofList <| pieces.filterMap fun
    | .shown c => some c
    | _ => none

/-- A tag without the values of its attributes. -/
def StartTag.blank (tag : StartTag) : StartTag :=
  { tag with attributes := tag.attributes.map fun (key, _) => (key, []) }

/-- The tags of some pieces, without the values of their attributes. -/
def outline (pieces : List Piece) : List Piece :=
  pieces.filterMap fun
    | .shown _ => none
    | .start tag => some (.start tag.blank)
    | .stop name => some (.stop name)

/-- The pieces of an element. -/
def StartTag.around (tag : StartTag) (pieces : List Piece) : List Piece :=
  .start tag :: (pieces ++ [.stop tag.name])

/-- The tags close each other, and those that are open already, from the inside out. -/
def nested : List (List Char) → List Piece → Bool
  | [], [] => true
  | _ :: _, [] => false
  | elements, .shown _ :: rest => nested elements rest
  | elements, .start tag :: rest => nested (tag.name :: elements) rest
  | [], .stop _ :: _ => false
  | element :: elements, .stop name :: rest => element = name && nested elements rest

/-! ## The reader -/

/-- Where a reader stands. -/
inductive Place where
  /-- Outside of tags. -/
  | content
  /-- Behind the sign that opens a tag. -/
  | opened
  | stopName (name : List Char)
  | startName (name : List Char)
  /-- In the name of an attribute. -/
  | attribute (tag : StartTag) (key : List Char)
  /-- In front of the value of an attribute. -/
  | equals (tag : StartTag) (key : List Char)
  | value (tag : StartTag) (key chars : List Char)
  /-- Behind an attribute. -/
  | behind (tag : StartTag)
  /-- In a character reference, from where the reader goes back. -/
  | reference (back : Place) (name : List Char)

/-- The characters that have a name. -/
def references : List (List Char × Char) :=
  [("amp".toList, '&'), ("lt".toList, '<'), ("gt".toList, '>'), ("quot".toList, '"')]

namespace Place

/-- Go on if a character is a letter of a name. -/
def spell (next : Place) (c : Char) : Option (Place × List Piece) :=
  if 'a' ≤ c && c ≤ 'z' || c = '-' then some (next, []) else none

/-- Take in a character that stands for itself. -/
def take : Place → Char → Option (Place × List Piece)
  | .content, c => some (.content, [.shown c])
  | .value tag key chars, c => some (.value tag key (chars ++ [c]), [])
  | _, _ => none

/-- Read a character of a text. Those that could end it or open a tag have to be references. -/
def text (place : Place) (c : Char) : Option (Place × List Piece) :=
  if c = '&' then some (.reference place [], [])
  else if c = '<' || c = '>' || c = '"' then none
  else place.take c

/-- Read one character. -/
def step : Place → Char → Option (Place × List Piece)
  | .content, c => if c = '<' then some (.opened, []) else text .content c
  | .opened, c => if c = '/' then some (.stopName [], []) else spell (.startName [c]) c
  | .stopName name, c =>
    if c = '>' then some (.content, [.stop name]) else spell (.stopName (name ++ [c])) c
  | .startName name, c =>
    if c = '>' then some (.content, [.start { name }])
    else if c = ' ' then some (.attribute { name } [], [])
    else spell (.startName (name ++ [c])) c
  | .attribute tag key, c =>
    if c = '=' then some (.equals tag key, []) else spell (.attribute tag (key ++ [c])) c
  | .equals tag key, c => if c = '"' then some (.value tag key [], []) else none
  | .value tag key chars, c =>
    if c = '"' then some (.behind { tag with attributes := tag.attributes ++ [(key, chars)] }, [])
    else text (.value tag key chars) c
  | .behind tag, c =>
    if c = '>' then some (.content, [.start tag])
    else if c = ' ' then some (.attribute tag [], [])
    else none
  | .reference back name, c =>
    if c = ';' then (references.lookup name).bind back.take
    else spell (.reference back (name ++ [c])) c

/-- Read some characters one after the other. -/
def walk : Place → List Char → Option (Place × List Piece)
  | place, [] => some (place, [])
  | place, c :: rest => do
    let (next, first) ← place.step c
    let (last, others) ← walk next rest
    return (last, first ++ others)

end Place

/-- The pieces of a text, if it is HTML. -/
def read? (s : String) : Option (List Piece) :=
  match Place.content.walk s.toList with
  | some (.content, pieces) => some pieces
  | _ => none

/-! ## Reading piece by piece -/

namespace Place

theorem walk_append {place next last : Place} {a b : List Char} {first others : List Piece}
    (ha : place.walk a = some (next, first)) (hb : next.walk b = some (last, others)) :
    place.walk (a ++ b) = some (last, first ++ others) := by
  induction a generalizing place first with
  | nil =>
    cases ha
    exact hb
  | cons c rest ih =>
    simp only [walk, Option.bind_eq_bind, Option.bind_eq_some_iff, Prod.exists] at ha
    obtain ⟨middle, one, hs, final, more, hw, same⟩ := ha
    cases same
    simp [walk, hs, ih hw]

/-! ## Escaped texts -/

/-- Texts stand outside of tags and in the values of attributes. -/
def IsText (place : Place) : Prop :=
  place = .content ∨ ∃ tag key chars, place = .value tag key chars

theorem walk_escapeChar {place : Place} (texts : place.IsText) (c : Char) :
    place.walk (Markup.escapeChar c) = place.take c := by
  unfold Markup.escapeChar
  split
  · rcases texts with rfl | ⟨tag, key, chars, rfl⟩ <;> rfl
  · rcases texts with rfl | ⟨tag, key, chars, rfl⟩ <;> rfl
  · rcases texts with rfl | ⟨tag, key, chars, rfl⟩ <;> rfl
  · rcases texts with rfl | ⟨tag, key, chars, rfl⟩ <;> rfl
  · rename_i amp lt gt quote
    have itself : c ≠ '&' ∧ c ≠ '<' ∧ c ≠ '>' ∧ c ≠ '"' := ⟨amp, lt, gt, quote⟩
    rcases texts with rfl | ⟨tag, key, chars, rfl⟩ <;> simp [walk, step, text, take, itself]

theorem walk_escape_content (s : String) :
    Place.content.walk (Markup.escape s).toList = some (.content, s.toList.map .shown) := by
  rw [Markup.escape, String.toList_ofList]
  induction s.toList with
  | nil => rfl
  | cons c rest ih => exact walk_append (walk_escapeChar (.inl rfl) c) ih

theorem walk_escape_value (tag : StartTag) (key chars : List Char) (s : String) :
    (Place.value tag key chars).walk (Markup.escape s).toList =
      some (.value tag key (chars ++ s.toList), []) := by
  rw [Markup.escape, String.toList_ofList]
  induction s.toList generalizing chars with
  | nil => simp [walk]
  | cons c rest ih =>
    have first := walk_escapeChar (.inr ⟨tag, key, chars, rfl⟩) c
    simpa using walk_append first (ih (chars ++ [c]))

end Place

/-! ## Fragments -/

theorem shownText_append (a b : List Piece) : shownText (a ++ b) = shownText a ++ shownText b := by
  simp [shownText]

theorem outline_append (a b : List Piece) : outline (a ++ b) = outline a ++ outline b := by
  simp [outline]

theorem shownText_map_shown (cs : List Char) : shownText (cs.map .shown) = String.ofList cs := by
  unfold shownText
  rw [List.filterMap_map]
  exact congrArg String.ofList List.filterMap_some

theorem outline_map_shown (cs : List Char) : outline (cs.map .shown) = [] := by
  simp [outline]

theorem shownText_around (tag : StartTag) (pieces : List Piece) :
    shownText (tag.around pieces) = shownText pieces := by
  simp [shownText, StartTag.around]

theorem outline_around (tag : StartTag) (pieces : List Piece) :
    outline (tag.around pieces) = tag.blank.around (outline pieces) := by
  simp [outline, StartTag.around, StartTag.blank]

/-- A text is read as some pieces wherever it stands outside of tags, and it closes just the tags
that it opens. -/
structure Reads (s : String) (pieces : List Piece) : Prop where
  walk : Place.content.walk s.toList = some (.content, pieces)
  nests : ∀ elements rest, nested elements (pieces ++ rest) = nested elements rest

namespace Reads

theorem empty : Reads "" [] := ⟨rfl, fun _ _ => rfl⟩

theorem append {s t : String} {a b : List Piece} (hs : Reads s a) (ht : Reads t b) :
    Reads (s ++ t) (a ++ b) := by
  refine ⟨?_, fun elements rest => ?_⟩
  · rw [String.toList_append]
    exact Place.walk_append hs.walk ht.walk
  · rw [List.append_assoc, hs.nests, ht.nests]

theorem escape (s : String) : Reads (Markup.escape s) (s.toList.map .shown) := by
  refine ⟨Place.walk_escape_content s, fun elements rest => ?_⟩
  induction s.toList with
  | nil => rfl
  | cons c cs ih => cases elements <;> exact ih

/-- An element is read as its tags around the pieces of its content. -/
theorem tagged {name attributes s : String} {pieces : List Piece} {tag : StartTag}
    (start : Place.content.walk ("<" ++ name ++ attributes ++ ">").toList =
      some (.content, [.start tag]))
    (stop : Place.content.walk ("</" ++ name ++ ">").toList = some (.content, [.stop tag.name]))
    (h : Reads s pieces) :
    Reads (Markup.tagged name attributes s) (tag.around pieces) := by
  have parts : Markup.tagged name attributes s =
      ("<" ++ name ++ attributes ++ ">") ++ s ++ ("</" ++ name ++ ">") := by
    simp only [Markup.tagged, String.append_assoc]
  refine ⟨?_, fun elements rest => ?_⟩
  · rw [parts, String.toList_append, String.toList_append]
    exact Place.walk_append (Place.walk_append start h.walk) stop
  · have closed : nested (tag.name :: elements) (.stop tag.name :: rest) =
        nested elements rest := by
      simp [nested]
    rw [StartTag.around, List.cons_append, List.append_assoc, nested, h.nests,
      List.singleton_append, closed]

theorem read?_eq {s : String} {pieces : List Piece} (h : Reads s pieces) :
    read? s = some pieces := by
  rw [read?, h.walk]

theorem nested_eq {s : String} {pieces : List Piece} (h : Reads s pieces) : nested [] pieces := by
  simpa [nested] using h.nests [] []

end Reads

end CiteStyle.Html
