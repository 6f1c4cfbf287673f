-- Names in JSON.
import CiteStyle.Json.Fields
import CiteStyle.Name.Basic

namespace CiteStyle.Name

/-- The names of the fields, in order. -/
def fieldNames : List String :=
  ["family", "given", "dropping-particle", "non-dropping-particle", "suffix", "literal"]

/-- The name that a value writes, if it writes one. -/
def ofJson? (value : Json) : Option Name := do
  let fields ← value.knownFields? fieldNames
  let text (name : String) := Json.optionalText? .strict (fields.lookup name)
  return { family := ← text "family", given := ← text "given",
           droppingParticle := ← text "dropping-particle",
           nonDroppingParticle := ← text "non-dropping-particle",
           ending := ← text "suffix", literal := ← text "literal" }

/-- The names that a value writes, if it is a list of names. -/
def listOfJson? : Json → Option (List Name)
  | .array items => items.mapM ofJson?
  | _ => none

/-- The value that writes a name. What is not set is left out. -/
def toJson (n : Name) : Json :=
  let text (name : String) (value : Option String) : List (String × Json) :=
    (value.map fun s => (name, Json.text s)).toList
  .object (text "family" n.family ++ text "given" n.given
    ++ text "dropping-particle" n.droppingParticle
    ++ text "non-dropping-particle" n.nonDroppingParticle
    ++ text "suffix" n.ending ++ text "literal" n.literal)

end CiteStyle.Name
