-- Reading pages: a list such as 10-20, 30--40, 45 with any run of hyphens or
-- en dashes between two pages, and ?? for a page that is not known.
import CiteStyle.Pages.Basic
import CiteStyle.Text.Cut

namespace CiteStyle.Pages

open Text

/-! ## Pieces -/

/-- The page at the start of a text, and what follows it. -/
def pageAt? : List Char → Option (List Char × List Char)
  | '?' :: '?' :: rest => some (['?', '?'], rest)
  | cs =>
    if (cs.takeWhile isAlphanumeric).isEmpty then none
    else some (cs.takeWhile isAlphanumeric, cs.dropWhile isAlphanumeric)

/-- A hyphen or an en dash. -/
def isDash (c : Char) : Bool := c == '-' || c == '–'

/-- The dashes at the start of a text with the spaces around them, and what follows. -/
def dashAt? (cs : List Char) : Option (List Char × List Char) :=
  let before := cs.takeWhile isSpaceOrTab
  let fromDash := cs.dropWhile isSpaceOrTab
  let afterDash := fromDash.dropWhile isDash
  if (fromDash.takeWhile isDash).isEmpty then none
  else
    some (before ++ fromDash.takeWhile isDash ++ afterDash.takeWhile isSpaceOrTab,
      afterDash.dropWhile isSpaceOrTab)

/-- What follows a comma with the spaces around it. -/
def commaAt? (cs : List Char) : Option (List Char) :=
  match cs.dropWhile isSpaceOrTab with
  | ',' :: rest => some (rest.dropWhile isSpaceOrTab)
  | _ => none

/-! ## Ranges -/

/-- The page that is not known. -/
def unknownPage : List Char := ['?', '?']

/-- A single page. -/
def Range.ofPage (page : List Char) : Range :=
  let text := String.ofList page
  ⟨text, some (text, text), (readNat? maxUnsigned32 page).map fun _ => 1, false⟩

/-- How many pages lie from one to another, if both are numbers in order. -/
def span? (first last : List Char) : Option Nat :=
  match readNat? maxUnsigned32 first, readNat? maxUnsigned32 last with
  | some f, some l => if f ≤ l ∧ l - f + 1 ≤ maxUnsigned32 then some (l - f + 1) else none
  | _, _ => none

/-- A range from one page to another with `dash` between them. A range with an
unknown end keeps its spelling. -/
def Range.ofEnds (first dash last : List Char) : Range :=
  let ends := some (String.ofList first, String.ofList last)
  if first = unknownPage ∨ last = unknownPage then
    ⟨String.ofList (first ++ dash ++ last), ends, none, true⟩
  else if first = last then ⟨String.ofList first, ends, span? first last, true⟩
  else ⟨String.ofList (first ++ '-' :: last), ends, span? first last, true⟩

/-- The page or range at the start of a text, and what follows it. -/
def rangeAt? (cs : List Char) : Option (Range × List Char) :=
  match pageAt? cs with
  | none => none
  | some (first, rest) =>
    match dashAt? rest with
    | none => some (.ofPage first, rest)
    | some (dash, after) =>
      match pageAt? after with
      | none => some (.ofPage first, rest)
      | some (last, rest') => some (.ofEnds first dash last, rest')

/-! ## Every step uses up text -/

theorem length_lt_of_pageAt? {cs page rest : List Char} (h : pageAt? cs = some (page, rest)) :
    rest.length < cs.length := by
  unfold pageAt? at h
  split at h
  · simp only [Option.some.injEq, Prod.mk.injEq] at h
    obtain ⟨_, rfl⟩ := h
    simp only [List.length_cons]
    omega
  · split at h
    · contradiction
    · next hd =>
      simp only [Option.some.injEq, Prod.mk.injEq] at h
      obtain ⟨_, rfl⟩ := h
      have h1 := congrArg List.length
        (List.takeWhile_append_dropWhile (p := isAlphanumeric) (l := cs))
      rw [List.length_append] at h1
      have h2 : 0 < (cs.takeWhile isAlphanumeric).length := by
        rw [List.length_pos_iff]
        simpa using hd
      omega

theorem length_le_of_dashAt? {cs dash rest : List Char} (h : dashAt? cs = some (dash, rest)) :
    rest.length ≤ cs.length := by
  simp only [dashAt?] at h
  split at h
  · contradiction
  · simp only [Option.some.injEq, Prod.mk.injEq] at h
    obtain ⟨_, rfl⟩ := h
    exact ((List.dropWhile_sublist _).trans
      ((List.dropWhile_sublist _).trans (List.dropWhile_sublist _))).length_le

theorem length_lt_of_commaAt? {cs rest : List Char} (h : commaAt? cs = some rest) :
    rest.length < cs.length := by
  unfold commaAt? at h
  split at h
  · next r hr =>
    simp only [Option.some.injEq] at h
    subst h
    have h1 := (List.dropWhile_sublist isSpaceOrTab (l := cs)).length_le
    have h2 := (List.dropWhile_sublist isSpaceOrTab (l := r)).length_le
    rw [hr, List.length_cons] at h1
    omega
  · contradiction

theorem length_lt_of_rangeAt? {cs rest : List Char} {r : Range}
    (h : rangeAt? cs = some (r, rest)) : rest.length < cs.length := by
  unfold rangeAt? at h
  split at h
  · contradiction
  · next first rest' h1 =>
    have l1 := length_lt_of_pageAt? h1
    split at h
    · simp only [Option.some.injEq, Prod.mk.injEq] at h
      exact h.2 ▸ l1
    · next dash after h2 =>
      have l2 := length_le_of_dashAt? h2
      split at h
      · simp only [Option.some.injEq, Prod.mk.injEq] at h
        exact h.2 ▸ l1
      · next h3 =>
        have l3 := length_lt_of_pageAt? h3
        simp only [Option.some.injEq, Prod.mk.injEq] at h
        rw [← h.2]
        omega

/-! ## The whole text -/

/-- The ranges of a text that is a list of ranges from start to end. -/
def ranges? (cs : List Char) : Option (List Range) :=
  match _h : rangeAt? cs with
  | none => none
  | some (r, []) => some [r]
  | some (r, c :: rest) =>
    match _h' : commaAt? (c :: rest) with
    | none => none
    | some after => (ranges? after).map (r :: ·)
termination_by cs.length
decreasing_by
  have := length_lt_of_rangeAt? _h
  have := length_lt_of_commaAt? _h'
  omega

/-- Read pages. A text that is no list of ranges is one range that holds the text
as it is. -/
def read (text : String) : List Range :=
  (ranges? (trimChars text.toList)).getD [.ofText text]

end CiteStyle.Pages
