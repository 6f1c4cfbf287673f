-- Tables written as lists of entries, with at most one entry under a name.
namespace CiteStyle

/-- Put a value under a name: in the place of the one that is there, or else last. -/
def putEntry [DecidableEq κ] (name : κ) (value : α) : List (κ × α) → List (κ × α)
  | [] => [(name, value)]
  | entry :: rest =>
    if entry.1 = name then (name, value) :: rest else entry :: putEntry name value rest

/-- The entries with every name once: of a repeated name the last value, at the place of
the first. -/
def lastWins (entries : List (String × α)) : List (String × α) :=
  entries.foldl (fun table entry => putEntry entry.1 entry.2 table) []

/-! ## Looking entries up -/

theorem mem_of_lookup [BEq κ] [LawfulBEq κ] {key : κ} {value : α} {entries : List (κ × α)}
    (h : entries.lookup key = some value) : (key, value) ∈ entries := by
  obtain ⟨before, after, rfl, -⟩ := List.lookup_eq_some_iff.mp h
  exact List.mem_append_right before List.mem_cons_self

theorem lookup_of_mem {entries : List (String × α)} {entry : String × α} (mem : entry ∈ entries) :
    ∃ value, entries.lookup entry.1 = some value := by
  rcases found : entries.lookup entry.1 with _ | value
  · rw [List.lookup_eq_none_iff] at found
    simpa using found entry mem
  · exact ⟨value, rfl⟩

theorem lookup_putEntry [DecidableEq κ] (name : κ) (value : α) (entries : List (κ × α)) (key : κ) :
    (putEntry name value entries).lookup key =
      if key = name then some value else entries.lookup key := by
  induction entries with
  | nil =>
    by_cases same : key = name
    · simp [putEntry, same]
    · simp [putEntry, List.lookup_cons, same, beq_eq_false_iff_ne.mpr same]
  | cons entry rest ih =>
    obtain ⟨other, old⟩ := entry
    unfold putEntry
    by_cases taken : other = name
    · by_cases same : key = name
      · simp [taken, same]
      · simp [List.lookup_cons, taken, same, beq_eq_false_iff_ne.mpr same]
    · by_cases same : key = other
      · simp [taken, same]
      · simp [List.lookup_cons, taken, beq_eq_false_iff_ne.mpr same, ih]

theorem mem_putEntry [DecidableEq κ] {name : κ} {value : α} {entries : List (κ × α)}
    {entry : κ × α} (mem : entry ∈ putEntry name value entries) :
    entry = (name, value) ∨ entry ∈ entries := by
  induction entries with
  | nil => exact .inl (List.mem_singleton.mp mem)
  | cons other rest ih =>
    unfold putEntry at mem
    split at mem
    · rcases List.mem_cons.mp mem with new | old
      · exact .inl new
      · exact .inr (List.mem_cons_of_mem other old)
    · rcases List.mem_cons.mp mem with rfl | further
      · exact .inr List.mem_cons_self
      · rcases ih further with new | old
        · exact .inl new
        · exact .inr (List.mem_cons_of_mem other old)

/-- A table whose values are changed throughout has the changed value under each name. -/
theorem lookup_map_values (f : α → β) (entries : List (String × α)) (name : String) :
    (entries.map fun entry => (entry.1, f entry.2)).lookup name = (entries.lookup name).map f := by
  induction entries with
  | nil => rfl
  | cons entry rest ih =>
    rw [List.map_cons, List.lookup_cons, List.lookup_cons, ih]
    cases name == entry.1 <;> rfl

/-- A table that keeps some of its names has the same values under them. -/
theorem lookup_filter_names (keep : String → Bool) (entries : List (String × α)) (name : String) :
    (entries.filter fun entry => keep entry.1).lookup name =
      if keep name then entries.lookup name else none := by
  induction entries with
  | nil => simp
  | cons entry rest ih =>
    obtain ⟨key, value⟩ := entry
    rw [List.filter_cons, List.lookup_cons]
    by_cases same : name = key
    · subst same
      by_cases kept : keep name
      · simp [kept]
      · simp [kept, ih]
    · have other : (name == key) = false := beq_eq_false_iff_ne.mpr same
      by_cases kept : keep key
      · simp [kept, List.lookup_cons, other, ih]
      · simp [kept, other, ih]

end CiteStyle
