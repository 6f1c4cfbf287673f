-- What is rendered shows something, or is nothing at all. This holds as long as
-- no periods are stripped from output that is decorated already: there they can
-- be all that stands between the marks of a display group, and the marks stay.
import CiteStyle.Proofs.FilledOutput

namespace CiteStyle

/-! ## Tokens -/

namespace Token

/-- A mark where a display group starts or ends. -/
def isMark : Token → Bool
  | .text .. => false
  | .displayStart _ | .displayEnd _ => true

/-- What is trimmed off is an affix. -/
theorem isOfKind_of_isProper {t : Token} (proper : t.isProper) :
    t.isOfKind .before = false ∧ t.isOfKind .behind = false := by
  obtain ⟨kind, s, formatting, rfl, -, before, behind⟩ := isProper_iff.mp proper
  simp [isOfKind, before, behind]

theorem isProper_mapText {t : Token} (proper : t.isProper) (f : String → String)
    (kept : (t.mapText f).isEmptyText = false) : (t.mapText f).isProper := by
  obtain ⟨kind, s, formatting, rfl, -, before, behind⟩ := isProper_iff.mp proper
  have filled : f s ≠ "" := by simpa [mapText, isEmptyText] using kept
  exact isProper_iff.mpr ⟨kind, f s, formatting, rfl, filled, before, behind⟩

theorem isProper_wrap (t : Token) (outer : Formatting) : (t.wrap outer).isProper = t.isProper := by
  cases t <;> rfl

end Token

namespace Buffer

/-! ## Outputs without text -/

theorem plainText_eq_empty {b : Buffer} : b.plainText = "" ↔ ∀ t ∈ b, t.content = "" := by
  unfold plainText
  induction b with
  | nil => simp [String.join]
  | cons t rest ih => simp [String.join_cons, String.append_eq_empty_iff, ih]

/-- Where no text is empty, only marks show nothing. -/
theorem NoEmptyText.plainText_eq_empty {b : Buffer} (h : b.NoEmptyText) :
    b.plainText = "" ↔ ∀ t ∈ b, t.isMark := by
  rw [Buffer.plainText_eq_empty]
  refine forall₂_congr fun t mem => ?_
  have filled := h t mem
  cases t with
  | text kind s formatting => simpa [Token.content, Token.isMark, Token.isEmptyText] using filled
  | displayStart d | displayEnd d => simp [Token.content, Token.isMark]

/-! ## Outputs that show something -/

/-- An output is empty, or holds a text that is no affix. -/
def Shows (b : Buffer) : Prop := b = [] ∨ ∃ t ∈ b, t.isProper

theorem Shows.blank {b : Buffer} (h : b.Shows) : b = [] ↔ b.plainText = "" := by
  rw [Buffer.plainText_eq_empty]
  constructor
  · rintro rfl
    simp
  · intro blank
    rcases h with empty | ⟨t, mem, proper⟩
    · exact empty
    · obtain ⟨kind, s, formatting, rfl, filled, -, -⟩ := Token.isProper_iff.mp proper
      exact absurd (blank _ mem) filled

theorem shows_of_isProper {b : Buffer} (h : b.all (·.isProper)) : b.Shows := by
  cases b with
  | nil => exact .inl rfl
  | cons t rest =>
    rw [List.all_cons, Bool.and_eq_true] at h
    exact .inr ⟨t, List.mem_cons_self, h.1⟩

/-- More output around what is there does no harm. -/
theorem Shows.within {b : Buffer} (h : b.Shows) {outer : Buffer} (inside : ∀ t ∈ b, t ∈ outer)
    (empty : b = [] → outer = []) : outer.Shows := by
  rcases h with none | ⟨t, mem, proper⟩
  · exact .inl (empty none)
  · exact .inr ⟨t, inside t mem, proper⟩

theorem Shows.append {a b : Buffer} (ha : a.Shows) (hb : b.Shows) : (a ++ b).Shows := by
  rcases ha with rfl | ⟨t, mem, proper⟩
  · exact hb
  · exact .inr ⟨t, List.mem_append_left b mem, proper⟩

theorem Shows.trimLast {b : Buffer} (h : b.Shows) : (b.trimLast .behind).2.Shows := by
  unfold Buffer.trimLast
  split
  · rename_i last found
    split
    · rename_i affix
      obtain ⟨before, rfl⟩ := List.getLast?_eq_some_iff.mp found
      rcases h with none | ⟨t, mem, proper⟩
      · simp at none
      · rw [List.dropLast_concat]
        rcases List.mem_append.mp mem with mem | mem
        · exact .inr ⟨t, mem, proper⟩
        · obtain rfl := List.mem_singleton.mp mem
          simp [(Token.isOfKind_of_isProper proper).2] at affix
    · exact h
  · exact h

theorem Shows.trimFirst {b : Buffer} (h : b.Shows) : (b.trimFirst .before).2.Shows := by
  unfold Buffer.trimFirst
  split
  · rename_i first rest
    split
    · rename_i affix
      rcases h with none | ⟨t, mem, proper⟩
      · simp at none
      · rcases List.mem_cons.mp mem with rfl | mem
        · simp [(Token.isOfKind_of_isProper proper).1] at affix
        · exact .inr ⟨t, mem, proper⟩
    · exact h
  · exact h

/-! ## Decorations -/

theorem all_isProper_mapText {b : Buffer} (h : b.all (·.isProper)) (f : String → String) :
    (b.mapText f).all (·.isProper) := by
  rw [List.all_eq_true] at h ⊢
  intro t mem
  obtain ⟨mem, kept⟩ := List.mem_filter.mp mem
  obtain ⟨u, inside, rfl⟩ := List.mem_map.mp mem
  exact Token.isProper_mapText (h u inside) f (by simpa using kept)

theorem Shows.wrap {b : Buffer} (h : b.Shows) (outer : Formatting) : (b.wrap outer).Shows := by
  rcases h with rfl | ⟨t, mem, proper⟩
  · exact .inl rfl
  · exact .inr ⟨t.wrap outer, List.mem_map_of_mem mem, by rwa [Token.isProper_wrap]⟩

theorem Shows.changeCase {b : Buffer} (h : b.Shows) (locale : Locale) (textCase : TextCase) :
    (b.changeCase locale textCase).Shows := by
  rcases h with rfl | ⟨t, mem, proper⟩
  · exact .inl rfl
  · have kept : (t.mapText (textCase.apply (locale.language == "en"))).isEmptyText = false := by
      obtain ⟨kind, s, formatting, rfl, filled, -, -⟩ := Token.isProper_iff.mp proper
      simpa [Token.mapText, Token.isEmptyText] using textCase.apply_ne_empty _ filled
    exact .inr ⟨_, List.mem_filter.mpr ⟨List.mem_map_of_mem mem, by simp [kept]⟩,
      Token.isProper_mapText proper _ kept⟩

theorem Shows.between {b : Buffer} (h : b.Shows) (first last : TokenKind) (s t : String) :
    (if b.isEmpty then b else (b.prependText first s).appendText last t).Shows := by
  split
  · exact h
  · rename_i filled
    refine h.within (fun t mem => ?_) fun empty => absurd (List.isEmpty_iff.mpr empty) filled
    exact List.mem_append_left _ (List.mem_append_right _ mem)

theorem Shows.frame {b : Buffer} (h : b.Shows) (d : Display) : (d.frame b).Shows := by
  unfold Display.frame
  split
  · exact h
  · rename_i filled
    refine h.within (fun t mem => ?_) fun empty => absurd (List.isEmpty_iff.mpr empty) filled
    exact List.mem_append_left _ (List.mem_cons_of_mem _ mem)

/-- Of the parts of a decoration, only that which strips periods can take a text away. -/
theorem Shows.applyStage {b : Buffer} (h : b.Shows) (locale : Locale) {d : Decoration}
    {stage : Decoration.Stage} (kept : stage = .stripPeriods → d.stripPeriods = false) :
    (d.applyStage locale b stage).Shows := by
  cases stage with
  | formatting => exact h.wrap d.formatting
  | stripPeriods =>
    show (if d.stripPeriods then b.stripPeriods else b).Shows
    rwa [kept rfl]
  | textCase =>
    show (Decoration.applyTo (Buffer.changeCase locale) d.textCase b).Shows
    unfold Decoration.applyTo
    split
    · exact h.changeCase locale _
    · exact h
  | quotes =>
    show (if d.quotes then b.quoted locale else b).Shows
    split
    · exact h.between _ _ _ _
    · exact h
  | affixes => exact h.between _ _ _ _
  | display =>
    show (Decoration.applyTo Display.frame d.display b).Shows
    unfold Decoration.applyTo
    split
    · exact h.frame _
    · exact h

theorem Shows.apply {b : Buffer} (h : b.Shows) (locale : Locale) {d : Decoration}
    (kept : d.stripPeriods = false) : (d.apply locale b).Shows :=
  Decoration.apply_keeps (fun _ _ h => h.applyStage locale fun _ => kept) h

/-- Mere texts may be stripped as well: what is empty then is dropped before anything is put
around it. -/
theorem shows_apply_texts (locale : Locale) (d : Decoration) {b : Buffer}
    (h : b.all (·.isProper)) : (d.apply locale b).Shows := by
  have wrapped : (d.applyStage locale b .formatting).all (·.isProper) := by
    show (b.map _).all _
    rw [List.all_map]
    simpa only [Function.comp_def, Token.isProper_wrap] using h
  have stripped {c : Buffer} (hc : c.all (·.isProper)) :
      (d.applyStage locale c .stripPeriods).all (·.isProper) := by
    show (if d.stripPeriods then c.stripPeriods else c).all (·.isProper)
    split
    · exact all_isProper_mapText hc _
    · exact hc
  have rest (stage : Decoration.Stage) (other : stage ≠ .stripPeriods) {c : Buffer} (hc : c.Shows) :
      (d.applyStage locale c stage).Shows :=
    hc.applyStage locale fun same => absurd same other
  have cased := rest .textCase (by simp) (shows_of_isProper (stripped wrapped))
  exact rest .display (by simp) (rest .affixes (by simp) (rest .quotes (by simp) cased))

/-- That an output shows something is a law of output, as long as nothing is stripped of periods
that is decorated already. -/
theorem shows_law : OutputLaw Shows fun d => d.stripPeriods = false where
  nil := .inl rfl
  append := Shows.append
  token proper := .inr ⟨_, List.mem_singleton_self _, proper⟩
  trimLast h := h.trimLast
  trimFirst h := h.trimFirst
  affixes _ _ h := h.between _ _ _ _
  texts locale d _ h := shows_apply_texts locale d h
  decorated locale _ _ kept h := h.apply locale kept

end Buffer

/-! ## Elements -/

namespace Element

/-- An element whose output has no text gives nothing but marks, and gives nothing at all unless
periods are stripped from what is decorated already. -/
theorem render_blank_iff (s : Setting) (e : Element) (p : Pass) :
    let b := (render s e p).1
    (b.plainText = "" ↔ ∀ t ∈ b, t.isMark) ∧
      ((∀ d ∈ e.overlays, d.stripPeriods = false) →
        (∀ m ∈ s.macros, ∀ d ∈ overlaysOf m.2, d.stripPeriods = false) →
          (b = [] ↔ b.plainText = "")) := by
  refine ⟨?_, fun own macros => ?_⟩
  · have handed : Handed (render s e p).1 := .elements s s.callDepth [e] p
    exact handed.noEmptyText.plainText_eq_empty
  · have kept : ∀ d ∈ overlaysOf [e], d.stripPeriods = false := by
      simpa only [overlaysOf, List.append_nil] using own
    have shows := Buffer.shows_law.gives_renderWithin macros s.callDepth kept p
    exact shows.blank

/-- A setting with one macro, which gives a period in a display group. -/
def blockSetting : Setting where
  record := {}
  locale := Locale.english
  macros := [("stop", [.text ⟨.value ".", { display := some .block }⟩])]
  callDepth := 1

theorem render_blank_iff_block :
    let call := Element.text ⟨.call "stop", {}⟩
    let b := (render blockSetting call {}).1
    (∀ d ∈ call.overlays, d.stripPeriods = false) ∧
      (∀ m ∈ blockSetting.macros, ∀ d ∈ overlaysOf m.2, d.stripPeriods = false) ∧
      (b = [] ↔ b.plainText = "") := by
  have own : ∀ d ∈ (Element.text ⟨.call "stop", {}⟩).overlays, d.stripPeriods = false := by decide
  have macros : ∀ m ∈ blockSetting.macros, ∀ d ∈ overlaysOf m.2, d.stripPeriods = false := by
    decide
  exact ⟨own, macros, (render_blank_iff blockSetting _ {}).2 own macros⟩

/-- Stripped of its period, the display group is still there, and is put in affixes. -/
theorem render_strips_to_marks :
    let stripped := (render blockSetting (.text ⟨.call "stop", { stripPeriods := true }⟩) {}).1
    let enclosed := (render blockSetting
      (.text ⟨.call "stop", { stripPeriods := true, affixes := ⟨"(", ")"⟩ }⟩) {}).1
    (stripped = [.displayStart .block, .displayEnd .block] ∧ stripped.plainText = "") ∧
      enclosed.plainText = "()" := by
  decide

end Element

end CiteStyle
