-- Steps of the pass in a session. Whatever is done to the output on top, to an
-- output of its own or with a listener around it comes down to one step whose
-- result is then added to the output on top.
import CiteStyle.Render.Session

namespace CiteStyle

open Rendering Session

/-! ## Listeners -/

theorem Registration.tell_nil (r : Registration) : r.tell [] = r := by
  obtain ⟨listener, dismissed⟩ := r
  cases dismissed <;> rfl

theorem Registration.map_tell_nil (listeners : List Registration) :
    listeners.map (·.tell []) = listeners :=
  (List.map_congr_left fun r _ => r.tell_nil).trans (List.map_id listeners)

theorem Registration.tell_append (r : Registration) (before after : List Fetch) :
    r.tell (before ++ after) = (r.tell before).tell after := by
  obtain ⟨listener, dismissed⟩ := r
  cases dismissed
  · simp [Registration.tell, Listener.hearAll, List.foldl_append]
  · rfl

theorem Registration.dismissed_tell (r : Registration) (fetches : List Fetch) :
    (r.tell fetches).dismissed = r.dismissed := by
  unfold Registration.tell
  split <;> rfl

theorem Listener.hearAll_counting (fetches : List Fetch) (called empty : Nat) :
    (Listener.counting called empty).hearAll fetches =
      .counting (called + fetches.length) (empty + fetches.countP (!·.found)) := by
  induction fetches generalizing called empty with
  | nil => rfl
  | cons fetch rest ih =>
    have step : (Listener.counting called empty).hearAll (fetch :: rest) =
        (Listener.counting (called + 1) (if fetch.found then empty else empty + 1)).hearAll rest :=
      rfl
    rw [step, ih, List.length_cons, List.countP_cons]
    cases fetch.found <;> simp <;> omega

/-- A counting listener hears just what a group goes by. -/
theorem Listener.allEmpty_hearAll (fetches : List Fetch) :
    ((Listener.counting 0 0).hearAll fetches).allEmpty = Fetch.allEmpty fetches := by
  rw [Listener.hearAll_counting]
  have all : (fetches.length == fetches.countP (!·.found)) = fetches.all (!·.found) := by
    rw [Bool.eq_iff_iff, beq_iff_eq, eq_comm, List.countP_eq_length, List.all_eq_true]
  have some : decide (0 < fetches.length) = !fetches.isEmpty := by
    cases fetches <;> simp
  simp only [Listener.allEmpty, Nat.zero_add, some, all, Fetch.allEmpty]

theorem Listener.hearAll_collecting (fetches : List Fetch) (names : List String) :
    (Listener.collecting names).hearAll fetches =
      .collecting (fetches.foldl Fetch.addName names) := by
  induction fetches generalizing names with
  | nil => rfl
  | cons fetch rest ih => exact ih (Fetch.addName names fetch)

/-- A collecting listener hears just the names that a substitute suppresses. -/
theorem Listener.names_hearAll (fetches : List Fetch) :
    ((Listener.collecting []).hearAll fetches).names = Fetch.names fetches := by
  rw [Listener.hearAll_collecting]
  rfl

/-! ## Items with delimiters -/

theorem Buffer.joinWith_append (delimiter : String) (first second : Buffer) (rest : List Buffer) :
    Buffer.joinWith delimiter ((first ++ Buffer.ofText .delimiter delimiter ++ second) :: rest) =
      Buffer.joinWith delimiter (first :: second :: rest) := by
  cases rest with
  | nil => rfl
  | cons third rest => simp only [Buffer.joinWith, List.append_assoc]

theorem Buffer.foldl_appendItem (delimiter : String) (items : List Buffer) (b : Buffer) :
    items.foldl (Buffer.appendItem delimiter) b = Buffer.joinFilled delimiter (b :: items) := by
  induction items generalizing b with
  | nil => cases b <;> rfl
  | cons item rest ih =>
    rw [List.foldl_cons, ih]
    cases item with
    | nil => rfl
    | cons t item =>
      cases b with
      | nil => rfl
      | cons u b =>
        exact Buffer.joinWith_append delimiter (u :: b) (t :: item) (rest.filter (!·.isEmpty))

/-! ## Steps in place -/

namespace Session

/-- Take a step of the pass, and change the output on top by what it gives. -/
def editBy (change : α → Buffer → Buffer) (x : Setting → Rendering α) : StateM Session Unit := do
  edit (change (← perform x))

/-- Take a step of the pass, and add the items that it gives. -/
def outputItems (delimiter : String) (x : Setting → Rendering (List Buffer)) :
    StateM Session Unit :=
  editBy (fun items b => items.foldl (Buffer.appendItem delimiter) b) x

/-- A session once some look-ups are told, and the pass remembers something new. -/
def told (session : Session) (fetches : List Fetch) (pass : Pass) : Session :=
  { session with pass, listeners := session.listeners.map (·.tell fetches) }

theorem perform_apply (x : Setting → Rendering α) (session : Session) :
    perform x session =
      let effect := x session.topSetting session.pass
      (effect.1, session.told effect.2.1 effect.2.2) := rfl

theorem told_nil (session : Session) : session.told [] session.pass = session := by
  unfold told
  rw [Registration.map_tell_nil]

theorem told_told (session : Session) (before after : List Fetch) (p q : Pass) :
    (session.told before p).told after q = session.told (before ++ after) q := by
  have both : (session.listeners.map (·.tell before)).map (·.tell after) =
      session.listeners.map (·.tell (before ++ after)) := by
    rw [List.map_map]
    exact List.map_congr_left fun r _ => (r.tell_append before after).symm
  unfold told
  rw [both]

/-- Telling neither dismisses a listener nor moves one. -/
theorem dismissed_told (session : Session) (fetches : List Fetch) (pass : Pass) :
    (session.told fetches pass).listeners.map (·.dismissed) =
      session.listeners.map (·.dismissed) := by
  unfold told
  rw [List.map_map]
  exact List.map_congr_left fun r _ => r.dismissed_tell fetches

theorem perform_pure (f : Setting → α) :
    perform (fun s => pure (f s)) = do return f (← get).topSetting := by
  funext session
  show (f session.topSetting, session.told [] session.pass) = (f session.topSetting, session)
  rw [told_nil]

theorem perform_bind (x : Setting → Rendering α) (f : α → Setting → Rendering β) :
    (do perform (f (← perform x))) = perform fun s => x s >>= (f · s) := by
  funext session
  rcases h : x session.topSetting session.pass with ⟨a, before, p⟩
  rcases h' : f a session.topSetting p with ⟨b, after, q⟩
  have second : f a (session.told before p).topSetting (session.told before p).pass =
      (b, after, q) := h'
  show perform (f (perform x session).1) (perform x session).2 = _
  simp only [perform_apply, bind_apply, h, h', second, told_told]

theorem perform_map (x : Setting → Rendering α) (f : α → β) :
    (do return f (← perform x)) = perform fun s => f <$> x s := by
  funext session
  unfold perform
  simp only [map_apply]
  rfl

theorem perform_editBy (x : Setting → Rendering α) (change : β → Buffer → Buffer)
    (f : α → Setting → Rendering β) :
    (do editBy change (f (← perform x))) = editBy change fun s => x s >>= (f · s) := by
  unfold editBy
  rw [← perform_bind, bind_assoc]

theorem editBy_pure (change : α → Buffer → Buffer) (f : Setting → α) :
    editBy change (fun s => pure (f s)) = (do edit (change (f (← get).topSetting))) := by
  unfold editBy
  rw [perform_pure]
  rfl

theorem editBy_nil {change : List α → Buffer → Buffer} (nil : ∀ b, change [] b = b) :
    editBy change (fun _ => return []) = return () := by
  rw [editBy_pure]
  funext session
  show ((), { session with top.output := change [] session.top.output }) = ((), session)
  rw [nil]

theorem edit_edit (f g : Buffer → Buffer) : (do edit f; edit g) = edit fun b => g (f b) := rfl

theorem editBy_append {change : List α → Buffer → Buffer}
    (append : ∀ first others b, change (first ++ others) b = change others (change first b))
    (x y : Setting → Rendering (List α)) :
    (do editBy change x; editBy change y) =
      editBy change fun s => return (← x s) ++ (← y s) := by
  -- A step does not look at the output on top, so the first change can wait for the second.
  calc (do editBy change x; editBy change y)
    _ = (do
          let first ← perform x
          let others ← perform y
          edit (change first)
          edit (change others)) := rfl
    _ = (do
          let first ← perform x
          edit (change (← perform fun s => (first ++ ·) <$> y s))) := by
        simp only [edit_edit, ← append, ← perform_map, bind_assoc, pure_bind]
    _ = editBy change fun s => return (← x s) ++ (← y s) := by
        rw [← perform_editBy]
        simp only [map_eq_pure_bind]
        rfl

/-! ## Outputs and listeners -/

/-- What is added to a new output does not hang on the output below. -/
theorem inChild_editBy (change : α → Buffer → Buffer) (x : Setting → Rendering α) :
    inChild (editBy change x) = perform fun s => (change · []) <$> x s := by
  rw [← perform_map]
  rfl

theorem decorated_perform (d : Decoration) {work : StateM Session Unit}
    {x : Setting → Rendering Buffer} (within : inChild work = perform x) :
    decorated d work = output fun s => d.apply s.locale <$> x s := by
  unfold decorated output
  rw [within]
  funext session
  unfold perform
  simp only [map_apply]
  rfl

/-- A session that one more listener hears. -/
def joined (session : Session) (l : Listener) : Session :=
  { session with listeners := session.listeners ++ [⟨l, false⟩] }

theorem told_joined (session : Session) (l : Listener) (fetches : List Fetch) (pass : Pass) :
    (session.joined l).told fetches pass =
      (session.told fetches pass).joined (l.hearAll fetches) := by
  unfold told joined
  simp only [List.map_append]
  rfl

/-- The listener that came last is taken away without a trace. -/
theorem withdraw_joined (session : Session) (l : Listener) :
    withdraw session.listeners.length (session.joined l) = (some l, session) := by
  unfold withdraw joined
  simp only [List.getElem?_concat_length, Option.map_some,
    List.eraseIdx_append_of_length_le (Nat.le_refl _), Nat.sub_self, List.eraseIdx_zero,
    List.tail_cons, List.append_nil]

theorem hearing_apply (l : Listener) (work : StateM Session α) (session : Session) :
    hearing l work session =
      let done := work (session.joined l)
      let rest := withdraw session.listeners.length done.2
      ((rest.1.getD l, done.1), rest.2) := rfl

/-- A listener hears what a step looks up, and nothing else. -/
theorem hearing_perform (l : Listener) (x : Setting → Rendering α) :
    hearing l (perform x) = perform fun s => do
      let (a, fetches) ← listening (x s)
      return (l.hearAll fetches, a) := by
  funext session
  rcases h : x session.topSetting session.pass with ⟨a, fetches, pass⟩
  have step : perform x (session.joined l) =
      (a, (session.told fetches pass).joined (l.hearAll fetches)) := by
    have same : x (session.joined l).topSetting (session.joined l).pass = (a, fetches, pass) := h
    rw [perform_apply, same, ← told_joined]
  have number : session.listeners.length = (session.told fetches pass).listeners.length :=
    (List.length_map _).symm
  have heard : hearing l (perform x) session =
      ((l.hearAll fetches, a), session.told fetches pass) := by
    simp only [hearing_apply, step, number, withdraw_joined, Option.getD_some]
  rw [heard, perform_apply]
  simp only [listening, bind_apply, pure_apply, h, List.append_nil]

/-! ## Adding output -/

/-- A session once something is added to its output on top, some look-ups are told, and the pass
remembers something new. -/
def appended (session : Session) (effect : Buffer × List Fetch × Pass) : Session :=
  { session.told effect.2.1 effect.2.2 with top.output := session.top.output ++ effect.1 }

theorem output_apply (x : Setting → Rendering Buffer) (session : Session) :
    output x session = ((), session.appended (x session.topSetting session.pass)) := rfl

theorem output_congr {x y : Setting → Rendering Buffer} {session : Session}
    (same : x session.topSetting = y session.topSetting) : output x session = output y session := by
  rw [output_apply, output_apply, same]

theorem editBy_map (change : β → Buffer → Buffer) (f : α → β) (x : Setting → Rendering α) :
    editBy change (fun s => f <$> x s) = editBy (fun a => change (f a)) x := by
  unfold editBy
  rw [← perform_map, bind_assoc]
  simp only [pure_bind]

theorem output_nil : output (fun _ => return []) = return () := editBy_nil List.append_nil

theorem output_append (x y : Setting → Rendering Buffer) :
    (do output x; output y) = output fun s => return (← x s) ++ (← y s) :=
  editBy_append (fun first others b => (List.append_assoc b first others).symm) x y

theorem perform_output (x : Setting → Rendering α) (f : α → Setting → Rendering Buffer) :
    (do output (f (← perform x))) = output fun s => x s >>= (f · s) :=
  perform_editBy x _ f

theorem emit_setting (f : Setting → Buffer) :
    (do emit (f (← get).topSetting)) = output fun s => return f s :=
  (editBy_pure (fun added b => b ++ added) f).symm

theorem emit_eq (b : Buffer) : emit b = output fun _ => return b := emit_setting fun _ => b

theorem emit_unless (silent : Bool) (b : Buffer) :
    (if silent then return () else emit b) =
      output fun _ => return if silent then [] else b := by
  cases silent
  · exact emit_eq b
  · exact output_nil.symm

theorem perform_emit (x : Rendering Unit) (b : Buffer) :
    (do
        perform fun _ => x
        emit b) =
      output fun _ => do
        x
        return b := by
  rw [emit_eq]
  exact perform_output (fun _ => x) fun _ _ => return b

theorem inChild_output (x : Setting → Rendering Buffer) : inChild (output x) = perform x := by
  have same : output x = editBy (fun added b => b ++ added) x := rfl
  rw [same, inChild_editBy]
  simp only [List.nil_append, id_map']

theorem outputItems_nil (delimiter : String) :
    outputItems delimiter (fun _ => return []) = return () := editBy_nil fun _ => rfl

theorem outputItems_append (delimiter : String) (x y : Setting → Rendering (List Buffer)) :
    (do outputItems delimiter x; outputItems delimiter y) =
      outputItems delimiter fun s => return (← x s) ++ (← y s) :=
  editBy_append (fun _ _ _ => List.foldl_append) x y

theorem perform_outputItems (delimiter : String) (x : Setting → Rendering α)
    (f : α → Setting → Rendering (List Buffer)) :
    (do outputItems delimiter (f (← perform x))) =
      outputItems delimiter fun s => x s >>= (f · s) :=
  perform_editBy x _ f

theorem emitItem_perform (delimiter : String) (x : Setting → Rendering Buffer) :
    (do emitItem delimiter (← perform x)) =
      outputItems delimiter fun s => (fun b => [b]) <$> x s := by
  unfold outputItems
  rw [editBy_map]
  rfl

/-- What is added may go by what a listener has heard. -/
theorem hearing_output (l : Listener) (x : Setting → Rendering α)
    (f : Listener × α → Setting → Rendering Buffer) :
    (do output (f (← hearing l (perform x)))) =
      output fun s => listening (x s) >>= fun heard => f (l.hearAll heard.2, heard.1) s := by
  rw [hearing_perform, perform_output]
  simp only [bind_assoc, pure_bind]

/-- Items that are added one by one to a new output are joined there. -/
theorem inChild_outputItems (delimiter : String) (x : Setting → Rendering (List Buffer)) :
    inChild (outputItems delimiter x) =
      perform fun s => Buffer.joinFilled delimiter <$> x s := by
  unfold outputItems
  rw [inChild_editBy]
  simp only [Buffer.foldl_appendItem]
  rfl

/-- What stands in the place of an empty output is all that is added. -/
theorem inChild_orElse (x y : Setting → Rendering Buffer) :
    inChild (do output x; if ← isBlank then output y) =
      perform fun s => do
        let b ← x s
        if b.isEmpty then y s else return b := by
  calc inChild (do output x; if ← isBlank then output y)
    _ = (do
          let b ← perform x
          inChild (do emit b; if ← isBlank then output y)) := rfl
    _ = (do
          let b ← perform x
          perform fun s => if b.isEmpty then y s else return b) := by
        refine bind_congr fun b => ?_
        cases b with
        | nil => exact inChild_output y
        | cons t b =>
          have filled : ¬(t :: b).isEmpty = true := by simp
          simp only [if_neg filled, perform_pure]
          rfl
    _ = perform _ := perform_bind x _

end Session

end CiteStyle
