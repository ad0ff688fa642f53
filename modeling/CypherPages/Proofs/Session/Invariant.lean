import CypherPages.Proofs.Session.History

/-! # The invariant of sessions

A session tracks its history: its page is the page that the history leaves, and the token of
each of its runs is the number of the runs on the same block up to it. Each step preserves
this, so it holds in every session that steps can reach. -/

namespace CypherPages

/-- The session after steps taken one after the other. -/
def Session.after (runner : Runner) (session : Session) (steps : List Session.Step) : Session :=
  steps.foldl (Session.step runner) session

/-- A run of a session is the run that its history remembers behind the runs `earlier`. -/
structure Run.Matches (runner : Runner) (page : Page) (earlier : List PastRun) (past : PastRun)
    (run : Run) (block : QueryBlock) : Prop where
  getElem? : page.blocks[past.block]? = some block
  block_eq : run.block = past.block
  token_eq : run.token =
    block.resultRegion.generation + (PastRun.replies earlier past.block).length + 1
  submission_eq : run.submission = runner.submission block page.defaultEndpoint?
  arrived_eq : run.arrived = past.reply.isSome

/-- A reply to any run leaves the tokens of all runs what they were. -/
theorem Run.Matches.modify_answer {runner : Runner} {page : Page} {runs : List PastRun}
    {place : ℕ} {past : PastRun} {run : Run} {block : QueryBlock}
    (h : run.Matches runner page (runs.take place) past block) (index : ℕ) (reply : Reply) :
    run.Matches runner page ((runs.modify index fun past => past.answer reply).take place)
      past block := by
  refine ⟨h.getElem?, h.block_eq, ?_, h.submission_eq, h.arrived_eq⟩
  rw [List.take_modify, PastRun.length_replies_modify_answer]
  exact h.token_eq

/-- A session on a page agrees with its history. -/
structure Session.Tracks (runner : Runner) (page : Page) (history : History)
    (session : Session) : Prop where
  page_eq : session.page = history.page runner page
  length_eq : session.runs.length = history.runs.length
  run : ∀ (index : ℕ) (past : PastRun), history.runs[index]? = some past →
    ∃ run block, session.runs[index]? = some run ∧
      run.Matches runner page (history.runs.take index) past block

/-- A block of a page before its runs, with its run control if controls get attached. -/
def Page.ready (page : Page) (attached : Bool) (block : QueryBlock) : QueryBlock :=
  if attached && !page.controlsAttached then block.insertControl .run else block

section ready

variable (page : Page) (attached : Bool) (block : QueryBlock)

@[simp] theorem Page.resultRegion_ready :
    (page.ready attached block).resultRegion = block.resultRegion := by
  unfold ready
  split <;> rfl

@[simp] theorem Page.query_ready : (page.ready attached block).query = block.query := by
  unfold ready
  split <;> rfl

@[simp] theorem Page.attributes_ready :
    (page.ready attached block).attributes = block.attributes := by
  unfold ready
  split <;> rfl

/-- The query and the attributes of a block decide what its runs submit. -/
theorem Runner.submission_congr (runner : Runner) {block other : QueryBlock}
    (hq : block.query = other.query) (ha : block.attributes = other.attributes)
    (endpoint : Option Text) :
    runner.submission block endpoint = runner.submission other endpoint := by
  simp only [submission, resolveEndpoint, QueryBlock.endpoint?, hq, ha]

theorem Runner.shown_ready (runner : Runner) :
    runner.shown page (page.ready attached block) = runner.shown page block := by
  funext reply
  simp only [shown]
  rw [runner.submission_congr (page.query_ready attached block)
    (page.attributes_ready attached block)]

end ready

namespace History

variable (runner : Runner) (page : Page) (history : History)

/-- The block at an index of the page that a history leaves. -/
theorem getElem?_page (index : ℕ) :
    (history.page runner page).blocks[index]? = page.blocks[index]?.map fun block =>
      (page.ready history.attached block).afterRuns (runner.shown page block)
        (PastRun.replies history.runs index) := by
  have hshown := runner.shown_ready page history.attached
  cases hb : history.attached <;> cases hp : page.controlsAttached <;>
    simp_all [History.page, Page.attachControls, Page.ready, Function.comp_def]

theorem length_page : (history.page runner page).blocks.length = page.blocks.length := by
  simp only [History.page, Page.attachControls, List.length_mapIdx]
  split
  · split <;> simp
  · rfl

theorem config_page : (history.page runner page).config = page.config := by
  simp only [History.page, Page.attachControls]
  split
  · split <;> rfl
  · rfl

theorem source_page : (history.page runner page).source = page.source := by
  simp only [History.page, Page.attachControls]
  split
  · split <;> rfl
  · rfl

theorem controlsAttached_page : (history.page runner page).controlsAttached =
    (history.attached || page.controlsAttached) := by
  cases hb : history.attached <;> cases hp : page.controlsAttached <;>
    simp [History.page, Page.attachControls, hb, hp]

@[simp] theorem defaultEndpoint?_page :
    (history.page runner page).defaultEndpoint? = page.defaultEndpoint? := by
  simp only [Page.defaultEndpoint?, config_page]

/-- Two pages that histories leave are equal if their blocks are. -/
theorem page_congr {runner : Runner} {page : Page} {history other : History}
    (hattached : history.attached = other.attached)
    (hblocks : ∀ index : ℕ, (history.page runner page).blocks[index]? =
      (other.page runner page).blocks[index]?) :
    history.page runner page = other.page runner page := by
  have hb : (history.page runner page).blocks = (other.page runner page).blocks :=
    List.ext_getElem? hblocks
  simp only [History.page] at hb ⊢
  rw [hb, hattached]

/-- A change of one block leads from the page of one history to the page of another. -/
theorem updateBlock_page {runner : Runner} {page : Page} {history other : History} {index : ℕ}
    {change : QueryBlock → QueryBlock} (hattached : history.attached = other.attached)
    (hchanged : (history.page runner page).blocks[index]?.map change =
      (other.page runner page).blocks[index]?)
    (hkept : ∀ i, i ≠ index → (history.page runner page).blocks[i]? =
      (other.page runner page).blocks[i]?) :
    (history.page runner page).updateBlock index change = other.page runner page := by
  have hb : (history.page runner page).blocks.modify index change =
      (other.page runner page).blocks := by
    apply List.ext_getElem?
    intro i
    by_cases hi : i = index
    · subst hi
      rw [List.getElem?_modify_eq]
      exact hchanged
    · rw [List.getElem?_modify_ne _ _ (Ne.symm hi)]
      exact hkept i hi
  simp only [Page.updateBlock, History.page] at hb ⊢
  rw [hb, hattached]

end History

namespace Session

variable {runner : Runner} {page : Page} {history : History} {session : Session}

theorem tracks_ofPage (runner : Runner) (page : Page) :
    (Session.ofPage page).Tracks runner page ⟨[], false⟩ := by
  refine ⟨?_, rfl, ?_⟩
  · have hb : page.blocks.mapIdx (fun index block =>
        block.afterRuns (runner.shown page block) (PastRun.replies [] index)) = page.blocks := by
      apply List.ext_getElem?
      intro index
      simp [PastRun.replies, QueryBlock.afterRuns_nil]
    simp only [ofPage, History.page, Bool.false_eq_true, ite_false, hb]
  · intro index past h
    simp at h

/-! ### A run is started -/

theorem Tracks.start (h : session.Tracks runner page history) (index : ℕ) :
    (session.start runner index).Tracks runner page
      (history.step page.blocks.length (.start index)) := by
  have hget := history.getElem?_page runner page index
  rw [← h.page_eq] at hget
  cases hb : page.blocks[index]? with
  | none =>
      rw [hb, Option.map_none] at hget
      have hindex : ¬ index < page.blocks.length := by
        simpa using List.getElem?_eq_none_iff.mp hb
      simpa only [Session.start, hget, History.step, hindex, ite_false] using h
  | some block =>
      rw [hb, Option.map_some] at hget
      have hindex : index < page.blocks.length := (List.getElem?_eq_some_iff.mp hb).1
      simp only [Session.start, hget, History.step, hindex, ite_true]
      refine ⟨?_, by simp [h.length_eq], ?_⟩
      · rw [h.page_eq]
        refine History.updateBlock_page rfl ?_ ?_
        · rw [History.getElem?_page, History.getElem?_page, hb]
          simp only [Option.map_some, QueryBlock.beginRun_afterRuns, PastRun.replies_append]
          simp [PastRun.replies]
        · intro i hi
          rw [History.getElem?_page, History.getElem?_page]
          simp only [PastRun.replies_append]
          simp [PastRun.replies, Ne.symm hi]
      · intro k past hk
        have hlt : k < history.runs.length + 1 := by
          simpa using (List.getElem?_eq_some_iff.mp hk).1
        rw [List.take_append_of_le_length (Nat.lt_succ_iff.mp hlt)]
        by_cases hlast : k = history.runs.length
        · subst hlast
          rw [List.getElem?_concat_length, Option.some.injEq] at hk
          subst hk
          refine ⟨_, block, by rw [← h.length_eq]; exact List.getElem?_concat_length,
            hb, rfl, ?_, ?_, rfl⟩
          · rw [QueryBlock.beginRun_afterRuns, QueryBlock.generation_afterRuns]
            simp [Nat.add_assoc]
          · rw [h.page_eq, History.defaultEndpoint?_page]
            exact runner.submission_congr (by simp) (by simp) _
        · have hk' : k < history.runs.length := by omega
          rw [List.getElem?_append_left hk'] at hk
          obtain ⟨run, owner, hrun, hmatches⟩ := h.run k past hk
          exact ⟨run, owner, by rw [List.getElem?_append_left (h.length_eq ▸ hk'), hrun], hmatches⟩

/-! ### The reply to a run arrives -/

/-- The reply to a run that is out changes the page as it changes the history. -/
theorem Tracks.page_arrive {index : ℕ} {past : PastRun} {run : Run} {block : QueryBlock}
    (h : session.Tracks runner page history) (hpast : history.runs[index]? = some past)
    (hpending : past.reply = none)
    (hmatches : run.Matches runner page (history.runs.take index) past block) (reply : Reply) :
    session.page.updateBlock run.block (fun owner =>
        owner.settleRun run.token (runner.content (fun _ => reply) run.submission)) =
      (history.step page.blocks.length (.arrive index reply)).page runner page := by
  -- The replies to the runs before this one give its token, those behind it what counts.
  obtain ⟨hindex, rfl⟩ := List.getElem?_eq_some_iff.mp hpast
  obtain ⟨earlier, past, later, hruns, rfl, hmodify⟩ :=
    List.exists_of_modify (fun past : PastRun => past.answer reply) hindex
  have hpast' : history.runs[earlier.length] = past := by simp [hruns]
  rw [hpast', hruns, List.take_left] at hmatches
  rw [hpast'] at hpending
  rw [hruns] at hmodify
  rw [h.page_eq, hmatches.block_eq, hmatches.token_eq, hmatches.submission_eq]
  refine History.updateBlock_page rfl ?_ ?_
  · rw [History.getElem?_page, History.getElem?_page, hmatches.getElem?]
    simp only [Option.map_some, History.step, hmodify, Option.some.injEq, hruns,
      PastRun.replies_append, PastRun.replies_cons, PastRun.block_answer, ite_true, hpending,
      PastRun.reply_answer, Option.none_or]
    simpa only [Page.resultRegion_ready, Runner.shown] using
      QueryBlock.settleRun_afterRuns (runner.shown page block) (page.ready history.attached block)
        (PastRun.replies earlier past.block) (PastRun.replies later past.block) reply
  · intro i hi
    rw [History.getElem?_page, History.getElem?_page]
    simp only [History.step, hmodify, hruns, PastRun.replies_append, PastRun.replies_cons,
      PastRun.block_answer, Ne.symm hi, ite_false]

theorem Tracks.arrive (h : session.Tracks runner page history) (index : ℕ) (reply : Reply) :
    (session.arrive runner index reply).Tracks runner page
      (history.step page.blocks.length (.arrive index reply)) := by
  cases hpast : history.runs[index]? with
  | none =>
      have hindex : history.runs.length ≤ index := List.getElem?_eq_none_iff.mp hpast
      have hnone : session.runs[index]? = none :=
        List.getElem?_eq_none_iff.mpr (h.length_eq ▸ hindex)
      simpa only [Session.arrive, hnone, History.step, List.modify_eq_self hindex] using h
  | some past =>
      obtain ⟨run, block, hrun, hmatches⟩ := h.run index past hpast
      have harrived := hmatches.arrived_eq
      cases hreply : past.reply with
      | some first =>
          have hsame := PastRun.modify_answer_of_isSome hpast (by simp [hreply]) reply
          simp only [hreply, Option.isSome_some] at harrived
          simpa only [Session.arrive, hrun, harrived, ite_true, History.step, hsame] using h
      | none =>
          simp only [hreply, Option.isSome_none] at harrived
          simp only [Session.arrive, hrun, harrived, Bool.false_eq_true, ite_false]
          refine ⟨h.page_arrive hpast hreply hmatches reply, ?_, ?_⟩
          · simp [History.step, h.length_eq]
          intro k found hfound
          simp only [History.step] at hfound ⊢
          by_cases hk : index = k
          · subst hk
            rw [List.getElem?_modify_eq, hpast] at hfound
            obtain rfl := Option.some.inj hfound
            have hm := hmatches.modify_answer index reply
            refine ⟨_, block, by rw [List.getElem?_modify_eq, hrun]; rfl, ?_⟩
            exact ⟨hm.getElem?, hm.block_eq, hm.token_eq, hm.submission_eq, by simp [hreply]⟩
          · rw [List.getElem?_modify_ne _ _ hk] at hfound
            obtain ⟨other, owner, hother, hm⟩ := h.run k found hfound
            refine ⟨other, owner, ?_, hm.modify_answer index reply⟩
            rw [List.getElem?_modify_ne _ _ hk, hother]

/-! ### Run controls are attached -/

theorem Tracks.attachControls (h : session.Tracks runner page history) :
    session.attachControls.Tracks runner page
      (history.step page.blocks.length .attachControls) := by
  refine ⟨?_, h.length_eq, h.run⟩
  simp only [Session.attachControls, h.page_eq, History.step]
  cases hattached : history.attached <;> cases hpage : page.controlsAttached <;>
    simp only [History.page, Page.attachControls, hattached, hpage, ite_true, ite_false,
      Bool.false_eq_true, Page.mk.injEq, and_true, true_and]
  apply List.ext_getElem?
  intro index
  simp only [List.getElem?_map, List.getElem?_mapIdx, Option.map_map]
  refine congrArg (fun f => page.blocks[index]?.map f) (funext fun block => ?_)
  exact block.insertControl_afterRuns _ _ _

/-! ### Every reachable session -/

theorem Tracks.step (h : session.Tracks runner page history) (step : Session.Step) :
    (session.step runner step).Tracks runner page (history.step page.blocks.length step) := by
  cases step with
  | start block => exact h.start block
  | arrive run reply => exact h.arrive run reply
  | attachControls => exact h.attachControls

theorem Tracks.after (h : session.Tracks runner page history) (steps : List Session.Step) :
    (session.after runner steps).Tracks runner page
      (steps.foldl (History.step page.blocks.length) history) := by
  induction steps generalizing session history with
  | nil => exact h
  | cons step steps ih => exact ih (h.step step)

/-- Every session that steps can reach tracks the history of the steps. -/
theorem tracks_after (runner : Runner) (page : Page) (steps : List Session.Step) :
    ((ofPage page).after runner steps).Tracks runner page
      (History.ofSteps page.blocks.length steps) :=
  (tracks_ofPage runner page).after steps

end Session

end CypherPages
