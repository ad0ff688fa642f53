import CypherPages.Proofs.Page.Fresh
import CypherPages.Proofs.Session.Invariant

/-! # Overlapping runs

However the runs on a page overlap, each block shows the latest of its own runs. So the order
in which replies arrive, and the order in which different blocks take turns, leave no trace. -/

namespace CypherPages

/-- The outcome of a run on a block of a page that meets with a reply. -/
def Runner.outcome (runner : Runner) (page : Page) (block : QueryBlock) (reply : Reply) :
    Except QueryError QueryResult :=
  let submission := runner.submission block page.defaultEndpoint?
  queryOutcome runner.timeout runner.decoder submission.endpoint submission.query fun _ => reply

/-- A block shows the latest of its runs, whose replies are given oldest run first. -/
structure QueryBlock.ShowsLatest (runner : Runner) (page : Page) (replies : List (Option Reply))
    (before after : QueryBlock) : Prop where
  query : after.query = before.query
  attributes : after.attributes = before.attributes
  generation : after.resultRegion.generation = replies.length
  running : replies.getLast? = some none →
    after.resultRegion.content = Render.runningNotice
  settled : ∀ reply, replies.getLast? = some (some reply) →
    after.resultRegion.content = Render.outcome (runner.outcome page before reply)

/-- In a session the latest run of each block decides, and its runs touch no other block. -/
structure Session.LatestRunDecides (runner : Runner) (page : Page) (history : History)
    (session : Session) : Prop where
  length : session.page.blocks.length = page.blocks.length
  shows : ∀ (index : ℕ) (before after : QueryBlock), page.blocks[index]? = some before →
    session.page.blocks[index]? = some after →
      before.ShowsLatest runner page (PastRun.replies history.runs index) after
  superseded : ∀ (older newer : ℕ) (past later : PastRun), older < newer →
    history.runs[older]? = some past → history.runs[newer]? = some later →
      later.block = past.block →
        ∀ reply, (session.step runner (.arrive older reply)).page = session.page
  frame_start : ∀ index other : ℕ, other ≠ index →
    (session.step runner (.start index)).page.blocks[other]? = session.page.blocks[other]?
  frame_arrive : ∀ (run other : ℕ) (past : PastRun), history.runs[run]? = some past →
    other ≠ past.block → ∀ reply,
      (session.step runner (.arrive run reply)).page.blocks[other]? = session.page.blocks[other]?

/-- Two histories start each block's runs in the same order with the same outcomes, and agree
on whether run controls were attached. -/
structure History.SameOutcomes (runner : Runner) (page : Page) (history other : History) :
    Prop where
  attached : history.attached = other.attached
  outcomes : ∀ (index : ℕ) (block : QueryBlock), page.blocks[index]? = some block →
    (PastRun.replies history.runs index).map (Option.map (runner.outcome page block)) =
      (PastRun.replies other.runs index).map (Option.map (runner.outcome page block))

theorem Runner.shown_eq_outcome (runner : Runner) (page : Page) (block : QueryBlock) :
    runner.shown page block = Render.outcome ∘ runner.outcome page block := rfl

/-- The outcomes of two histories fix the page that both leave. -/
theorem History.SameOutcomes.page_eq {runner : Runner} {page : Page} {history other : History}
    (h : history.SameOutcomes runner page other) :
    history.page runner page = other.page runner page := by
  refine History.page_congr h.attached fun index => ?_
  rw [getElem?_page, getElem?_page]
  cases hb : page.blocks[index]? with
  | none => rfl
  | some block =>
      have ho := h.outcomes index block hb
      have hlength := congrArg List.length ho
      have hlast := congrArg (fun l => l.getLast?.map (Option.map Render.outcome)) ho
      simp only [List.length_map] at hlength
      simp only [List.getLast?_map, Option.map_map, Option.map_comp_map,
        ← Runner.shown_eq_outcome] at hlast
      simp only [Option.map_some, h.attached, Option.some.injEq]
      exact QueryBlock.afterRuns_congr hlength hlast

namespace Session

variable {runner : Runner} {page : Page} {history : History} {session : Session}

theorem Tracks.shows (h : session.Tracks runner page history) (hfresh : page.Fresh) {index : ℕ}
    {before after : QueryBlock} (hbefore : page.blocks[index]? = some before)
    (hafter : session.page.blocks[index]? = some after) :
    before.ShowsLatest runner page (PastRun.replies history.runs index) after := by
  rw [h.page_eq, History.getElem?_page, hbefore, Option.map_some, Option.some.injEq] at hafter
  subst hafter
  refine ⟨by simp, by simp, ?_, ?_, ?_⟩
  · have hzero := (hfresh.blocks before (List.mem_of_getElem? hbefore)).generation
    rw [QueryBlock.generation_afterRuns, Page.resultRegion_ready, hzero, Nat.zero_add]
  · intro hlast
    rw [QueryBlock.content_afterRuns hlast]
    rfl
  · intro reply hlast
    rw [QueryBlock.content_afterRuns hlast]
    rfl

theorem getElem?_start_of_ne {index other : ℕ} (h : other ≠ index) :
    (session.start runner index).page.blocks[other]? = session.page.blocks[other]? := by
  unfold Session.start
  split
  · rfl
  · exact List.getElem?_modify_ne _ _ (Ne.symm h)

theorem Tracks.getElem?_arrive_of_ne (h : session.Tracks runner page history) {run other : ℕ}
    {past : PastRun} (hpast : history.runs[run]? = some past) (hne : other ≠ past.block)
    (reply : Reply) :
    (session.arrive runner run reply).page.blocks[other]? = session.page.blocks[other]? := by
  obtain ⟨found, block, hrun, hmatches⟩ := h.run run past hpast
  unfold Session.arrive
  rw [hrun]
  dsimp only
  split
  · rfl
  · exact List.getElem?_modify_ne _ _ (hmatches.block_eq ▸ Ne.symm hne)

/-- A reply to a run that was overtaken is not the reply to the latest run of any block. -/
theorem getLast?_replies_modify_answer {runs : List PastRun} {older newer : ℕ}
    {past later : PastRun} (hlt : older < newer) (hpast : runs[older]? = some past)
    (hlater : runs[newer]? = some later) (hblock : later.block = past.block) (reply : Reply)
    (block : ℕ) :
    (PastRun.replies (runs.modify older fun past => past.answer reply) block).getLast? =
      (PastRun.replies runs block).getLast? := by
  obtain ⟨hindex, rfl⟩ := List.getElem?_eq_some_iff.mp hpast
  obtain ⟨front, past, back, rfl, rfl, hmodify⟩ :=
    List.exists_of_modify (fun past : PastRun => past.answer reply) hindex
  have hpast' : (front ++ past :: back)[front.length] = past := by simp
  rw [hpast'] at hblock
  have hmem : later ∈ back := by
    rw [List.getElem?_append_right (Nat.le_of_lt hlt)] at hlater
    obtain ⟨k, hk⟩ : ∃ k, newer - front.length = k + 1 := ⟨newer - front.length - 1, by omega⟩
    rw [hk, List.getElem?_cons_succ] at hlater
    exact List.mem_of_getElem? hlater
  rw [hmodify, PastRun.replies_append, PastRun.replies_append, PastRun.replies_cons,
    PastRun.replies_cons, PastRun.block_answer]
  by_cases h : past.block = block
  · have hne : PastRun.replies back block ≠ [] := by
      simp only [PastRun.replies, ne_eq, List.map_eq_nil_iff, List.filter_eq_nil_iff]
      exact fun hall => hall later hmem (by simp [hblock, h])
    simp [h, List.getLast?_cons, List.getLast?_eq_some_getLast hne]
  · simp [h]

theorem Tracks.page_arrive_of_lt (h : session.Tracks runner page history) {older newer : ℕ}
    {past later : PastRun} (hlt : older < newer) (hpast : history.runs[older]? = some past)
    (hlater : history.runs[newer]? = some later) (hblock : later.block = past.block)
    (reply : Reply) : (session.arrive runner older reply).page = session.page := by
  rw [(h.arrive older reply).page_eq, h.page_eq]
  refine History.page_congr rfl fun index => ?_
  rw [History.getElem?_page, History.getElem?_page]
  refine congrArg (fun f => page.blocks[index]?.map f) (funext fun block => ?_)
  apply QueryBlock.afterRuns_congr
  · exact PastRun.length_replies_modify_answer _ _ _ _
  · exact congrArg _ (getLast?_replies_modify_answer hlt hpast hlater hblock reply index)

theorem Tracks.latestRunDecides (h : session.Tracks runner page history)
    (hfresh : page.Fresh) : session.LatestRunDecides runner page history where
  length := by rw [h.page_eq, History.length_page]
  shows _ _ _ hbefore hafter := h.shows hfresh hbefore hafter
  superseded _ _ _ _ hlt hpast hlater hblock reply :=
    h.page_arrive_of_lt hlt hpast hlater hblock reply
  frame_start _ _ hne := getElem?_start_of_ne hne
  frame_arrive _ _ _ hpast hne reply := h.getElem?_arrive_of_ne hpast hne reply

/-- In every session on a page that was read, the latest run of each block decides what the
block shows, and schedules with the same outcomes leave the same text. -/
theorem latest_run_decides (runner : Runner) {source : Text} {page : Page}
    (h : Page.read source = .ok page) :
    (∀ steps : List Step,
      ((ofPage page).after runner steps).LatestRunDecides runner page
        (History.ofSteps page.blocks.length steps)) ∧
    ∀ steps others : List Step,
      (History.ofSteps page.blocks.length steps).SameOutcomes runner page
        (History.ofSteps page.blocks.length others) →
      ((ofPage page).after runner steps).page.toHtml =
        ((ofPage page).after runner others).page.toHtml := by
  refine ⟨fun steps => (tracks_after runner page steps).latestRunDecides (Page.fresh_of_read h),
    fun steps others hsame => ?_⟩
  rw [(tracks_after runner page steps).page_eq, (tracks_after runner page others).page_eq,
    hsame.page_eq]

/-- Three runs on a page of two blocks, of which the first is overtaken: in one schedule its
reply arrives first, in the other last and after the runs of the second block. -/
theorem latest_run_decides_overtaken :
    let source := ("<pre class=\"ladybug-query\"><code>RETURN 1</code></pre>" ++
      "<pre class=\"ladybug-query\"><code>RETURN 2</code></pre>").toList
    let runner : Runner := ⟨.ofInt 30, defaultEndpoint, .standard⟩
    let failure := Reply.failed "ReadError".toList []
    let inOrder : List Step := [.start 0, .arrive 0 .gaveUp, .start 0, .start 1,
      .arrive 1 failure, .arrive 2 .silence, .attachControls]
    let overtaken : List Step := [.attachControls, .start 1, .arrive 0 .silence, .start 0,
      .start 0, .arrive 2 failure, .arrive 1 .gaveUp]
    ∃ page, Page.read source = .ok page ∧ page.blocks.length = 2 ∧
      (History.ofSteps page.blocks.length inOrder).SameOutcomes runner page
        (History.ofSteps page.blocks.length overtaken) ∧
      ((ofPage page).after runner inOrder).page.toHtml =
        ((ofPage page).after runner overtaken).page.toHtml := by
  intro source runner failure inOrder overtaken
  have hread : (Page.read source).toOption.map (fun page => page.blocks.length) = some 2 := by
    decide +kernel
  obtain ⟨page, hpage, hlength⟩ := exists_of_toOption_map hread
  have hreplies : ∀ index, PastRun.replies (History.ofSteps 2 inOrder).runs index =
      PastRun.replies (History.ofSteps 2 overtaken).runs index := by
    intro index
    match index with
    | 0 => rfl
    | 1 => rfl
    | _ + 2 => rfl
  have hsame : (History.ofSteps page.blocks.length inOrder).SameOutcomes runner page
      (History.ofSteps page.blocks.length overtaken) := by
    rw [hlength]
    exact ⟨rfl, fun index _ _ => by rw [hreplies index]⟩
  exact ⟨page, hpage, hlength, hsame, (latest_run_decides runner hpage).2 _ _ hsame⟩

end Session

end CypherPages
