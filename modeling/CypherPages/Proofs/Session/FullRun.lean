import CypherPages.Proofs.Entries
import CypherPages.Proofs.Session.Schedules

/-! # Full runs

A full run of a page uses the control at the front of every block, all at once: the runs are
started in the order of the page, and the replies to them arrive in any order, each after its
run was started. Every reply finds its way to the run that asked for it. -/

namespace CypherPages

/-- The blocks that the control at their front runs, in the order of the page. -/
def Page.frontRuns (page : Page) : List ℕ :=
  (List.range page.blocks.length).filter fun index =>
    page.blocks[index]?.any fun block =>
      block.controlRegion.controls.head?.any fun control => control.action = .runBlock

namespace Session.Step

def started? : Step → Option ℕ
  | .start block => some block
  | _ => none

def arrived? : Step → Option (ℕ × Reply)
  | .arrive run reply => some (run, reply)
  | _ => none

end Session.Step

namespace Session

/-- The blocks on which steps start runs. -/
def started (steps : List Step) : List ℕ := steps.filterMap Step.started?

/-- The replies that arrive in steps, each with the number of its run. -/
def arrivals (steps : List Step) : List (ℕ × Reply) := steps.filterMap Step.arrived?

/-- Replies arrive only for runs that were started. -/
def Causal (steps : List Step) : Prop :=
  ∀ (front : List Step) (run : ℕ) (reply : Reply) (back : List Step),
    steps = front ++ .arrive run reply :: back → run < (started front).length

/-- The result regions that the runs of a session return, each that of its own block. -/
def returned (session : Session) : List (Option ResultRegion) :=
  session.runs.map fun run => session.page.blocks[run.block]?.map QueryBlock.resultRegion

end Session

/-- Steps that make a full run of a page, in which run number `n` meets with the reply
`replies n`. -/
structure Page.FullRun (page : Page) (replies : ℕ → Reply) (steps : List Session.Step) : Prop where
  started : Session.started steps = page.frontRuns
  arrivals : (Session.arrivals steps).Perm
    ((List.range page.frontRuns.length).map fun run => (run, replies run))
  causal : Session.Causal steps

/-! ### The runs that steps leave behind -/

namespace Session

theorem started_concat (steps : List Step) (step : Step) :
    started (steps ++ [step]) = started steps ++ step.started?.toList := by
  cases step <;> simp [started, Step.started?]

theorem arrivals_concat (steps : List Step) (step : Step) :
    arrivals (steps ++ [step]) = arrivals steps ++ step.arrived?.toList := by
  cases step <;> simp [arrivals, Step.arrived?]

theorem Causal.of_concat {steps : List Step} {step : Step} (h : Causal (steps ++ [step])) :
    Causal steps := by
  intro front run reply back hsteps
  exact h front run reply (back ++ [step]) (by simp [hsteps])

theorem Causal.concat {steps : List Step} (h : Causal steps) {step : Step}
    (hstep : ∀ run reply, step = .arrive run reply → run < (started steps).length) :
    Causal (steps ++ [step]) := by
  intro front run reply back hsteps
  cases back using List.reverseRecOn with
  | nil =>
      obtain ⟨rfl, hlast⟩ := List.append_inj' hsteps rfl
      exact hstep run reply (List.singleton_inj.mp hlast)
  | append_singleton back last =>
      rw [← List.cons_append, ← List.append_assoc] at hsteps
      exact h front run reply back (List.append_inj_left' hsteps rfl)

/-- No reply is there for a run that is still to be started. -/
theorem Causal.lookup_arrivals {steps : List Step} (h : Causal steps) {run : ℕ}
    (hrun : (started steps).length ≤ run) : (arrivals steps).lookup run = none := by
  induction steps using List.reverseRecOn with
  | nil => rfl
  | append_singleton steps step ih =>
      rw [started_concat, List.length_append] at hrun
      rw [arrivals_concat, List.lookup_append, ih h.of_concat (by omega), Option.none_or]
      cases step with
      | start block => rfl
      | arrive other reply =>
          have hother := h steps other reply [] rfl
          simp only [Step.arrived?, Option.toList_some, List.lookup_cons,
            beq_eq_false_iff_ne.mpr (show run ≠ other by omega), List.lookup_nil]
      | attachControls => rfl

theorem ofSteps_concat (size : ℕ) (steps : List Step) (step : Step) :
    History.ofSteps size (steps ++ [step]) = (History.ofSteps size steps).step size step := by
  simp [History.ofSteps]

/-- A run is remembered with its block and with the first reply to it. -/
theorem Causal.runs_ofSteps {size : ℕ} {steps : List Step} (h : Causal steps)
    (hsize : ∀ block ∈ started steps, block < size) :
    (History.ofSteps size steps).runs = (started steps).mapIdx fun run block =>
      ⟨block, (arrivals steps).lookup run⟩ := by
  induction steps using List.reverseRecOn with
  | nil => rfl
  | append_singleton steps step ih =>
      rw [started_concat] at hsize
      have hbefore := ih h.of_concat fun block hblock =>
        hsize block (List.mem_append_left _ hblock)
      rw [ofSteps_concat, started_concat, arrivals_concat]
      cases step with
      | start block =>
          have hblock : block < size := hsize block (by simp [Step.started?])
          have hnone := h.of_concat.lookup_arrivals (Nat.le_refl (started steps).length)
          simp only [History.step, if_pos hblock, Step.started?, Step.arrived?,
            Option.toList_some, Option.toList_none, List.append_nil, List.mapIdx_concat, hnone,
            hbefore]
      | arrive run reply =>
          simp only [History.step, Step.started?, Step.arrived?, Option.toList_some,
            Option.toList_none, List.append_nil, hbefore]
          refine List.ext_getElem? fun index => ?_
          rw [List.getElem?_modify, List.getElem?_mapIdx, List.getElem?_mapIdx]
          cases (started steps)[index]? with
          | none => simp
          | some block =>
              by_cases hindex : run = index
              · subst hindex
                simp [PastRun.answer, List.lookup_append]
              · have hne : (index == run) = false := beq_eq_false_iff_ne.mpr (Ne.symm hindex)
                simp [hindex, List.lookup_append, List.lookup_cons, hne]
      | attachControls =>
          simpa only [History.step, Step.started?, Step.arrived?, Option.toList_none,
            List.append_nil] using hbefore

end Session

/-! ### Every run has its reply -/

namespace Page.FullRun

variable {page : Page} {replies : ℕ → Reply} {steps : List Session.Step}

theorem lookup_arrivals (h : page.FullRun replies steps) {run : ℕ}
    (hrun : run < page.frontRuns.length) :
    (Session.arrivals steps).lookup run = some (replies run) := by
  have hkeys : ((Session.arrivals steps).map Prod.fst).Nodup := by
    refine ((h.arrivals.map Prod.fst).nodup_iff).mpr ?_
    rw [List.map_map]
    exact (List.map_id _).symm ▸ List.nodup_range
  rw [Entries.lookup_eq_some_iff_mem hkeys, h.arrivals.mem_iff]
  exact List.mem_map_of_mem (List.mem_range.mpr hrun)

theorem runs_ofSteps (h : page.FullRun replies steps) :
    (History.ofSteps page.blocks.length steps).runs =
      page.frontRuns.mapIdx fun run block => ⟨block, some (replies run)⟩ := by
  have hsize : ∀ block ∈ Session.started steps, block < page.blocks.length := by
    intro block hblock
    rw [h.started, frontRuns, List.mem_filter, List.mem_range] at hblock
    exact hblock.1
  rw [h.causal.runs_ofSteps hsize, h.started]
  refine List.ext_getElem (by simp) fun run hleft hright => ?_
  rw [List.length_mapIdx] at hleft
  rw [List.getElem_mapIdx, List.getElem_mapIdx, h.lookup_arrivals hleft]

end Page.FullRun

/-- The runs may be started one after the other, and then met with their replies in any order. -/
theorem Page.fullRun_of_perm (page : Page) (replies : ℕ → Reply) {order : List ℕ}
    (horder : order.Perm (List.range page.frontRuns.length)) :
    page.FullRun replies (page.frontRuns.map .start ++
      order.map fun run => .arrive run (replies run)) := by
  have hstarted : ∀ order : List ℕ, Session.started (page.frontRuns.map .start ++
      order.map fun run => .arrive run (replies run)) = page.frontRuns := fun order => by
    simp [Session.started, List.filterMap_append, List.filterMap_map, Function.comp_def,
      Session.Step.started?]
  refine ⟨hstarted order, ?_, ?_⟩
  · have harrivals : Session.arrivals (page.frontRuns.map .start ++
        order.map fun run => .arrive run (replies run)) =
        order.map fun run => (run, replies run) := by
      simp [Session.arrivals, List.filterMap_append, List.filterMap_map, Function.comp_def,
        Session.Step.arrived?]
    rw [harrivals]
    exact horder.map _
  · have hbound : ∀ run ∈ order, run < page.frontRuns.length := fun run hrun =>
      List.mem_range.mp (horder.mem_iff.mp hrun)
    clear horder
    induction order using List.reverseRecOn with
    | nil =>
        rintro front run reply back hsteps
        have hmem : Session.Step.arrive run reply ∈ page.frontRuns.map .start ++ [] :=
          hsteps ▸ List.mem_append_right _ List.mem_cons_self
        simp at hmem
    | append_singleton order run ih =>
        rw [List.map_append, ← List.append_assoc]
        refine (ih fun other hother => hbound other (List.mem_append_left _ hother)).concat ?_
        rintro other reply hlast
        obtain ⟨rfl, -⟩ := Session.Step.arrive.inj hlast
        rw [hstarted]
        exact hbound run (List.mem_append_right _ (List.mem_singleton_self run))

/-! ### Full runs of pages on which every block has its control in front -/

namespace Page.FullRun

variable {page : Page} {replies : ℕ → Reply} {steps : List Session.Step}

theorem getElem?_runs (h : page.FullRun replies steps)
    (hfront : page.frontRuns = List.range page.blocks.length) {index : ℕ}
    (hindex : index < page.blocks.length) :
    (History.ofSteps page.blocks.length steps).runs[index]? =
      some ⟨index, some (replies index)⟩ := by
  rw [h.runs_ofSteps, hfront, List.getElem?_mapIdx, List.getElem?_range hindex, Option.map_some]

theorem length_runs (h : page.FullRun replies steps)
    (hfront : page.frontRuns = List.range page.blocks.length) :
    (History.ofSteps page.blocks.length steps).runs.length = page.blocks.length := by
  rw [h.runs_ofSteps, hfront, List.length_mapIdx, List.length_range]

/-- Each block meets with one reply, the one to its own run. -/
theorem replies_runs (h : page.FullRun replies steps)
    (hfront : page.frontRuns = List.range page.blocks.length) {index : ℕ}
    (hindex : index < page.blocks.length) :
    PastRun.replies (History.ofSteps page.blocks.length steps).runs index =
      [some (replies index)] := by
  have hruns : (History.ofSteps page.blocks.length steps).runs =
      (List.range page.blocks.length).map fun run => ⟨run, some (replies run)⟩ := by
    refine List.ext_getElem? fun run => ?_
    by_cases hrun : run < page.blocks.length
    · rw [h.getElem?_runs hfront hrun, List.getElem?_map, List.getElem?_range hrun,
        Option.map_some]
    · rw [List.getElem?_eq_none (by rw [h.length_runs hfront]; omega),
        List.getElem?_eq_none (by simpa using hrun)]
  have honce : (List.range page.blocks.length).count index = 1 :=
    List.count_eq_one_of_mem List.nodup_range (List.mem_range.mpr hindex)
  rw [PastRun.replies, hruns, List.filter_map, List.map_map]
  simp [Function.comp_def, List.filter_eq, honce]

/-- The run on a block submits for that block, and its reply has arrived. -/
theorem run (h : page.FullRun replies steps) (runner : Runner)
    (hfront : page.frontRuns = List.range page.blocks.length) {index : ℕ} {block : QueryBlock}
    (hblock : page.blocks[index]? = some block) :
    ∃ run, ((Session.ofPage page).after runner steps).runs[index]? = some run ∧
      run.block = index ∧ run.submission = runner.submission block page.defaultEndpoint? ∧
      run.arrived = true := by
  have hindex : index < page.blocks.length := (List.getElem?_eq_some_iff.mp hblock).1
  obtain ⟨run, owner, hrun, hmatches⟩ :=
    (Session.tracks_after runner page steps).run index _ (h.getElem?_runs hfront hindex)
  obtain rfl := Option.some.inj (hmatches.getElem?.symm.trans hblock)
  exact ⟨run, hrun, hmatches.block_eq, hmatches.submission_eq, hmatches.arrived_eq⟩

theorem length_session (h : page.FullRun replies steps) (runner : Runner)
    (hfront : page.frontRuns = List.range page.blocks.length) :
    ((Session.ofPage page).after runner steps).runs.length = page.blocks.length := by
  rw [(Session.tracks_after runner page steps).length_eq, h.length_runs hfront]

/-- A block of the page after a full run shows the reply to its own run. -/
theorem getElem?_page (h : page.FullRun replies steps) (runner : Runner)
    (hfront : page.frontRuns = List.range page.blocks.length)
    (hattached : page.controlsAttached = true) (index : ℕ) :
    ((Session.ofPage page).after runner steps).page.blocks[index]? =
      page.blocks[index]?.map fun block =>
        block.afterRuns (runner.shown page block) [some (replies index)] := by
  rw [(Session.tracks_after runner page steps).page_eq, History.getElem?_page]
  by_cases hindex : index < page.blocks.length
  · have hready : ∀ block, page.ready
        (History.ofSteps page.blocks.length steps).attached block = block := by
      intro block
      simp [Page.ready, hattached]
    simp only [hready, h.replies_runs hfront hindex]
  · rw [List.getElem?_eq_none (by omega), Option.map_none, Option.map_none]

end Page.FullRun

end CypherPages
