import CypherPages.Proofs.Run.Conclusion
import CypherPages.Proofs.Session.Invariant

/-! # What a run shows

A run that has ended shows what its submission comes to, alone or in a session in which it was
not overtaken. A table is shown for a result with columns and rows only. -/

namespace CypherPages

/-- A table starts among given tags. -/
def HasTable (tags : List Html.Event) : Prop :=
  ∃ attributes, .startTag "table".toList attributes false ∈ tags

namespace Runner

/-- A submission comes to exactly one thing, and this is what a text shows. A table is shown
for a result with columns and rows only, and every integer in a result can be written. -/
def ShowsConclusion (runner : Runner) (server : Request → Reply) (submission : Submission)
    (content : Text) : Prop :=
  ∃ conclusion tags, (∀ other, runner.Concludes server submission other ↔ other = conclusion) ∧
    content = conclusion.content ∧ Html.tags content = .ok tags ∧
    (HasTable tags ↔
      ∃ result, conclusion = .answered result ∧ result.columns ≠ [] ∧ result.rows ≠ []) ∧
    ∀ result, conclusion = .answered result → result.Writable

end Runner

/-! ### Tables -/

namespace Conclusion
open Html Render

/-- The nodes of what is shown for a conclusion. -/
def nodes : Conclusion → List Node
  | .answered result => tableNode result :: statsNodes result.stats
  | .reported message => [errorNode message none]
  | .failed message => [errorNode message (some serviceLabel)]

theorem readNodes?_content (conclusion : Conclusion) :
    readNodes? conclusion.content = some conclusion.nodes := by
  cases conclusion with
  | answered result =>
      exact ((makes_table result).append (makes_stats result.stats)).readNodes?
        ((tells_table result).append (tells_stats result.stats))
  | reported message => exact (makes_error message none).readNodes? (tells_error message none)
  | failed message =>
      exact (makes_error message (some serviceLabel)).readNodes? (tells_error message _)

theorem hasTable_append (first rest : List Event) :
    HasTable (first ++ rest) ↔ HasTable first ∨ HasTable rest := by
  simp only [HasTable, List.mem_append, exists_or]

theorem not_hasTable_classTags {name cls : String} (h : name.toList ≠ "table".toList) :
    ¬ HasTable (ResultShape.classTags name cls []) := by
  rintro ⟨attributes, hmem⟩
  simp only [ResultShape.classTags, List.nil_append, List.mem_cons, List.not_mem_nil, or_false,
    Event.startTag.injEq, reduceCtorEq] at hmem
  exact h hmem.1.symm

theorem not_hasTable_errorNode (message : Text) (source : Option Text) :
    ¬ HasTable (Node.tagsAll [errorNode message source]) := by
  rw [errorNode, ResultShape.tagsAll_classNode, Node.tagsAll_ofText]
  exact not_hasTable_classTags (by decide)

theorem not_hasTable_statsNodes (stats : Option QueryStats) :
    ¬ HasTable (Node.tagsAll (statsNodes stats)) := by
  rw [ResultShape.tagsAll_statsNodes]
  split
  · exact not_hasTable_classTags (by decide)
  · rintro ⟨attributes, hmem⟩
    cases hmem

theorem hasTable_tableNode (result : QueryResult) :
    HasTable (Node.tagsAll [tableNode result]) ↔ result.columns ≠ [] ∧ result.rows ≠ [] := by
  have hempty : result.columns ≠ [] ∧ result.rows ≠ [] ↔ result.isEmpty = false := by
    simp [QueryResult.isEmpty]
  rw [ResultShape.tagsAll_tableNode, hempty]
  cases result.isEmpty with
  | true =>
      exact iff_of_false (not_hasTable_classTags (by decide)) Bool.noConfusion
  | false => exact iff_of_true ⟨_, List.mem_cons_self⟩ rfl

theorem hasTable_nodes (conclusion : Conclusion) : HasTable (Node.tagsAll conclusion.nodes) ↔
    ∃ result, conclusion = .answered result ∧ result.columns ≠ [] ∧ result.rows ≠ [] := by
  cases conclusion with
  | reported message => simpa [nodes] using not_hasTable_errorNode message none
  | failed message => simpa [nodes] using not_hasTable_errorNode message (some serviceLabel)
  | answered result =>
      rw [nodes, ← List.singleton_append, Node.tagsAll_append, hasTable_append,
        hasTable_tableNode, or_iff_left (not_hasTable_statsNodes result.stats)]
      simp

end Conclusion

/-! ### What a run shows -/

namespace Runner

theorem showsConclusion (runner : Runner) (server : Request → Reply) (submission : Submission) :
    runner.ShowsConclusion server submission (runner.content server submission) := by
  have hcontent : runner.content server submission =
      (Conclusion.ofOutcome (runner.outcomeOf server submission)).content :=
    (Conclusion.content_ofOutcome _).symm
  refine ⟨_, _, fun _ => concludes_iff, hcontent, ?_, Conclusion.hasTable_nodes _,
    fun result hresult => writable_of_concludes (concludes_iff.mpr hresult.symm)⟩
  rw [hcontent, Html.tags_of_readNodes? (Conclusion.readNodes?_content _)]

theorem run_eq (runner : Runner) (server : Request → Reply) (pageEndpoint : Option Text)
    (block : QueryBlock) :
    runner.run server pageEndpoint block = { block with
      result := some { block.resultRegion with
        content := runner.content server (runner.submission block pageEndpoint)
        generation := block.resultRegion.generation + 1 } } := by
  simp [run, QueryBlock.settleRun, QueryBlock.beginRun, QueryBlock.updateResult,
    QueryBlock.resultRegion, ResultRegion.begin, ResultRegion.settle, ResultRegion.accepts]

/-- Servers that answer the request of a submission in the same way leave the same content. -/
theorem content_congr {runner : Runner} {server other : Request → Reply} {submission : Submission}
    (h : ∀ request ∈ runner.requests submission, other request = server request) :
    runner.content other submission = runner.content server submission := by
  have houtcome : runner.outcomeOf other submission = runner.outcomeOf server submission := by
    cases hprepare : prepare runner.timeout submission.endpoint submission.query with
    | error error => rw [outcomeOf_of_error hprepare, outcomeOf_of_error hprepare]
    | ok request =>
        have hmem := mem_requests.mpr hprepare
        rw [outcomeOf_of_mem hmem, outcomeOf_of_mem hmem, h request hmem]
  exact congrArg Render.outcome houtcome

/-- A run makes at most one request, and its region shows what the reply to it comes to: a
result, a reported error or a failure, and exactly one of them. The same holds in a session for
every run that has ended and was not overtaken. -/
theorem run_shows_conclusion (runner : Runner) :
    (∀ (server : Request → Reply) (pageEndpoint : Option Text) (block : QueryBlock),
      (runner.requests (runner.submission block pageEndpoint)).length ≤ 1 ∧
      (∀ other : Request → Reply,
        (∀ request ∈ runner.requests (runner.submission block pageEndpoint),
          other request = server request) →
        runner.run other pageEndpoint block = runner.run server pageEndpoint block) ∧
      ∃ content, runner.ShowsConclusion server (runner.submission block pageEndpoint) content ∧
        runner.run server pageEndpoint block = { block with
          result := some { block.resultRegion with
            content := content
            generation := block.resultRegion.generation + 1 } }) ∧
    ∀ (page : Page) (steps : List Session.Step) (index : ℕ) (before after : QueryBlock)
      (reply : Reply), page.blocks[index]? = some before →
      ((Session.ofPage page).after runner steps).page.blocks[index]? = some after →
      (PastRun.replies (History.ofSteps page.blocks.length steps).runs index).getLast? =
        some (some reply) →
      runner.ShowsConclusion (fun _ => reply)
        (runner.submission before page.defaultEndpoint?) after.resultRegion.content := by
  refine ⟨fun server pageEndpoint block => ⟨runner.length_requests_le _, fun other hother => ?_,
    _, runner.showsConclusion server _, runner.run_eq server pageEndpoint block⟩, ?_⟩
  · rw [run_eq, run_eq, content_congr hother]
  · intro page steps index before after reply hbefore hafter hlast
    rw [(Session.tracks_after runner page steps).page_eq, History.getElem?_page, hbefore,
      Option.map_some, Option.some.injEq] at hafter
    rw [← hafter, QueryBlock.content_afterRuns hlast]
    exact runner.showsConclusion _ _

/-- A response that is no success shows its status and the reason that it states, although its
body is a result. -/
theorem run_shows_conclusion_unavailable :
    let runner : Runner := ⟨.ofInt 30, CypherPages.defaultEndpoint, .standard⟩
    let body := Encoding.utf8 "\x7b\"columns\": [\"a\"], \"rows\": [\x7b\"a\": 1\x7d]\x7d".toList
    let block : QueryBlock := ⟨"RETURN 1".toList, [], 0, 0, none, none⟩
    let server : Request → Reply := fun _ => .response 503 (some "Asleep".toList) body
    (runner.run server none block).resultRegion.content =
      "<div class=\"ladybug-error\">ladybug-rs: HTTP 503: Asleep</div>".toList := by
  intro runner body block server
  obtain ⟨-, -, content, ⟨conclusion, tags, hiff, hcontent, -, -⟩, hrun⟩ :=
    (run_shows_conclusion runner).1 server none block
  have hrequest : (runner.requests (runner.submission block none)).any
      (fun request => request.url.isAbsolute) = true := by decide +kernel
  obtain ⟨request, hmem, hurl⟩ := List.any_eq_true.mp hrequest
  have hreceives : runner.Receives server (runner.submission block none) 503
      (some "Asleep".toList) body := ⟨request, hmem, hurl, rfl⟩
  have hfails := FailsWith.status hreceives (by decide)
  obtain rfl := (hiff _).mp (.failed (not_delivers_of_failsWith hfails) hfails)
  rw [hrun, QueryBlock.resultRegion, Option.getD_some, hcontent]
  decide

end Runner

end CypherPages
