import CypherPages.Page.Writer
import CypherPages.Proofs.Related
import CypherPages.Run.Session
import Mathlib.Data.List.Induction
import Mathlib.Tactic.Common

/-! # The history of a session

A history tells what was done in a session without a look at the regions of the page. It fixes
the page that the session shows: of each block, only the number of its runs and the reply to
the latest of them count. -/

namespace CypherPages

/-- A run as a history remembers it: its block, and the reply that it met with, if any. -/
structure PastRun where
  block : ℕ
  reply : Option Reply

/-- A reply to a run arrives. Only the first one counts. -/
def PastRun.answer (past : PastRun) (reply : Reply) : PastRun :=
  { past with reply := past.reply.or (some reply) }

/-- The replies to the runs on one block, oldest run first. -/
def PastRun.replies (runs : List PastRun) (block : ℕ) : List (Option Reply) :=
  (runs.filter fun run => run.block = block).map PastRun.reply

/-- The runs in the order in which they were started, and whether run controls were attached. -/
structure History where
  runs : List PastRun
  attached : Bool

namespace History

/-- A step on a page with `size` blocks. -/
def step (size : ℕ) (history : History) : Session.Step → History
  | .start block =>
    if block < size then { history with runs := history.runs ++ [⟨block, none⟩] } else history
  | .arrive run reply =>
    { history with runs := history.runs.modify run fun past => past.answer reply }
  | .attachControls => { history with attached := true }

/-- What steps do, one after the other. -/
def ofSteps (size : ℕ) (steps : List Session.Step) : History := steps.foldl (step size) ⟨[], false⟩

end History

/-- A block after runs that met with these replies, of which `shown` says what is shown. -/
def QueryBlock.afterRuns (shown : Reply → Text) (block : QueryBlock)
    (replies : List (Option Reply)) : QueryBlock :=
  match replies.getLast? with
  | none => block
  | some reply =>
    { block with
      result := some
        { block.resultRegion with
          content := (reply.map shown).getD Render.runningNotice
          generation := block.resultRegion.generation + replies.length } }

/-- What is shown for a reply to a run on a block of a page. -/
def Runner.shown (runner : Runner) (page : Page) (block : QueryBlock) (reply : Reply) : Text :=
  runner.content (fun _ => reply) (runner.submission block page.defaultEndpoint?)

/-- The page that a history leaves. -/
def History.page (runner : Runner) (page : Page) (history : History) : Page :=
  let ready := if history.attached then page.attachControls else page
  { ready with
    blocks := ready.blocks.mapIdx fun index block =>
      block.afterRuns (runner.shown page block) (PastRun.replies history.runs index) }

/-! ### The runs on one block -/

theorem PastRun.replies_append (runs more : List PastRun) (block : ℕ) :
    replies (runs ++ more) block = replies runs block ++ replies more block := by
  simp [replies]

theorem PastRun.replies_cons (past : PastRun) (later : List PastRun) (block : ℕ) :
    replies (past :: later) block =
      if past.block = block then past.reply :: replies later block else replies later block := by
  by_cases h : past.block = block <;> simp [replies, h]

@[simp] theorem PastRun.block_answer (past : PastRun) (reply : Reply) :
    (past.answer reply).block = past.block := rfl

@[simp] theorem PastRun.reply_answer (past : PastRun) (reply : Reply) :
    (past.answer reply).reply = past.reply.or (some reply) := rfl

theorem PastRun.answer_of_isSome {past : PastRun} (h : past.reply.isSome) (reply : Reply) :
    past.answer reply = past := by
  obtain ⟨block, found⟩ := past
  cases found with
  | none => cases h
  | some first => rfl

theorem PastRun.modify_answer_of_isSome {runs : List PastRun} {index : ℕ} {past : PastRun}
    (hpast : runs[index]? = some past) (h : past.reply.isSome) (reply : Reply) :
    (runs.modify index fun past => past.answer reply) = runs := by
  apply List.ext_getElem?
  intro k
  by_cases hk : index = k
  · subst hk
    rw [List.getElem?_modify_eq, hpast]
    exact congrArg some (answer_of_isSome h reply)
  · rw [List.getElem?_modify_ne _ _ hk]

/-- A reply changes neither the blocks of the runs nor their order. -/
theorem PastRun.length_replies_modify_answer (runs : List PastRun) (index : ℕ) (reply : Reply)
    (block : ℕ) : (replies (runs.modify index fun past => past.answer reply) block).length =
      (replies runs block).length := by
  induction runs generalizing index with
  | nil => simp
  | cons past runs ih =>
      cases index with
      | zero =>
          simp only [List.modify_zero_cons, replies_cons, block_answer]
          by_cases h : past.block = block <;> simp [h]
      | succ index =>
          simp only [List.modify_succ_cons, replies_cons]
          split <;> simp [ih index]

namespace QueryBlock

theorem afterRuns_nil (shown : Reply → Text) (block : QueryBlock) :
    block.afterRuns shown [] = block := rfl

theorem afterRuns_of_getLast? {shown : Reply → Text} {block : QueryBlock}
    {replies : List (Option Reply)} {latest : Option Reply} (h : replies.getLast? = some latest) :
    block.afterRuns shown replies =
      { block with
        result := some
          { block.resultRegion with
            content := (latest.map shown).getD Render.runningNotice
            generation := block.resultRegion.generation + replies.length } } := by
  simp only [afterRuns, h]

theorem generation_afterRuns (shown : Reply → Text) (block : QueryBlock)
    (replies : List (Option Reply)) :
    (block.afterRuns shown replies).resultRegion.generation =
      block.resultRegion.generation + replies.length := by
  cases h : replies.getLast? with
  | none => simp [List.getLast?_eq_none_iff.mp h, afterRuns_nil]
  | some reply => simp [afterRuns, h, resultRegion]

theorem content_afterRuns {shown : Reply → Text} {block : QueryBlock}
    {replies : List (Option Reply)} {latest : Option Reply} (h : replies.getLast? = some latest) :
    (block.afterRuns shown replies).resultRegion.content =
      (latest.map shown).getD Render.runningNotice := by
  simp [afterRuns, h, resultRegion]

@[simp] theorem query_afterRuns (shown : Reply → Text) (block : QueryBlock)
    (replies : List (Option Reply)) : (block.afterRuns shown replies).query = block.query := by
  unfold afterRuns
  split <;> rfl

@[simp] theorem attributes_afterRuns (shown : Reply → Text) (block : QueryBlock)
    (replies : List (Option Reply)) :
    (block.afterRuns shown replies).attributes = block.attributes := by
  unfold afterRuns
  split <;> rfl

theorem insertControl_afterRuns (shown : Reply → Text) (block : QueryBlock)
    (replies : List (Option Reply)) (control : Control) :
    (block.afterRuns shown replies).insertControl control =
      (block.insertControl control).afterRuns shown replies := by
  unfold afterRuns
  split <;> rfl

/-- Only the number of the replies and the last of them count. -/
theorem afterRuns_congr {shown : Reply → Text} {block : QueryBlock}
    {replies others : List (Option Reply)} (hlength : replies.length = others.length)
    (hlast : replies.getLast?.map (Option.map shown) = others.getLast?.map (Option.map shown)) :
    block.afterRuns shown replies = block.afterRuns shown others := by
  unfold afterRuns
  cases h : replies.getLast? <;> cases h' : others.getLast? <;> simp_all

theorem beginRun_afterRuns (shown : Reply → Text) (block : QueryBlock)
    (replies : List (Option Reply)) :
    (block.afterRuns shown replies).beginRun = block.afterRuns shown (replies ++ [none]) := by
  have hg := generation_afterRuns shown block replies
  cases h : replies.getLast? with
  | none =>
      obtain rfl := List.getLast?_eq_none_iff.mp h
      rfl
  | some reply =>
      simp [afterRuns, h, beginRun, updateResult, ResultRegion.begin, resultRegion, Nat.add_assoc]

/-- The token of a run is the number of the runs up to it. Where a later run was started the
token is no longer the generation, and the reply to the later run is the one that counts. -/
theorem settleRun_afterRuns (shown : Reply → Text) (block : QueryBlock)
    (earlier later : List (Option Reply)) (reply : Reply) :
    (block.afterRuns shown (earlier ++ none :: later)).settleRun
        (block.resultRegion.generation + earlier.length + 1) (shown reply) =
      block.afterRuns shown (earlier ++ some reply :: later) := by
  cases later using List.reverseRecOn with
  | nil =>
      have hpending : (earlier ++ [none]).getLast? = some none := List.getLast?_concat
      have hanswered : (earlier ++ [some reply]).getLast? = some (some reply) :=
        List.getLast?_concat
      rw [afterRuns_of_getLast? hpending, afterRuns_of_getLast? hanswered]
      simp [settleRun, updateResult, ResultRegion.settle, ResultRegion.accepts, resultRegion,
        Nat.add_assoc]
  | append_singleton later latest =>
      have hlatest : ∀ first : Option Reply,
          (earlier ++ first :: (later ++ [latest])).getLast? = some latest := fun first => by
        simp [List.getLast?_cons]
      rw [afterRuns_of_getLast? (hlatest none), afterRuns_of_getLast? (hlatest (some reply))]
      have stale : ¬ block.resultRegion.generation + earlier.length + 1 =
          block.resultRegion.generation + (earlier ++ none :: (later ++ [latest])).length := by
        simp only [List.length_append, List.length_cons, List.length_nil]
        omega
      have hregion : ∀ region : ResultRegion,
          { block with result := some region }.resultRegion = region := fun _ => rfl
      simp only [settleRun, updateResult, hregion, ResultRegion.settle, ResultRegion.accepts,
        beq_iff_eq, stale, ite_false]
      simp

end QueryBlock

end CypherPages
