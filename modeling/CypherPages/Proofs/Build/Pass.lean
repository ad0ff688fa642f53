import CypherPages.Build.CodeBlock
import Mathlib.Data.Nat.Notation
import Mathlib.Tactic.Common

/-! # The steps of a build

What registering assets and taking a block through a build change, and what a build has become
after it published a number of blocks. -/

namespace CypherPages.BuildPass

/-! ### Registering assets -/

theorem register_registered (pass : BuildPass) (dependency : Dependency) :
    (pass.register dependency).assetsRegistered = true := by
  unfold register
  split
  · assumption
  · rfl

theorem register_eq_self {pass : BuildPass} (h : pass.assetsRegistered = true)
    (dependency : Dependency) : pass.register dependency = pass := if_pos h

/-- Registering assets changes nothing but the assets. -/
theorem register_frame (pass : BuildPass) (dependency : Dependency) :
    (pass.register dependency).format = pass.format ∧
      (pass.register dependency).environment = pass.environment ∧
      (pass.register dependency).timeout = pass.timeout ∧
      (pass.register dependency).blockCount = pass.blockCount := by
  unfold register
  split <;> exact ⟨rfl, rfl, rfl, rfl⟩

/-! ### Taking a block through a build -/

variable {α : Type} [BlockValue α] {pass : BuildPass} {block : CodeBlock α}

theorem process_of_not_publishes (h : pass.publishes block.classes = false) :
    pass.process block = (.ok block, pass) := by
  rw [process, h, if_neg Bool.false_ne_true]

theorem process_of_error (h : pass.publishes block.classes = true) {error : AssetError}
    (herror : Dependency.forQueries pass.timeout pass.environment = .error error) :
    pass.process block = (.error error, pass) := by
  rw [process, h, if_pos rfl, herror]

theorem process_of_ok (h : pass.publishes block.classes = true) {dependency : Dependency}
    (hdependency : Dependency.forQueries pass.timeout pass.environment = .ok dependency) :
    pass.process block = (.ok (block.publish (pass.blockCount + 1) pass.environment),
      (pass.register dependency).issue) := by
  obtain ⟨-, henvironment, -, hcount⟩ := pass.register_frame dependency
  simp only [process, h, ite_true, hdependency, issue, hcount, henvironment]

/-! ### After a number of published blocks -/

/-- What a build has become when it published `count` blocks. -/
structure Advances (pass : BuildPass) (count : ℕ) (next : BuildPass) : Prop where
  format : next.format = pass.format
  environment : next.environment = pass.environment
  timeout : next.timeout = pass.timeout
  blockCount : next.blockCount = pass.blockCount + count
  /-- Without a block the build is as it was. -/
  idle : count = 0 → next = pass
  registered : count ≠ 0 → next.assetsRegistered = true ∧ ∃ dependency,
    Dependency.forQueries pass.timeout pass.environment = .ok dependency ∧
      next.dependencies = (pass.register dependency).dependencies

theorem Advances.refl (pass : BuildPass) : pass.Advances 0 pass :=
  ⟨rfl, rfl, rfl, rfl, fun _ => rfl, fun h => absurd rfl h⟩

theorem Advances.one {dependency : Dependency}
    (h : Dependency.forQueries pass.timeout pass.environment = .ok dependency) :
    pass.Advances 1 (pass.register dependency).issue := by
  obtain ⟨hformat, henvironment, htimeout, hcount⟩ := pass.register_frame dependency
  exact ⟨hformat, henvironment, htimeout, congrArg (· + 1) hcount,
    fun hnone => absurd hnone Nat.one_ne_zero,
    fun _ => ⟨pass.register_registered dependency, dependency, h, rfl⟩⟩

theorem Advances.trans {middle next : BuildPass} {first rest : ℕ}
    (hfirst : pass.Advances first middle) (hrest : middle.Advances rest next) :
    pass.Advances (first + rest) next := by
  refine ⟨hrest.format.trans hfirst.format, hrest.environment.trans hfirst.environment,
    hrest.timeout.trans hfirst.timeout, ?_, ?_, ?_⟩
  · rw [hrest.blockCount, hfirst.blockCount, Nat.add_assoc]
  · intro hcount
    rw [hrest.idle (by omega), hfirst.idle (by omega)]
  · intro hcount
    by_cases hzero : rest = 0
    · obtain rfl := hrest.idle hzero
      exact hfirst.registered (by omega)
    · obtain ⟨hnext, dependency, hdependency, hassets⟩ := hrest.registered hzero
      by_cases hnone : first = 0
      · obtain rfl := hfirst.idle hnone
        exact ⟨hnext, dependency, hdependency, hassets⟩
      · -- The assets are those of the first block.
        obtain ⟨hmiddle, own, hown, hregistered⟩ := hfirst.registered hnone
        refine ⟨hnext, own, hown, ?_⟩
        rw [hassets, register_eq_self hmiddle, hregistered]

end CypherPages.BuildPass
