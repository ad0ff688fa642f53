import CypherPages.Query.Client
import Mathlib.Data.List.Induction
import Mathlib.Data.Nat.Notation
import Mathlib.Tactic.Common

/-! # The connections of a client

A client may be used for any number of queries and may be closed at any time, and whatever comes
of its queries it keeps to one connection: the one that it was given, or one of its own, which
it makes for the first query and again for the first query after it was closed. -/

namespace CypherPages

namespace Connections

/-- Whether a connection was made and is not closed. -/
def IsOpen (connections : Connections) (index : ℕ) : Prop :=
  connections.closed[index]? = some false

/-- The connection that the client holds, the last of those it has used. -/
def current? (connections : Connections) : Option ℕ :=
  if connections.holding then some (connections.closed.length - 1) else none

/-- The connections of a client that makes its own: a number of closed ones, and behind them the
one that it holds, if it holds one. -/
structure Own (connections : Connections) : Prop where
  given : connections.given = false
  closed : ∃ count : ℕ, connections.closed =
    List.replicate count true ++ if connections.holding then [false] else []

theorem own_start : (start false).Own := ⟨rfl, 0, rfl⟩

theorem acquire_of_holding {connections : Connections} (h : connections.holding = true) :
    connections.acquire = connections := if_pos h

theorem acquire_of_not_holding {connections : Connections} (h : connections.holding = false) :
    connections.acquire =
      { connections with closed := connections.closed ++ [false], holding := true } :=
  if_neg (by simp [h])

theorem release_of_not_holding {connections : Connections} (h : connections.holding = false) :
    connections.release = connections := if_pos (by simp [h])

theorem holding_acquire (connections : Connections) : connections.acquire.holding = true := by
  cases h : connections.holding with
  | false => rw [acquire_of_not_holding h]
  | true => rw [acquire_of_holding h, h]

namespace Own

variable {connections : Connections}

theorem acquire (h : connections.Own) : connections.acquire.Own := by
  cases hholding : connections.holding with
  | true => rwa [acquire_of_holding hholding]
  | false =>
      obtain ⟨hgiven, count, hclosed⟩ := h
      rw [acquire_of_not_holding hholding]
      refine ⟨hgiven, count, ?_⟩
      simp [hclosed, hholding]

/-- After a release all connections are closed, and there are as many as before. -/
theorem release_eq (h : connections.Own) : connections.release =
    ⟨false, List.replicate connections.closed.length true, false⟩ := by
  obtain ⟨hgiven, count, hclosed⟩ := h
  obtain ⟨given, closed, holding⟩ := connections
  cases holding with
  | false =>
      rw [release_of_not_holding rfl]
      simp_all
  | true =>
      simp only [ite_true] at hclosed hgiven
      subst hclosed hgiven
      simp [release, List.replicate_succ']

theorem release (h : connections.Own) : connections.release.Own := by
  rw [h.release_eq]
  exact ⟨rfl, connections.closed.length, (List.append_nil _).symm⟩

theorem isOpen_iff (h : connections.Own) (index : ℕ) :
    connections.IsOpen index ↔ connections.current? = some index := by
  obtain ⟨-, count, hclosed⟩ := h
  obtain ⟨given, closed, holding⟩ := connections
  cases holding with
  | false =>
      simp only [Bool.false_eq_true, ite_false, List.append_nil] at hclosed
      simp [IsOpen, current?, hclosed, List.getElem?_replicate]
  | true =>
      simp only [ite_true] at hclosed
      simp only [IsOpen, current?, hclosed, ite_true, List.length_append, List.length_replicate,
        List.length_singleton, Nat.add_sub_cancel, Option.some.injEq, List.getElem?_append]
      by_cases hlt : index < count
      · simp [hlt, Nat.ne_of_gt hlt]
      · rw [if_neg hlt, List.getElem?_singleton]
        have hindex : index - count = 0 ↔ count = index := by omega
        simp [hindex]

theorem not_isOpen_release (h : connections.Own) (index : ℕ) :
    ¬ connections.release.IsOpen index := by
  rw [h.release.isOpen_iff, h.release_eq]
  simp [current?]

end Own

end Connections

namespace Client

/-- A use of a client. A query may go anywhere and meet with any reply. -/
inductive Use
  | execute (endpoint query : Text) (reply : Reply)
  | close

def use (client : Client) : Use → Client
  | .execute endpoint query reply => (client.execute endpoint query reply).2.2
  | .close => client.close

/-- A client after uses of it, one after the other. -/
def after (client : Client) (uses : List Use) : Client := uses.foldl use client

/-- Whether closing the client after these uses closes a connection. -/
def ClosesOne (client : Client) (uses : List Use) : Prop :=
  ∃ index, (client.after uses).connections.IsOpen index ∧
    ¬ (client.after uses).close.connections.IsOpen index

/-- Whether a query after these uses is the first since the client was made, or the first since
a closing that closed a connection. -/
def NextIsFirst (client : Client) (uses : List Use) : Prop :=
  (∀ use ∈ uses, use = .close) ∨
    ∃ earlier later, uses = earlier ++ .close :: later ∧ client.ClosesOne earlier ∧
      ∀ use ∈ later, use = .close

/-- What a client that was given no connection has done with its own after these uses, and what
it does next. -/
structure KeepsOwn (client : Client) (uses : List Use) : Prop where
  /-- Every connection but the one that the client holds is closed, and that one is open. -/
  isOpen_iff : ∀ index, (client.after uses).connections.IsOpen index ↔
    (client.after uses).connections.current? = some index
  /-- A first query makes one connection, which the client then holds, whatever comes of it. -/
  makes : client.NextIsFirst uses → ∀ endpoint query reply,
    let next := ((client.after uses).execute endpoint query reply).2.2.connections
    next.closed = (client.after uses).connections.closed ++ [false] ∧
      next.current? = some (client.after uses).connections.closed.length
  /-- Any other query leaves the connections as they are, whatever comes of it. -/
  keeps : ¬ client.NextIsFirst uses → ∀ endpoint query reply,
    ((client.after uses).execute endpoint query reply).2.2.connections =
      (client.after uses).connections
  /-- Closing makes no connection, and leaves none open. -/
  closes : (client.after uses).close.connections.closed =
    List.replicate (client.after uses).connections.closed.length true
  /-- Closing once more, however often, changes nothing. -/
  closes_again : ∀ times : ℕ, client.after (uses ++ .close :: List.replicate times .close) =
    (client.after uses).close

/-! ### One use -/

theorem after_concat (client : Client) (uses : List Use) (use : Use) :
    client.after (uses ++ [use]) = (client.after uses).use use := by
  simp [after]

theorem connections_execute (client : Client) (endpoint query : Text) (reply : Reply) :
    (client.execute endpoint query reply).2.2.connections = client.connections.acquire := rfl

theorem connections_close (client : Client) :
    client.close.connections = client.connections.release := rfl

theorem own_use {client : Client} (h : client.connections.Own) (use : Use) :
    (client.use use).connections.Own := by
  cases use with
  | execute endpoint query reply => exact h.acquire
  | close => exact h.release

/-- A client that was given its connection neither makes another nor closes it. -/
theorem use_of_given {client : Client} (h : client.connections = .start true) (use : Use) :
    (client.use use).connections = .start true := by
  cases use with
  | execute endpoint query reply =>
      simp only [Client.use, connections_execute, h]
      rfl
  | close =>
      simp only [Client.use, connections_close, h]
      rfl

/-! ### Many uses -/

theorem own_after (timeout : Binary64) (decoder : Json.Decoder) (uses : List Use) :
    ((start timeout decoder false).after uses).connections.Own := by
  induction uses using List.reverseRecOn with
  | nil => exact Connections.own_start
  | append_singleton uses use ih =>
      rw [after_concat]
      exact own_use ih use

theorem after_of_given (timeout : Binary64) (decoder : Json.Decoder) (uses : List Use) :
    ((start timeout decoder true).after uses).connections = .start true := by
  induction uses using List.reverseRecOn with
  | nil => rfl
  | append_singleton uses use ih =>
      rw [after_concat]
      exact use_of_given ih use

theorem closesOne_of_holding {timeout : Binary64} {decoder : Json.Decoder} {uses : List Use}
    (h : ((start timeout decoder false).after uses).connections.holding = true) :
    (start timeout decoder false).ClosesOne uses := by
  have hown := own_after timeout decoder uses
  refine ⟨_, (hown.isOpen_iff _).mpr (if_pos h), ?_⟩
  rw [connections_close]
  exact hown.not_isOpen_release _

/-- A closing ends what a query after the uses in front of it would start anew. -/
theorem nextIsFirst_concat_close {timeout : Binary64} {decoder : Json.Decoder} {uses : List Use}
    (h : (start timeout decoder false).NextIsFirst uses ∨
      (start timeout decoder false).ClosesOne uses) :
    (start timeout decoder false).NextIsFirst (uses ++ [.close]) := by
  have hlast : ∀ later : List Use, (∀ use ∈ later, use = .close) →
      ∀ use ∈ later ++ [.close], use = .close := by
    intro later hlater use hmem
    rcases List.mem_append.mp hmem with hmem | hmem
    · exact hlater use hmem
    · exact List.mem_singleton.mp hmem
  rcases h with (hnone | ⟨earlier, later, rfl, hcloses, hlater⟩) | hcloses
  · exact .inl (hlast uses hnone)
  · exact .inr ⟨earlier, later ++ [.close], by simp, hcloses, hlast later hlater⟩
  · exact .inr ⟨uses, [], rfl, hcloses, List.forall_mem_nil _⟩

theorem not_nextIsFirst_concat_execute (client : Client) (uses : List Use)
    (endpoint query : Text) (reply : Reply) :
    ¬ client.NextIsFirst (uses ++ [.execute endpoint query reply]) := by
  rintro (hnone | ⟨earlier, later, huses, -, hlater⟩)
  · cases hnone _ (List.mem_append_right _ (List.mem_singleton_self _))
  · cases later using List.reverseRecOn with
    | nil => cases (List.append_inj_right' huses rfl)
    | append_singleton later use =>
        rw [← List.cons_append, ← List.append_assoc] at huses
        cases List.append_inj_right' huses rfl
        cases hlater _ (List.mem_append_right _ (List.mem_singleton_self _))

/-- A client without a connection of its own makes one with its next query. -/
theorem nextIsFirst_iff (timeout : Binary64) (decoder : Json.Decoder) (uses : List Use) :
    (start timeout decoder false).NextIsFirst uses ↔
      ((start timeout decoder false).after uses).connections.holding = false := by
  induction uses using List.reverseRecOn with
  | nil => exact iff_of_true (.inl (List.forall_mem_nil _)) rfl
  | append_singleton uses use ih =>
      rw [after_concat]
      cases use with
      | execute endpoint query reply =>
          have hholding := Connections.holding_acquire
            ((start timeout decoder false).after uses).connections
          refine iff_of_false (not_nextIsFirst_concat_execute _ uses endpoint query reply) ?_
          simp only [Client.use, connections_execute, hholding, Bool.true_eq_false,
            not_false_eq_true]
      | close =>
          refine iff_of_true (nextIsFirst_concat_close ?_) ?_
          · cases hholding : ((start timeout decoder false).after uses).connections.holding with
            | false => exact .inl (ih.mpr hholding)
            | true => exact .inr (closesOne_of_holding hholding)
          · rw [Client.use, connections_close, (own_after timeout decoder uses).release_eq]

theorem close_close {client : Client} (h : client.connections.Own) :
    client.close.close = client.close := by
  have hnone : client.close.connections.holding = false := by
    rw [connections_close, h.release_eq]
  exact congrArg (Client.mk client.timeout client.decoder)
    (Connections.release_of_not_holding hnone)

theorem keepsOwn (timeout : Binary64) (decoder : Json.Decoder) (uses : List Use) :
    (start timeout decoder false).KeepsOwn uses where
  isOpen_iff := (own_after timeout decoder uses).isOpen_iff
  makes hfirst endpoint query reply := by
    have hnone := (nextIsFirst_iff timeout decoder uses).mp hfirst
    simp [connections_execute, Connections.acquire_of_not_holding hnone, Connections.current?]
  keeps hfirst endpoint query reply := by
    rw [nextIsFirst_iff, Bool.not_eq_false] at hfirst
    rw [connections_execute, Connections.acquire_of_holding hfirst]
  closes := by rw [connections_close, (own_after timeout decoder uses).release_eq]
  closes_again times := by
    have hown := own_after timeout decoder uses
    induction times with
    | zero => exact after_concat _ _ _
    | succ times ih =>
        rw [List.replicate_succ', ← List.cons_append, ← List.append_assoc, after_concat, ih]
        exact close_close hown

/-- A client that was given its connection never makes another and never closes it. A client
without one makes a connection exactly for the first query, and for the first query after a
closing that closed one; it closes it when it is closed, and never otherwise. -/
theorem connections_after_uses (timeout : Binary64) (decoder : Json.Decoder)
    (uses : List Use) :
    ((start timeout decoder true).after uses).connections.closed = [false] ∧
      (start timeout decoder false).KeepsOwn uses :=
  ⟨congrArg Connections.closed (after_of_given timeout decoder uses),
    keepsOwn timeout decoder uses⟩

/-- A query that fails, a closing, and two queries: the second connection is the one held. -/
example :
    let query := Use.execute defaultEndpoint "RETURN 1".toList
    ((start (.ofInt 10) .standard false).after
      [query .silence, .close, .close, query .gaveUp, query .silence]).connections =
      ⟨false, [true, false], true⟩ := rfl

end Client

end CypherPages
