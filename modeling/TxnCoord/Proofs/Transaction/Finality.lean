import TxnCoord.Proofs.Transaction.Life
import TxnCoord.Manager.Scope
/-!
# A transaction's life only moves forward

Every operation of a handle keeps to `lifeRules` from any state of the world, so whatever
the servers and drivers answer: running a batch, committing, rolling back, keeping alive,
closing without a request, ending and dropping a scope, the keep-alive task and the making
of a handle (`KeepsLife`). The scheduler leaves lives alone, so by the rules of `Agenda` a
run of such tasks, interleaved in any order at their waits, lets every handle's life only
move forward: a state that left open never changes again, and a known address or a recorded
failure stays as it is.

The writes that end a transaction come after a read that found it open, in the same atomic
segment: sending a request and waiting for no one in between, the handle is still open when
it is marked committed or rolled back (`Triple.pre_open`). The other writes check what they
overwrite themselves.

    Sound lifeRules a → World.Evolves a.state (loop World.host fuel a).state
                                                       (handle_life_evolves_in_every_run)
-/

namespace TxnCoord

namespace Transaction

variable {P : World → Prop}

theorem issue_life (hP : Stable World.SameState P) (h : Nat) :
    Triple lifeRules P (Step.issue h) (fun _ => P) :=
  Triple.modifyGet_sameLife (fun s => by
    simp only [Sequencer.issue]
    apply World.SameLife.hold
    exact s.sameLife_modifyHandle h fun _ => rfl) hP

theorem finishTicket_life (hP : Stable World.SameState P) (h n : Nat) :
    Triple lifeRules P (Step.finishTicket h n) (fun _ => P) :=
  Triple.change_sameLife (fun s => ((World.SameLife.refl s).unhold _).trans
    ((s.unhold _).sameLife_modifyHandle h fun _ => rfl)) hP

theorem beginPending_life (hP : Stable World.SameState P) (h : Nat) :
    Triple lifeRules P (Step.beginPending h) (fun _ => P) :=
  Triple.change_sameLife (fun s => by
    apply World.SameLife.hold
    exact s.sameLife_modifyHandle h fun _ => rfl) hP

theorem endPending_life (hP : Stable World.SameState P) (h : Nat) :
    Triple lifeRules P (Step.endPending h) (fun _ => P) :=
  Triple.change_sameLife (fun s => ((World.SameLife.refl s).unhold _).trans
    ((s.unhold _).sameLife_modifyHandle h fun _ => rfl)) hP

theorem send_life (hP : Stable World.SameState P) (h : Nat) (m : Http.Method) (uri : String)
    (body : Option Json) : Triple lifeRules P (send h m uri body) (fun _ => P) :=
  Triple.modifyGet_sameLife (fun _ => World.SameLife.of_handles rfl) hP

theorem runStatements_life (hP : Stable World.SameState P) (m : Nat) (ss : List Statement) :
    Triple lifeRules P (runStatements m ss) (fun _ => P) := by
  induction ss with
  | nil => exact Triple.pure _
  | cons s rest ih =>
    unfold runStatements
    refine Triple.bind (Triple.modifyGet_sameLife (fun _ => World.SameLife.of_handles rfl) hP) fun r => ?_
    split
    · exact Triple.pure _
    · exact Triple.bind ih fun r => by split <;> exact Triple.pure _

/-- Only an older server's statement failure gives an unbegun handle its address. -/
theorem post_life (hP : Stable World.SameState P) (h : Nat) (uri : String) (batch : Batch) :
    Triple lifeRules P (post h uri batch) (fun _ => P) := by
  unfold post
  refine Triple.bind (send_life hP h _ _ _) fun r => ?_
  split
  · exact Triple.pure _
  · dsimp only
    split
    · refine Triple.bind (Triple.change_sameState (fun s _ => ?_) (fun s => ?_) hP) fun _ => Triple.pure _
      · refine s.evolves_modifyHandle h ?_
        split
        · rename_i hc
          simp only [Bool.and_eq_true, Option.isNone_iff_eq_none] at hc
          exact Handle.Evolves.of_location_none hc.2 _
        · exact Handle.Evolves.refl _
      · exact World.handle_rel_modifyHandle (fun a b => b.state = a.state) (fun _ => rfl) s h _
          (by split <;> rfl)
    · exact Triple.pure _

theorem setState_life (h : Nat) (st : TxState) :
    Triple lifeRules (fun s => (s.handle h).state = .open) (setState h st) (fun _ _ => True) :=
  (Triple.modify fun s hs => s.evolves_modifyHandle h (Handle.Evolves.of_open hs st)).post
    fun _ _ _ => trivial

/-- The driver's call leaves every handle alone, and the handle it ends was open. -/
theorem finishSession_life (h m : Nat) (commit : Bool) :
    Triple lifeRules (fun s => (s.handle h).state = .open) (finishSession h m commit)
      (fun _ _ => True) :=
  (Triple.modifyGet fun s hs =>
    (s.endSession m commit).2.evolves_modifyHandle h (Handle.Evolves.of_open hs _)).post
    fun _ _ _ => trivial

theorem vanished_life (h : Nat) :
    Triple lifeRules (fun s => (s.handle h).state = .open) (vanished h) (fun _ _ => True) :=
  Triple.bind (setState_life h _) fun _ => Triple.pure _

/-- A failure is recorded only where none is, and ends only an open transaction. -/
theorem recordFailure_life (h : Nat) (f : Http.Failure) : KeepsLife (recordFailure h f) := by
  unfold recordFailure
  dsimp only
  split
  · exact Triple.bind (Triple.modify fun s _ =>
      s.evolves_modifyHandle h (Handle.Evolves.of_failed _ rfl _ _)) fun _ =>
      Triple.pure_of fun _ _ => trivial
  · exact Triple.pure_of fun _ _ => trivial

/-- The address is taken only by a handle that had none when the answer was read. -/
theorem absorb_life (h : Nat) (a : Http.Accepted) : KeepsLife (absorb h a).run := by
  unfold absorb
  refine Triple.run_liftM_bind (Triple.get lifeRules_lawful) fun w => ?_
  extract_lets hd expiry
  -- the expiry comes last, whether the address was new or not
  have hexpiry : ∀ (u : Unit) (Q : World → Prop), Triple lifeRules Q (expiry u).run
      (fun _ _ => True) := by
    intro u Q
    dsimp only [expiry]
    split
    · refine Triple.run_liftM ((Triple.change_sameLife (fun s => ?_) stable_true).conseq
        (fun _ _ => trivial) fun _ _ _ => trivial)
      exact s.sameLife_modifyHandle h fun _ => rfl
    · exact Triple.run_pure fun _ _ => trivial
  split
  · rename_i hnone
    split
    · refine Triple.run_liftM_bind (Triple.modify fun s hs => s.evolves_modifyHandle h
        (Handle.Evolves.of_location_none ?_ _)) fun u => hexpiry u _
      exact (congrArg (fun l => l.2.1) (hs.2 h)).trans (Option.isNone_iff_eq_none.1 hnone)
    · exact Triple.run_throw_bind fun _ _ => trivial
  · exact hexpiry () _

theorem httpExecute_life (h n : Nat) (batch : Batch) : KeepsLife (httpExecute h n batch).run := by
  unfold httpExecute
  refine Triple.run_liftM_bind (Triple.await _) fun _ => ?_
  refine Triple.run_andThen (fun _ _ => True) ?_ fun _ =>
    Triple.bind (endPending_life stable_true h) fun _ => finishTicket_life stable_true h n
  refine Triple.run_liftM_bind (Triple.get lifeRules_lawful) fun w => ?_
  dsimp only
  refine Triple.run_ofExcept_bind (fun _ hok => ?_) fun _ _ _ _ => trivial
  refine Triple.pre_open ((TxState.ensureOpen_ok_iff _).1 hok) ?_
  refine Triple.run_liftM_bind (post_life (stable_open h) h _ batch) fun r => ?_
  split
  · exact Triple.run_bind (fun _ _ => True) ((absorb_life h _).pre fun _ _ => trivial)
      (fun _ => Triple.run_pure fun _ _ => trivial) fun _ _ _ => trivial
  · split
    · exact Triple.run_liftM_bind (vanished_life h) fun _ => Triple.run_throw fun _ _ => trivial
    · exact Triple.run_throw fun _ _ => trivial
  · exact Triple.run_liftM_bind ((recordFailure_life h _).pre fun _ _ => trivial) fun _ =>
      Triple.run_throw fun _ _ => trivial

/-- An operation that takes a ticket of `h` and gives it back after its body lets every life
move on only as its body does. -/
theorem ticketed_life {α : Type} (h : Nat) {x : Tx α} (hx : KeepsLife x.run) :
    KeepsLife
      (do let n ← Step.issue h; Step.waitTurn h n; Tx.andThen x (Step.finishTicket h n) : Tx α).run := by
  refine Triple.run_liftM_bind (issue_life stable_true h) fun n => ?_
  refine Triple.run_liftM_bind (Triple.await _) fun _ => ?_
  exact Triple.run_andThen (fun _ _ => True) (hx.pre fun _ _ => trivial) fun _ =>
    finishTicket_life stable_true h n

theorem httpKeepAlive_life (h : Nat) : KeepsLife (httpKeepAlive h).run := by
  unfold httpKeepAlive
  refine ticketed_life h ?_
  refine Triple.run_liftM_bind (Triple.get lifeRules_lawful) fun w => ?_
  dsimp only
  refine Triple.run_ofExcept_bind (fun _ hok => ?_) fun _ _ _ _ => trivial
  refine Triple.pre_open ((TxState.ensureOpen_ok_iff _).1 hok) ?_
  split
  · exact Triple.run_pure fun _ _ => trivial
  · refine Triple.run_liftM_bind (post_life (stable_open h) h _ _) fun r => ?_
    split
    · exact (absorb_life h _).pre fun _ _ => trivial
    · exact Triple.run_liftM_bind (vanished_life h) fun _ => Triple.run_throw fun _ _ => trivial
    · exact Triple.run_liftM_bind ((recordFailure_life h _).pre fun _ _ => trivial) fun _ =>
        Triple.run_throw fun _ _ => trivial

theorem httpCommit_life (h : Nat) (batch : Batch) : KeepsLife (httpCommit h batch).run := by
  unfold httpCommit
  extract_lets committing afterPending
  -- the request once its address is settled, on a handle still open
  have request : ∀ uri, Triple lifeRules (fun s => (s.handle h).state = .open)
      (committing uri).run (fun _ _ => True) := by
    intro uri
    refine Triple.run_liftM_bind (post_life (stable_open h) h _ batch) fun r => ?_
    split
    · exact Triple.run_liftM_bind (setState_life h _) fun _ => Triple.run_pure fun _ _ => trivial
    · exact Triple.run_liftM_bind (vanished_life h) fun _ => Triple.run_throw fun _ _ => trivial
    · exact Triple.run_throw fun _ _ => trivial
    · exact Triple.run_liftM_bind (setState_life h _) fun _ => Triple.run_throw fun _ _ => trivial
  refine Triple.run_liftM_bind (Triple.get lifeRules_lawful) fun w₀ => ?_
  dsimp only
  split
  · exact Triple.run_throw_bind fun _ _ => trivial
  refine (ticketed_life h ?_).pre fun _ _ => trivial
  refine Triple.run_liftM_bind (Triple.get lifeRules_lawful) fun w => ?_
  dsimp only
  split
  · exact Triple.run_throw_bind fun _ _ => trivial
  refine Triple.run_ofExcept_bind (fun _ hok => ?_) fun _ _ _ _ => trivial
  refine Triple.pre_open ((TxState.ensureOpen_ok_iff _).1 hok) ?_
  split
  · exact Triple.run_pure_bind (request _)
  · split
    · exact Triple.run_liftM_bind (setState_life h _) fun _ => Triple.run_pure fun _ _ => trivial
    · exact Triple.run_pure_bind (request _)

theorem httpRollback_life (h : Nat) : KeepsLife (httpRollback h).run := by
  unfold httpRollback
  refine ticketed_life h ?_
  refine Triple.run_liftM_bind (Triple.get lifeRules_lawful) fun w => ?_
  dsimp only
  split
  · exact Triple.run_pure fun _ _ => trivial
  refine Triple.run_ofExcept_bind (fun _ hok => ?_) fun _ _ _ _ => trivial
  refine Triple.pre_open ((TxState.ensureOpen_ok_iff _).1 hok) ?_
  split
  · exact Triple.run_liftM (setState_life h _)
  · refine Triple.run_liftM_bind (send_life (stable_open h) h _ _ _) fun r => ?_
    refine Triple.run_liftM_bind (setState_life h _) fun _ => ?_
    split
    · exact Triple.run_pure fun _ _ => trivial
    · exact Triple.run_pure fun _ _ => trivial
    · exact Triple.run_throw fun _ _ => trivial

theorem sessionExecute_life (h n : Nat) (batch : Batch) : KeepsLife (sessionExecute h n batch).run := by
  unfold sessionExecute
  refine Triple.run_liftM_bind (Triple.await _) fun _ => ?_
  refine Triple.run_andThen (fun _ _ => True) ?_ fun _ =>
    Triple.bind (endPending_life stable_true h) fun _ => finishTicket_life stable_true h n
  refine Triple.run_liftM_bind (Triple.get lifeRules_lawful) fun w => ?_
  dsimp only
  refine Triple.run_ofExcept_bind (fun _ _ => ?_) fun _ _ _ _ => trivial
  refine Triple.run_liftM_bind ((runStatements_life stable_true _ _).pre fun _ _ => trivial) fun r => ?_
  split
  · exact Triple.run_pure fun _ _ => trivial
  · refine Triple.run_liftM_bind (Triple.modify fun s _ => s.evolves_modifyHandle h ?_) fun _ =>
      Triple.run_throw fun _ _ => trivial
    split
    · rename_i hc
      simp only [Bool.and_eq_true, Option.isNone_iff_eq_none] at hc
      exact Handle.Evolves.of_failure_none hc.2 _
    · exact Handle.Evolves.refl _

theorem sessionCommit_life (h : Nat) (batch : Batch) : KeepsLife (sessionCommit h batch).run := by
  unfold sessionCommit
  extract_lets finishing lastBatch
  -- the commit proper, after the last batch ran
  have finish : ∀ results, KeepsLife (finishing results).run := by
    intro results
    refine ticketed_life h ?_
    refine Triple.run_liftM_bind (Triple.get lifeRules_lawful) fun w => ?_
    dsimp only
    refine Triple.run_ofExcept_bind (fun _ hok => ?_) fun _ _ _ _ => trivial
    refine Triple.pre_open ((TxState.ensureOpen_ok_iff _).1 hok) ?_
    split
    · exact Triple.run_liftM_bind (finishSession_life h _ _) fun _ => Triple.run_throw fun _ _ => trivial
    · refine Triple.run_liftM_bind (finishSession_life h _ _) fun r => ?_
      split
      · exact Triple.run_pure fun _ _ => trivial
      · exact Triple.run_throw fun _ _ => trivial
  refine Triple.run_liftM_bind (Triple.get lifeRules_lawful) fun w₀ => ?_
  dsimp only
  split
  · exact Triple.run_throw_bind fun _ _ => trivial
  dsimp only [lastBatch]
  split
  · exact Triple.run_pure_bind ((finish _).pre fun _ _ => trivial)
  · refine Triple.run_liftM_bind ((beginPending_life stable_true h).pre fun _ _ => trivial) fun _ => ?_
    refine Triple.run_liftM_bind (issue_life stable_true h) fun n => ?_
    exact Triple.run_bind (fun _ _ => True) (sessionExecute_life h n batch) (fun _ => finish _)
      fun _ _ _ => trivial

theorem sessionRollback_life (h : Nat) : KeepsLife (sessionRollback h).run := by
  unfold sessionRollback
  refine ticketed_life h ?_
  refine Triple.run_liftM_bind (Triple.get lifeRules_lawful) fun w => ?_
  dsimp only
  refine Triple.run_ofExcept_bind (fun _ hok => ?_) fun _ _ _ _ => trivial
  refine Triple.pre_open ((TxState.ensureOpen_ok_iff _).1 hok) ?_
  refine Triple.run_liftM_bind (finishSession_life h _ _) fun r => ?_
  split
  · exact Triple.run_pure fun _ _ => trivial
  · split
    · exact Triple.run_pure fun _ _ => trivial
    · split
      · exact Triple.run_pure fun _ _ => trivial
      · exact Triple.run_throw fun _ _ => trivial

theorem reserve_life (h : Nat) : KeepsLife (reserve h) :=
  Triple.bind (beginPending_life stable_true h) fun _ => issue_life stable_true h

theorem executeReserved_life (h n : Nat) (batch : Batch) :
    KeepsLife (executeReserved h n batch).run := by
  unfold executeReserved
  refine Triple.run_liftM_bind (Triple.get lifeRules_lawful) fun w => ?_
  split
  · exact (httpExecute_life h n batch).pre fun _ _ => trivial
  · exact (sessionExecute_life h n batch).pre fun _ _ => trivial

theorem execute_life (h : Nat) (batch : Batch) : KeepsLife (execute h batch).run :=
  Triple.run_liftM_bind (reserve_life h) fun n => executeReserved_life h n batch

theorem commitWith_life (h : Nat) (batch : Batch) : KeepsLife (commitWith h batch).run := by
  unfold commitWith
  refine Triple.run_liftM_bind (Triple.get lifeRules_lawful) fun w => ?_
  split
  · exact (httpCommit_life h batch).pre fun _ _ => trivial
  · exact (sessionCommit_life h batch).pre fun _ _ => trivial

theorem commit_life (h : Nat) : KeepsLife (commit h).run :=
  Triple.run_bind (fun _ _ => True) (commitWith_life h {}) (fun _ => Triple.run_pure fun _ _ => trivial)
    fun _ _ _ => trivial

theorem rollback_life (h : Nat) : KeepsLife (rollback h).run := by
  unfold rollback
  refine Triple.run_liftM_bind (Triple.get lifeRules_lawful) fun w => ?_
  split
  · exact (httpRollback_life h).pre fun _ _ => trivial
  · exact (sessionRollback_life h).pre fun _ _ => trivial

theorem keepAlive_life (h : Nat) : KeepsLife (keepAlive h).run := by
  unfold keepAlive
  refine Triple.run_liftM_bind (Triple.get lifeRules_lawful) fun w => ?_
  dsimp only
  split
  · exact (httpKeepAlive_life h).pre fun _ _ => trivial
  · exact Triple.run_ofExcept fun _ _ => trivial

/-- Closing locally only ever ends an open transaction. -/
theorem abandonLocally_life (h : Nat) : KeepsLife (abandonLocally h) := by
  refine (Triple.modifyGet fun s _ => ?_).post fun _ _ _ => trivial
  dsimp only
  split
  · split
    · rename_i hc
      simp only [Bool.and_eq_true, beq_iff_eq] at hc
      exact s.evolves_modifyHandle h (Handle.Evolves.of_open hc.2 _)
    · exact fun _ => Handle.Evolves.refl _
  · exact fun _ => Handle.Evolves.refl _

theorem keepAliveFrom_life (h start period : Nat) :
    ∀ fuel k, KeepsLife (keepAliveFrom h start period fuel k) := by
  intro fuel
  induction fuel with
  | zero => intro k; exact Triple.pure _
  | succ fuel ih =>
    intro k
    unfold keepAliveFrom
    refine Triple.bind (Triple.await _) fun _ => ?_
    refine Triple.bind (Triple.get lifeRules_lawful) fun w => ?_
    dsimp only
    split
    · exact Triple.pure_of fun _ _ => trivial
    split
    · exact (ih _).pre fun _ _ => trivial
    refine Triple.bind ((keepAlive_life h).pre fun _ _ => trivial) fun r => ?_
    split
    · split
      · exact Triple.pure _
      · exact ih _
    · exact ih _

theorem keepAliveTask_life (h period : Nat) : KeepsLife (keepAliveTask h period) := by
  unfold keepAliveTask
  refine Triple.bind (Triple.get lifeRules_lawful) fun w => ?_
  refine Triple.bind (Triple.await _) fun _ => ?_
  exact (keepAliveFrom_life h _ period _ _).pre fun _ _ => trivial

theorem addHandle_life (database : String) (link : Link) : KeepsLife (addHandle database link) :=
  (Triple.modifyGet fun s _ => s.evolves_push _).post fun _ _ _ => trivial

theorem newHandle_life (m : Nat) (version : ServerVersion) (database : String) :
    KeepsLife (newHandle m version database).run := by
  unfold newHandle
  refine Triple.run_liftM_bind (Triple.get lifeRules_lawful) fun w => ?_
  dsimp only
  split
  · refine Triple.run_liftM_bind ((addHandle_life _ _).pre fun _ _ => trivial) fun h => ?_
    split
    · refine Triple.run_liftM_bind (Triple.spawn ?_) fun _ => Triple.run_pure fun _ _ => trivial
      exact Safe.of_true (keepAliveTask_life h _ _ fun _ => .done)
    · exact Triple.run_pure fun _ _ => trivial
  · refine Triple.run_liftM_bind ((Triple.modifyGet_sameLife (fun _ => World.SameLife.of_handles rfl)
      stable_true).pre fun _ _ => trivial) fun fault => ?_
    split
    · exact Triple.run_throw fun _ _ => trivial
    · exact Triple.run_liftM (addHandle_life _ _)

end Transaction

namespace Manager

open Transaction

theorem retire_life {P : World → Prop} (hP : Stable World.SameState P) (ctx r : Nat) :
    Triple lifeRules P (retire ctx r) (fun _ => P) :=
  Triple.modifyGet_sameLife (fun s => by
    split
    · exact World.SameLife.refl s
    · exact World.SameLife.of_handles rfl) hP

theorem finishScope_life (ctx r : Nat) : KeepsLife (finishScope ctx r).run := by
  unfold finishScope
  refine Triple.run_liftM_bind (retire_life stable_true ctx r) fun b => ?_
  split
  · exact Triple.run_pure fun _ _ => trivial
  refine Triple.run_liftM_bind (Triple.get lifeRules_lawful) fun w => ?_
  dsimp only
  split
  · refine Triple.run_liftM_bind (Triple.get lifeRules_lawful) fun w' => ?_
    split
    · refine Triple.run_liftM_bind ((abandonLocally_life _).pre fun _ _ => trivial) fun b => ?_
      split
      · exact Triple.run_pure fun _ _ => trivial
      · exact (rollback_life _).pre fun _ _ => trivial
    · exact Triple.run_pure fun _ _ => trivial
  · exact Triple.run_pure fun _ _ => trivial

theorem dropScope_life (ctx r : Nat) : KeepsLife (dropScope ctx r) := by
  unfold dropScope
  refine Triple.bind (retire_life stable_true ctx r) fun b => ?_
  split
  · exact Triple.pure _
  refine Triple.bind (Triple.get lifeRules_lawful) fun w => ?_
  dsimp only
  split
  · refine Triple.bind (Triple.get lifeRules_lawful) fun w' => ?_
    split
    · exact Triple.pure_of fun _ _ => trivial
    · refine Triple.bind ((abandonLocally_life _).pre fun _ _ => trivial) fun b => ?_
      split
      · exact Triple.pure_of fun _ _ => trivial
      · refine Triple.bind (Triple.spawn ?_) fun _ => Triple.pure_of fun _ _ => trivial
        exact Safe.of_true (rollback_life _ _ fun _ => .done)
  · exact Triple.pure_of fun _ _ => trivial

end Manager

end TxnCoord
