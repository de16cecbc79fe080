import TxnCoord.Proofs.Transaction.Failure
import TxnCoord.Manager.Scope
/-!
# After a server rolled back on a statement failure

Once the server rolled a transaction back with statement failure `e` (`RolledBackBy h e`),
nothing more is sent for the handle: every operation keeps to `failureRules h SendsNothing`,
whose steps leave the log, where every request is written, as it was. A run or a
keep-alive is refused as closed, a commit with no statement run pending reports `e`, a
rollback succeeds, ending or dropping a scope of the handle and every call of an enlistment
of it do nothing on the server, and the keep-alive task stops at its first tick. The
lemmas are stated for any knowledge `P` that implies `RolledBackBy h e` and that other tasks
keep, so that an enlistment's own operations can carry which handle it works on.

On an older server the transaction stays open. A failed begin whose answer names an address
gives the handle that address (`Transaction.post_older_location`), and a commit of a handle
with address `loc` sends nothing but a POST to `loc ++ "/commit"`, which it sends unless
statement runs are pending or the transaction is no longer open
(`Transaction.commitWith_posts`).

    Triple (failureRules h SendsNothing) (RolledBackBy h e) (execute h batch).run
      (fun r s => r = .error (.closed _) ∧ RolledBackBy h e s)   (statement_failure_outcome)
-/

namespace TxnCoord

open Transaction

/-- A step that sends nothing: the log, where every request is written, is as it was. -/
def SendsNothing (s s' : World) : Prop := s'.log = s.log

theorem sendsNothing_refl (s : World) : SendsNothing s s := rfl

section RolledBack

variable {h : Nat} {e : TxError}

theorem RolledBackBy.ensureOpen {s : World} (hr : RolledBackBy h e s) :
    (s.handle h).state.ensureOpen = .error (.closed "the transaction has already been rolled back") := by
  rw [hr.state]
  rfl

theorem RolledBackBy.rollbackCause {s : World} (hr : RolledBackBy h e s) :
    Transaction.rollbackCause (s.handle h) = some e := by
  unfold Transaction.rollbackCause
  rw [hr.failure, hr.state]
  simp only [hr.modern.rollsBack, if_true]

theorem RolledBackBy.not_isOpen {s : World} (hr : RolledBackBy h e s) : (s.handle h).isOpen = false := by
  simp [Handle.isOpen, hr.state]

end RolledBack

namespace Transaction

section RolledBack

variable {h : Nat} {e : TxError} {P : World → Prop} (hP : Stable (World.Settles h) P)
  (hPe : ∀ s, P s → RolledBackBy h e s)
include hP hPe

theorem httpExecute_rolledBack (n : Nat) (batch : Batch) :
    Triple (failureRules h SendsNothing) P (httpExecute h n batch).run
      (fun r s => r = .error (.closed "the transaction has already been rolled back") ∧ P s) := by
  unfold httpExecute
  refine Triple.run_liftM_bind (await_settled hP _) fun _ => ?_
  refine Triple.run_andThen _ ?_ fun r =>
    Triple.bind (endPending_settled (fun _ _ h => h) (hP.quiet.const_and _) h)
      fun _ => finishTicket_settled (fun _ _ h => h) (hP.quiet.const_and _) h n
  refine Triple.run_get_bind (failureRules_lawful h sendsNothing_refl) fun w hw => ?_
  dsimp only
  refine Triple.run_ofExcept_bind (fun _ hok => absurd ((hPe _ hw).ensureOpen.symm.trans hok) nofun)
    fun x hx s hs => ⟨?_, hP.quiet _ _ hs.1 hs.2.quiet⟩
  rw [(hPe _ hw).ensureOpen] at hx
  cases hx
  rfl

theorem httpKeepAlive_rolledBack :
    Triple (failureRules h SendsNothing) P (httpKeepAlive h).run
      (fun r s => r = .error (.closed "the transaction has already been rolled back") ∧ P s) := by
  unfold httpKeepAlive
  refine Triple.run_liftM_bind (issue_settled (fun _ _ h => h) hP.quiet h)
    fun n => ?_
  refine Triple.run_liftM_bind (await_settled hP _) fun _ => ?_
  refine Triple.run_andThen _ ?_ fun r =>
    finishTicket_settled (fun _ _ h => h) (hP.quiet.const_and _) h n
  refine Triple.run_get_bind (failureRules_lawful h sendsNothing_refl) fun w hw => ?_
  dsimp only
  refine Triple.run_ofExcept_bind (fun _ hok => absurd ((hPe _ hw).ensureOpen.symm.trans hok) nofun)
    fun x hx s hs => ⟨?_, hP.quiet _ _ hs.1 hs.2.quiet⟩
  rw [(hPe _ hw).ensureOpen] at hx
  cases hx
  rfl

theorem executeReserved_rolledBack (n : Nat) (batch : Batch) :
    Triple (failureRules h SendsNothing) P (executeReserved h n batch).run
      (fun r s => r = .error (.closed "the transaction has already been rolled back") ∧ P s) := by
  unfold executeReserved
  refine Triple.run_get_bind (failureRules_lawful h sendsNothing_refl) fun w hw => ?_
  split
  · exact (httpExecute_rolledBack hP hPe n batch).pre fun s hs =>
      hP.quiet _ _ hs.1 hs.2.quiet
  · exact ((hPe _ hw).modern.isHttp.not_session ‹_›).elim

/-- A statement run on a transaction the server rolled back sends nothing and is refused. -/
theorem execute_rolledBack (batch : Batch) :
    Triple (failureRules h SendsNothing) P (execute h batch).run
      (fun r s => r = .error (.closed "the transaction has already been rolled back") ∧ P s) :=
  Triple.run_liftM_bind (Triple.bind (beginPending_settled (fun _ _ h => h)
    hP.quiet h) fun _ => issue_settled (fun _ _ h => h) hP.quiet h)
    fun n => executeReserved_rolledBack hP hPe n batch

theorem keepAlive_rolledBack :
    Triple (failureRules h SendsNothing) P (keepAlive h).run
      (fun r s => r = .error (.closed "the transaction has already been rolled back") ∧ P s) := by
  unfold keepAlive
  refine Triple.run_get_bind (failureRules_lawful h sendsNothing_refl) fun w hw => ?_
  dsimp only
  split
  · exact (httpKeepAlive_rolledBack hP hPe).pre fun s hs => hP.quiet _ _ hs.1 hs.2.quiet
  · exact ((hPe _ hw).modern.isHttp.not_session ‹_›).elim

/-- A commit on a transaction the server rolled back sends nothing; with no statement run
pending, it reports the failure the server rolled back with. -/
theorem httpCommit_rolledBack (p : Nat) (batch : Batch) :
    Triple (failureRules h SendsNothing) (fun s => P s ∧ (s.handle h).pending = p)
      (httpCommit h batch).run (fun r s => (p = 0 → r = .error e) ∧ P s) := by
  unfold httpCommit
  extract_lets committing afterPending
  refine Triple.run_get_bind (failureRules_lawful h sendsNothing_refl) fun w₀ hw₀ => ?_
  dsimp only
  split
  · rename_i hpos
    refine Triple.run_throw_bind fun s hs => ⟨fun hp => ?_, hP.quiet _ _ hs.1.1 hs.2.quiet⟩
    rw [hw₀.2, hp] at hpos
    exact absurd hpos (Nat.lt_irrefl 0)
  refine Triple.run_liftM_bind ((issue_settled (fun _ _ h => h) hP.quiet h).pre
    fun s hs => hP.quiet _ _ hs.1.1 hs.2.quiet) fun n => ?_
  refine Triple.run_liftM_bind (await_settled hP _) fun _ => ?_
  refine Triple.run_andThen (fun r s => r = .error e ∧ P s) ?_ fun r =>
    (finishTicket_settled (fun _ _ h => h) (hP.quiet.const_and _) h n).post
      fun _ _ hs => ⟨fun _ => hs.1, hs.2⟩
  refine Triple.run_get_bind (failureRules_lawful h sendsNothing_refl) fun w hw => ?_
  dsimp only
  split
  · rename_i cause hcause
    refine Triple.run_throw_bind fun s hs => ⟨?_, hP.quiet _ _ hs.1 hs.2.quiet⟩
    rw [(hPe _ hw).rollbackCause] at hcause
    cases hcause
    rfl
  · rename_i hnone
    exact absurd (hPe _ hw).rollbackCause (hnone e)

theorem commitWith_rolledBack (p : Nat) (batch : Batch) :
    Triple (failureRules h SendsNothing) (fun s => P s ∧ (s.handle h).pending = p)
      (commitWith h batch).run (fun r s => (p = 0 → r = .error e) ∧ P s) := by
  unfold commitWith
  refine Triple.run_get_bind (failureRules_lawful h sendsNothing_refl) fun w hw => ?_
  split
  · refine (httpCommit_rolledBack hP hPe p batch).pre fun s hs => ⟨hP.quiet _ _ hs.1.1
      hs.2.quiet, ?_⟩
    rw [← hw.2]
    exact hs.2.pending
  · exact ((hPe _ hw.1).modern.isHttp.not_session ‹_›).elim

theorem commit_rolledBack (p : Nat) :
    Triple (failureRules h SendsNothing) (fun s => P s ∧ (s.handle h).pending = p)
      (commit h).run (fun r s => (p = 0 → r = .error e) ∧ P s) :=
  Triple.run_bind (fun r s => (p = 0 → r = .error e) ∧ P s) (commitWith_rolledBack hP hPe p {})
    (fun _ => Triple.run_pure fun _ hs => ⟨fun hp => (nomatch hs.1 hp), hs.2⟩)
    fun _ _ hs => ⟨fun hp => by cases hs.1 hp; rfl, hs.2⟩

theorem httpRollback_rolledBack :
    Triple (failureRules h SendsNothing) P (httpRollback h).run
      (fun r s => r = .ok () ∧ P s) := by
  unfold httpRollback
  refine Triple.run_liftM_bind (issue_settled (fun _ _ h => h) hP.quiet h)
    fun n => ?_
  refine Triple.run_liftM_bind (await_settled hP _) fun _ => ?_
  refine Triple.run_andThen _ ?_ fun r =>
    finishTicket_settled (fun _ _ h => h) (hP.quiet.const_and _) h n
  refine Triple.run_get_bind (failureRules_lawful h sendsNothing_refl) fun w hw => ?_
  dsimp only
  split
  · exact Triple.run_pure fun s hs => ⟨rfl, hP.quiet _ _ hs.1 hs.2.quiet⟩
  · rename_i hnone
    rw [(hPe _ hw).rollbackCause] at hnone
    exact absurd rfl hnone

/-- A rollback of a transaction the server rolled back sends nothing and succeeds. -/
theorem rollback_rolledBack :
    Triple (failureRules h SendsNothing) P (rollback h).run
      (fun r s => r = .ok () ∧ P s) := by
  unfold rollback
  refine Triple.run_get_bind (failureRules_lawful h sendsNothing_refl) fun w hw => ?_
  split
  · exact (httpRollback_rolledBack hP hPe).pre fun s hs => hP.quiet _ _ hs.1 hs.2.quiet
  · exact ((hPe _ hw).modern.isHttp.not_session ‹_›).elim

/-- The keep-alive loop stops at its first tick on a transaction that is no longer open. -/
theorem keepAliveFrom_rolledBack (start period fuel k : Nat) :
    Triple (failureRules h SendsNothing) P (keepAliveFrom h start period fuel k)
      (fun _ => P) := by
  cases fuel with
  | zero => exact Triple.pure_of fun _ hs => hs
  | succ fuel =>
    unfold keepAliveFrom
    refine Triple.bind (await_settled hP _) fun _ => ?_
    refine Triple.bind (Triple.get (failureRules_lawful h sendsNothing_refl)) fun w =>
      Triple.of_fact fun hw => ?_
    dsimp only
    split
    · exact Triple.pure_of fun s hs => hP.quiet _ _ hw hs.quiet
    · rename_i hopen
      rw [(hPe _ hw).not_isOpen] at hopen
      exact absurd rfl hopen

theorem keepAliveTask_rolledBack (period : Nat) :
    Triple (failureRules h SendsNothing) P (keepAliveTask h period)
      (fun _ => P) := by
  unfold keepAliveTask
  refine Triple.bind (read_settled (fun _ _ h => h) hP.quiet) fun w => ?_
  exact Triple.bind (await_settled hP _) fun _ => keepAliveFrom_rolledBack hP hPe _ _ _ _

end RolledBack

end Transaction

namespace Manager

section RolledBack

variable {h : Nat} {e : TxError} {L : World → World → Prop} {P Q : World → Prop}

/-- Taking a scope off its stack leaves the handles, the adapters and the log alone, and no
record changes its handle. -/
theorem retire_settled (hL : ∀ s s', s'.log = s.log → L s s') (hQ : Stable (World.Quiet h) Q)
    {h' : Nat} (ctx r : Nat) :
    Triple (failureRules h L) (fun s => Q s ∧ (s.record r).handle = some h') (retire ctx r)
      (fun _ s => Q s ∧ (s.record r).handle = some h') := by
  unfold retire
  refine (Triple.modifyGet fun s _ => ?_).post fun _ s' ⟨s, hs, _, hw⟩ => ?_
  · split
    · exact ⟨World.Settles.refl s, hL _ _ rfl⟩
    · refine ⟨(World.Quiet.of_handles ?_ ?_ ?_).settles, hL _ _ ?_⟩ <;> rfl
  · split at hw <;> dsimp only at hw
    · exact ⟨hQ _ _ hs.1 hw.quiet, (congrArg ScopeRecord.handle (hw.record r)).trans hs.2⟩
    · refine ⟨hQ _ _ (hQ _ _ hs.1 (World.Quiet.of_handles ?_ ?_ ?_)) hw.quiet, ?_⟩
      · rfl
      · rfl
      · rfl
      rw [hw.record r, World.record_modifyContext]
      refine (World.handle_record_modifyRecord s r r fun _ => ?_).trans hs.2
      rfl

/-- Ending a scope of a transaction the server rolled back sends nothing. -/
theorem finishScope_rolledBack (hP : Stable (World.Settles h) P)
    (hPe : ∀ s, P s → RolledBackBy h e s) (ctx r : Nat) :
    Triple (failureRules h SendsNothing) (fun s => P s ∧ (s.record r).handle = some h)
      (finishScope ctx r).run (fun res s => res = .ok () ∧ P s) := by
  unfold finishScope
  refine Triple.run_liftM_bind (retire_settled (fun _ _ h => h) hP.quiet ctx r)
    fun b => ?_
  split
  · exact Triple.run_pure fun s hs => ⟨rfl, hs.1⟩
  refine Triple.run_get_bind (failureRules_lawful h sendsNothing_refl) fun w hw => ?_
  dsimp only
  split
  · rename_i h' hh'
    rw [hw.2] at hh'
    cases hh'
    refine Triple.run_get_bind (failureRules_lawful h sendsNothing_refl) fun w' hw' => ?_
    have hb : P w' := hP.quiet _ _ hw'.1.1 hw'.2.quiet
    rw [(hPe _ hb).not_isOpen, Bool.and_false, if_neg Bool.false_ne_true]
    exact Triple.run_pure fun s hs => ⟨rfl, hP.quiet _ _ hb hs.2.quiet⟩
  · rename_i hnone
    rw [hw.2] at hnone
    cases hnone

/-- Dropping a scope of a transaction the server rolled back sends nothing and starts no
rollback. -/
theorem dropScope_rolledBack (hP : Stable (World.Settles h) P)
    (hPe : ∀ s, P s → RolledBackBy h e s) (ctx r : Nat) :
    Triple (failureRules h SendsNothing) (fun s => P s ∧ (s.record r).handle = some h)
      (dropScope ctx r) (fun _ => P) := by
  unfold dropScope
  refine Triple.bind (retire_settled (fun _ _ h => h) hP.quiet ctx r) fun b => ?_
  split
  · exact Triple.pure_of fun s hs => hs.1
  refine Triple.bind (Triple.get (failureRules_lawful h sendsNothing_refl)) fun w =>
    Triple.of_fact fun hw => ?_
  dsimp only
  split
  · rename_i h' hh'
    rw [hw.2] at hh'
    cases hh'
    refine Triple.bind (Triple.get (failureRules_lawful h sendsNothing_refl)) fun w' =>
      Triple.of_fact fun hw' => ?_
    have hb : P w' := hP.quiet _ _ hw.1 hw'.quiet
    rw [(hPe _ hb).not_isOpen, Bool.not_false, Bool.or_true, if_pos rfl]
    exact Triple.pure_of fun s hs => hP.quiet _ _ hb hs.quiet
  · rename_i hnone
    rw [hw.2] at hnone
    cases hnone

end RolledBack

end Manager

namespace Ambient

section Frame

variable {h : Nat} {L : World → World → Prop} {Q : World → Prop}

/-- The stores are apart from the handles, the adapters and the log. -/
theorem log_setLedger (s : World) (m : Nat) (l : Recovery.Ledger) : (setLedger s m l).log = s.log := by
  unfold setLedger
  split <;> rfl

theorem quiet_setLedger (s : World) (m : Nat) (l : Recovery.Ledger) : World.Quiet h s (setLedger s m l) := by
  unfold setLedger
  split <;> exact World.Quiet.of_handles rfl rfl rfl

theorem storeRemove_settled (hL : ∀ s s', s'.log = s.log → L s s') (hQ : Stable (World.Quiet h) Q)
    (m : Nat) (rm uow : Uuid) :
    Triple (failureRules h L) Q (storeRemove m rm uow).run (fun _ => Q) := by
  unfold storeRemove
  refine Triple.run_get_bind (failureRules_lawful h fun s => hL s s rfl) fun w hw => ?_
  have hread : ∀ s, Q w ∧ World.OnlyWatchers h w s → Q s := fun s hs => hQ _ _ hs.1 hs.2.quiet
  extract_lets jp
  have hjp : ∀ u, Triple (failureRules h L) (fun s => Q w ∧ World.OnlyWatchers h w s) (jp u).run
      (fun _ => Q) := by
    intro u
    dsimp only [jp]
    exact Triple.run_liftM_bind ((change_settled hL (fun s => quiet_setLedger s _ _)
      (fun s => log_setLedger s _ _) hQ).pre hread) fun _ => Triple.run_pure fun _ hs => hs
  split
  · exact Triple.run_throw_bind hread
  · exact hjp ()

/-- Completing an enlistment touches only the registry and the store. -/
theorem complete_settled (hL : ∀ s s', s'.log = s.log → L s s') (hQ : Stable (World.Quiet h) Q)
    (a : Nat) (keep : Bool) : Triple (failureRules h L) Q (complete a keep) (fun _ => Q) := by
  unfold complete
  refine Triple.bind (read_settled hL hQ) fun w => ?_
  refine Triple.bind (change_settled hL (fun s => World.Quiet.of_handles ?_ ?_ ?_) (fun s => ?_) hQ)
    fun _ => ?_
  · rfl
  · rfl
  · rfl
  · rfl
  split
  · exact Triple.bind (storeRemove_settled hL hQ _ _ _) fun _ => Triple.pure_of fun _ hs => hs
  · exact Triple.pure_of fun _ hs => hs

end Frame

section RolledBack

variable {h a : Nat} {e : TxError} {P : World → Prop} (hP : Stable (World.Settles h) P)
  (hPe : ∀ s, P s → RolledBackBy h e s) (hPa : ∀ s, P s → AdapterOf h a s)
include hP hPe hPa

/-- Ending the handle of an enlistment whose transaction the server rolled back does
nothing. -/
theorem endHandle_rolledBack :
    Triple (failureRules h SendsNothing) P (endHandle a).run (fun r s => r = .ok () ∧ P s) := by
  unfold endHandle
  refine Triple.run_get_bind (failureRules_lawful h sendsNothing_refl) fun w hw => ?_
  dsimp only
  rw [(hPa _ hw).2, (hPe _ hw).not_isOpen, if_neg Bool.false_ne_true]
  exact Triple.run_pure fun s hs => ⟨rfl, hP.quiet _ _ hs.1 hs.2.quiet⟩

theorem singlePhaseCommit_rolledBack (p : Nat) :
    Triple (failureRules h SendsNothing) (fun s => P s ∧ (s.handle h).pending = p)
      (singlePhaseCommit a).run (fun r s => (p = 0 → r = .error e) ∧ P s) := by
  unfold singlePhaseCommit
  refine Triple.run_get_bind (failureRules_lawful h sendsNothing_refl) fun w hw => ?_
  dsimp only
  rw [(hPa _ hw.1).2]
  refine Triple.run_attempt_bind ((Transaction.commit_rolledBack hP hPe p).pre fun s hs =>
    ⟨hP.quiet _ _ hs.1.1 hs.2.quiet, hs.2.pending.trans hw.2⟩) fun r => Triple.of_fact fun hr => ?_
  -- what follows the commit sends nothing and hands on its verdict
  have finish : Triple (failureRules h SendsNothing) P
      ((liftM (complete a false) : Tx Unit) >>= fun _ => Tx.ofExcept r).run
      (fun r' s => (p = 0 → r' = .error e) ∧ P s) :=
    Triple.run_liftM_bind (complete_settled (fun _ _ h => h) hP.quiet a false) fun _ =>
      Triple.run_ofExcept fun _ hs => ⟨hr, hs⟩
  split
  · exact Triple.run_attempt_bind (endHandle_rolledBack hP hPe hPa) fun _ => finish.pre fun _ hs => hs.2
  · exact finish

theorem singlePhaseRollback_rolledBack :
    Triple (failureRules h SendsNothing) P (singlePhaseRollback a).run (fun r s => r = .ok () ∧ P s) := by
  unfold singlePhaseRollback
  refine Triple.run_attempt_bind (endHandle_rolledBack hP hPe hPa) fun r => Triple.of_fact fun hr => ?_
  exact Triple.run_liftM_bind (complete_settled (fun _ _ h => h) hP.quiet a false) fun _ =>
    Triple.run_ofExcept fun _ hs => ⟨hr, hs⟩

theorem rollbackPrepared_rolledBack :
    Triple (failureRules h SendsNothing) P (rollbackPrepared a).run (fun r s => r = .ok () ∧ P s) := by
  unfold rollbackPrepared
  refine Triple.run_attempt_bind (endHandle_rolledBack hP hPe hPa) fun r => Triple.of_fact fun hr => ?_
  exact Triple.run_liftM_bind (complete_settled (fun _ _ h => h) hP.quiet a false) fun _ =>
    Triple.run_ofExcept fun _ hs => ⟨hr, hs⟩

theorem commitPrepared_rolledBack (p : Nat) :
    Triple (failureRules h SendsNothing) (fun s => P s ∧ (s.handle h).pending = p)
      (commitPrepared a).run (fun r s => (p = 0 → r = .error e) ∧ P s) := by
  unfold commitPrepared
  refine Triple.run_get_bind (failureRules_lawful h sendsNothing_refl) fun w hw => ?_
  dsimp only
  rw [(hPa _ hw.1).2]
  refine Triple.run_attempt_bind ((Transaction.commit_rolledBack hP hPe p).pre fun s hs =>
    ⟨hP.quiet _ _ hs.1.1 hs.2.quiet, hs.2.pending.trans hw.2⟩) fun r => Triple.of_fact fun hr => ?_
  split
  · exact Triple.run_liftM ((complete_settled (fun _ _ h => h) hP.quiet a false).post
      fun _ _ hs => ⟨fun hp => (nomatch hr hp), hs⟩)
  · exact Triple.run_liftM_bind (complete_settled (fun _ _ h => h) hP.quiet a true) fun _ =>
      Triple.run_throw fun _ hs => ⟨hr, hs⟩
  · exact Triple.run_liftM_bind (complete_settled (fun _ _ h => h) hP.quiet a false) fun _ =>
      Triple.run_throw fun _ hs => ⟨hr, hs⟩

theorem abandon_rolledBack :
    Triple (failureRules h SendsNothing) P (abandon a) (fun _ => P) := by
  unfold abandon
  refine Triple.bind (endHandle_rolledBack hP hPe hPa) fun r => Triple.of_fact fun hr => ?_
  subst hr
  exact complete_settled (fun _ _ h => h) hP.quiet a false

theorem prepare_rolledBack :
    Triple (failureRules h SendsNothing) P (prepare a) (fun v s => v = .aborted ∧ P s) := by
  unfold prepare
  refine Triple.bind (Triple.get (failureRules_lawful h sendsNothing_refl)) fun w =>
    Triple.of_fact fun hw => ?_
  dsimp only
  rw [(hPa _ hw).2, (hPe _ hw).not_isOpen, Bool.not_false, if_pos rfl]
  exact Triple.pure_of fun _ hs => ⟨rfl, hP.quiet _ _ hw hs.quiet⟩

theorem promote_rolledBack :
    Triple (failureRules h SendsNothing) P (promote a).run (fun r s => (r = .ok () ∨
      r = .error (.coordination ("promotion to two-phase commit failed: " ++
        (TxError.closed "cannot promote a transaction that has already ended").message))) ∧ P s) := by
  unfold promote
  refine Triple.run_get_bind (failureRules_lawful h sendsNothing_refl) fun w hw => ?_
  dsimp only
  split
  · exact Triple.run_pure fun s hs => ⟨.inl rfl, hP.quiet _ _ hs.1 hs.2.quiet⟩
  rw [(hPa _ hw).2, (hPe _ hw).not_isOpen, if_neg Bool.false_ne_true]
  exact Triple.run_pure_bind (Triple.run_attempt_bind ((endHandle_rolledBack hP hPe hPa).pre
    fun s hs => hP.quiet _ _ hs.1 hs.2.quiet) fun _ => Triple.run_throw fun _ hs => ⟨.inr rfl, hs.2⟩)

end RolledBack

end Ambient

/-- A step that sends at most one request of handle `h`, a POST to address `uri`. -/
def PostsTo (h : Nat) (uri : String) (s s' : World) : Prop :=
  s'.log = s.log ∨ ∃ req : Http.Request, req.method = .post ∧ req.uri = uri ∧
    s'.log = s.log.push (Peer.requestEntry (s.handle h).via req)

/-- Handle `h` has posted to address `uri` since the log read `l₀`. -/
def Posted (h : Nat) (uri : String) (l₀ : Array Json) (s : World) : Prop :=
  ∃ t req, s.log.toList = l₀.toList ++ t ∧ req.method = .post ∧ req.uri = uri ∧
    Peer.requestEntry (s.handle h).via req ∈ t

section Older

variable {h : Nat} {uri : String} {l₀ : Array Json}

theorem stable_posted : Stable (World.Settles h) (Posted h uri l₀) := by
  intro s s' ⟨t, req, hl, hm, hu, hmem⟩ hs
  obtain ⟨t', ht'⟩ := hs.log
  refine ⟨t ++ t', req, ?_, hm, hu, ?_⟩
  · rw [← ht', hl, List.append_assoc]
  · rw [Handle.via_congr hs.link]
    exact List.mem_append_left _ hmem

/-- An older server never rolls a transaction back on a statement failure, so it never
hands one back as the cause. -/
theorem Older.rollbackCause {s : World} (ho : Older h s) :
    Transaction.rollbackCause (s.handle h) = none := by
  unfold Transaction.rollbackCause
  split <;> simp [ho.rollsBack]

end Older

namespace Transaction

section Older

variable {h : Nat}

/-- On an older server, a statement failure whose answer names an address gives a handle
that had none that address. -/
theorem post_older_location {uri : String} {batch : Batch} {resp : Http.Response}
    {rest : List Scripted} {c m loc : String}
    (hresp : Http.interpret resp = .error (.statement c m)) (hloc : resp.location = some loc) :
    Triple (failureRules h fun _ _ => True)
      (fun s => Older h s ∧ (s.handle h).location = none ∧
        (s.peer (s.handle h).via).script = .answer resp :: rest)
      (post h uri batch)
      (fun r s => r = .error (.statement c m) ∧ (s.handle h).location = some loc) := by
  unfold post
  refine Triple.bind (send_settled (fun _ _ _ _ _ _ => trivial) _) fun r => Triple.of_pre_fact
    (fun _ ⟨s, req, ⟨_, _, hscript⟩, _, _, hr, _⟩ => ?_) fun hr : r = .ok resp => ?_
  · subst hr
    dsimp only
    rw [hresp, hloc]
    dsimp only
    refine Triple.bind (Triple.modify fun s₁ _ => ?_) fun _ =>
      Triple.pure_of fun s' ⟨s₁, ⟨s, req, ⟨ho, hnone, _⟩, _, _, _, hq, _⟩, hw⟩ => ⟨rfl, ?_⟩
    · exact ⟨(World.relocated_failedBegin s₁ loc).settles, trivial⟩
    have ho₁ : Older h s₁ := (older_congr hq.link).2 ho
    rw [hw.quiet.location, World.handle_modifyHandle_self s₁ ho₁.isHttp.lt_size]
    simp [ho₁.rollsBack, hq.location.trans hnone]
  · rw [hr]
    simp [Peer.send, hscript]

/-- What a commit knows of a handle on an older server that has its address. -/
def Addressed (h : Nat) (loc : String) (l₀ : Array Json) (s : World) : Prop :=
  Older h s ∧ (s.handle h).location = some loc ∧ l₀.toList <+: s.log.toList

theorem stable_addressed {loc : String} {l₀ : Array Json} :
    Stable (World.Settles h) (Addressed h loc l₀) := fun _ _ ⟨ho, hl, hlog⟩ hs =>
  ⟨stable_older _ _ ho hs, hs.life.location loc hl, hlog.trans hs.log⟩

/-- On an older server, a commit of a handle with address `loc` sends nothing but a POST to
`loc ++ "/commit"`, and sends it unless statement runs are pending or the transaction is no
longer open. -/
theorem httpCommit_posts (loc : String) (l₀ : Array Json) (batch : Batch) :
    Triple (failureRules h (PostsTo h (loc ++ "/commit")))
      (fun s => Older h s ∧ (s.handle h).location = some loc ∧ s.log = l₀)
      (httpCommit h batch).run
      (fun r s => Posted h (loc ++ "/commit") l₀ s ∨ (∃ m, r = .error (.invalid m)) ∨
        ∃ m, r = .error (.closed m)) := by
  unfold httpCommit
  extract_lets committing afterPending
  have hL' : ∀ s s', s'.log = s.log → PostsTo h (loc ++ "/commit") s s' := fun _ _ hl => .inl hl
  have hρ := failureRules_lawful h fun s => hL' s s rfl
  -- once the POST has gone out, it stays in the log
  have request : Triple (failureRules h (PostsTo h (loc ++ "/commit")))
      (fun s => Fresh h s ∧ Addressed h loc l₀ s) (committing (loc ++ "/commit")).run
      (fun _ => Posted h (loc ++ "/commit") l₀) := by
    refine Triple.run_liftM_bind (post_settled (fun _ _ req hm hu hlog => .inr ⟨req, hm, hu, hlog⟩)
      hL' batch) fun r => ?_
    have hposted : ∀ s', (∃ s req, (Fresh h s ∧ Addressed h loc l₀ s) ∧ req.method = .post ∧
        req.uri = loc ++ "/commit" ∧ World.Relocated h s s' ∧
        s.log.toList ++ [Peer.requestEntry (s.handle h).via req] <+: s'.log.toList) →
        Posted h (loc ++ "/commit") l₀ s' ∧ (s'.handle h).state = .open := by
      rintro s' ⟨s, req, ⟨hf, _, _, ⟨t, ht⟩⟩, hm, hu, hr, ⟨t', ht'⟩⟩
      refine ⟨⟨t ++ [Peer.requestEntry (s.handle h).via req] ++ t', req, ?_, hm, hu, ?_⟩,
        hr.state.trans hf.2.2⟩
      · rw [← ht', ← ht, List.append_assoc, List.append_assoc, List.append_assoc]
      · rw [Handle.via_congr hr.link]
        simp
    split
    · exact Triple.run_liftM_bind ((setState_settled hL' stable_posted (by decide)).pre hposted)
        fun _ => Triple.run_pure fun _ hs => hs
    · exact Triple.run_liftM_bind ((vanished_settled hL' stable_posted).pre hposted) fun _ =>
        Triple.run_throw fun _ hs => hs.2
    · exact Triple.run_throw fun s hs => (hposted s hs).1
    · exact Triple.run_liftM_bind ((setState_settled hL' stable_posted (by decide)).pre hposted)
        fun _ => Triple.run_throw fun _ hs => hs
  refine Triple.run_get_bind hρ fun w₀ hw₀ => ?_
  dsimp only
  have hstart : ∀ s, World.OnlyWatchers h w₀ s → Addressed h loc l₀ s := fun s hs =>
    ⟨(older_congr hs.quiet.link).2 hw₀.1, hs.quiet.location.trans hw₀.2.1, by
      simp only [hs.log, hw₀.2.2, List.prefix_refl]⟩
  split
  · exact Triple.run_throw_bind fun _ _ => .inr (.inl ⟨_, rfl⟩)
  refine Triple.run_liftM_bind ((issue_settled hL' stable_addressed.quiet h).pre
    fun s hs => hstart s hs.2) fun n => ?_
  refine Triple.run_liftM_bind (await_settled stable_addressed _) fun _ => ?_
  refine Triple.run_andThen _ ?_ fun r => finishTicket_settled hL' (fun _ _ hs hq => ?_) h n
  · refine Triple.run_get_bind hρ fun w hw => ?_
    dsimp only
    rw [hw.1.rollbackCause]
    dsimp only
    refine Triple.run_ofExcept_bind (fun _ hok => ?_) fun x hx s _ => .inr (.inr ?_)
    · rw [hw.2.1]
      dsimp only
      refine Triple.run_pure_bind ((request.pre fun s (hs : Addressed h loc l₀ w ∧
        World.OnlyWatchers h w s) => ⟨?_, stable_addressed.quiet _ _ hs.1 hs.2.quiet⟩).post
        fun _ _ hp => .inl hp)
      exact stable_fresh _ _ ⟨hw.1.isHttp, hw.1.clean, (TxState.ensureOpen_ok_iff _).1 hok⟩
        hs.2.quiet
    · cases hst : (w.handle h).state <;> rw [hst] at hx <;> cases hx
      · exact ⟨_, rfl⟩
      · exact ⟨_, rfl⟩
  · exact hs.elim (fun hp => .inl (stable_posted _ _ hp hq.settles)) .inr

theorem commitWith_posts (loc : String) (l₀ : Array Json) (batch : Batch) :
    Triple (failureRules h (PostsTo h (loc ++ "/commit")))
      (fun s => Older h s ∧ (s.handle h).location = some loc ∧ s.log = l₀)
      (commitWith h batch).run
      (fun r s => Posted h (loc ++ "/commit") l₀ s ∨ (∃ m, r = .error (.invalid m)) ∨
        ∃ m, r = .error (.closed m)) := by
  unfold commitWith
  refine Triple.run_get_bind (failureRules_lawful h fun _ => .inl rfl) fun w hw => ?_
  split
  · exact (httpCommit_posts loc l₀ batch).pre fun s hs => ⟨(older_congr hs.2.quiet.link).2 hs.1.1,
      hs.2.quiet.location.trans hs.1.2.1, hs.2.log.trans hs.1.2.2⟩
  · exact (hw.1.isHttp.not_session ‹_›).elim

end Older

end Transaction

end TxnCoord
