import TxnCoord.Proofs.Transaction.Runs
/-!
# Handles that never begin send nothing

A new HTTP handle has no address (`Unbegun h`), and only a run of statements, or a commit
that carries some, posts to its begin address. Where the rest of the program promises never to
give handle `h` an address (`World.StaysUnbegun h`), every other operation on it keeps to
`unbegunRules h`: each of its steps leaves the log, where every request is written, as it was,
and gives the handle no address. A commit that succeeds ends it committed, a rollback that
succeeds ends it rolled back, a keep-alive succeeds or finds it closed, the keep-alive task
only ticks, and ending or dropping a scope of it and every call of an enlistment of it send
nothing.
-/

namespace TxnCoord

open Transaction

/-- Handle `h` is an HTTP handle with no address: nothing has begun it on the server. -/
def Unbegun (h : Nat) (s : World) : Prop := IsHttp h s ∧ (s.handle h).location = none

/-- The promise that no step gives handle `h` an address. -/
def World.StaysUnbegun (h : Nat) (s s' : World) : Prop :=
  (s.handle h).location = none → (s'.handle h).location = none

/-- The rules for code on a handle that nothing begins: the rest of the program never gives it
an address, and the code sends nothing. -/
def unbegunRules (h : Nat) : Rules World Cond := guardRules h (World.StaysUnbegun h) SendsNothing

section Rules

variable {h : Nat}

theorem World.staysUnbegun_promise (h : Nat) : World.Promise h (World.StaysUnbegun h) where
  quiet _ _ hq hnone := hq.location.trans hnone
  trans _ _ _ h₁ h₂ hnone := h₂ (h₁ hnone)

theorem sendsNothing_of_quiet (s s' : World) (_ : World.Quiet h s s') (hlog : s'.log = s.log) :
    SendsNothing s s' :=
  hlog

theorem unbegunRules_lawful (h : Nat) : (unbegunRules h).Lawful :=
  guarded_lawful (World.staysUnbegun_promise h) sendsNothing_of_quiet

theorem stable_unbegun : Stable (unbegunRules h).rely (Unbegun h) := fun _ _ ⟨hh, hnone⟩ hr =>
  ⟨stable_isHttp _ _ hh hr.1, hr.2 hnone⟩

theorem Stable.of_unbegunRules {P : World → Prop} (hP : Stable (unbegunRules h).rely P) :
    Stable (World.Quiet h) P :=
  Stable.of_guarded (World.staysUnbegun_promise h) hP

theorem Unbegun.isBegun {s : World} (hu : Unbegun h s) : (s.handle h).isBegun = false := by
  obtain ⟨⟨m, c, v, hl⟩, hnone⟩ := hu
  simp [Handle.isBegun, hl, hnone]

/-- Ending an unbegun handle sends nothing and gives it no address. -/
theorem guar_setState {s : World} (hopen : (s.handle h).state = .open) {st : TxState}
    (hst : st ≠ .open) :
    (unbegunRules h).guar s (s.modifyHandle h fun hd => { hd with state := st }) :=
  ⟨⟨s.settles_setState hopen hst, fun hnone =>
    (World.handle_rel_modifyHandle (fun a b => b.location = a.location) (fun _ => rfl) s h _ rfl
      h).trans hnone⟩, rfl⟩

end Rules

namespace Transaction

section Unbegun

variable {h : Nat} {P : World → Prop} (hP : Stable (unbegunRules h).rely P)
  (hPu : ∀ s, P s → Unbegun h s)
include hP hPu

/-- Ending an open handle that has no address. -/
theorem setState_unbegun {st : TxState} (hst : st ≠ .open) :
    Triple (unbegunRules h) (fun s => P s ∧ (s.handle h).state = .open) (setState h st)
      (fun _ s => (s.handle h).state = st ∧ P s) := by
  refine (Triple.modify fun s hs => guar_setState hs.2 hst).post fun _ s' ⟨s, hs, hw⟩ => ⟨?_, ?_⟩
  · rw [hw.quiet.state, World.handle_modifyHandle_self s (hPu s hs.1).1.lt_size]
  · exact hP.of_unbegunRules _ _
      (hP _ _ hs.1 (guar_setState hs.2 hst).1) hw.quiet

/-- A commit without statements of a handle that has no address ends it committed, with no
request. -/
theorem httpCommit_unbegun {batch : Batch} (hb : batch.isEmpty = true) :
    Triple (unbegunRules h) P (httpCommit h batch).run
      (fun r s => (∀ v, r = .ok v → (s.handle h).state = .committed) ∧ P s) := by
  have hPq := hP.of_unbegunRules
  unfold httpCommit
  extract_lets committing afterPending
  refine Triple.run_get_bind (unbegunRules_lawful h) fun w₀ hw₀ => ?_
  dsimp only
  split
  · exact Triple.run_throw_bind fun s hs => ⟨fun _ hv => (by cases hv), hPq _ _ hs.1 hs.2.quiet⟩
  refine Triple.run_liftM_bind ((issue_guarded (World.staysUnbegun_promise h) sendsNothing_of_quiet
    hPq h).pre fun s hs => hPq _ _ hs.1 hs.2.quiet) fun n => ?_
  refine Triple.run_liftM_bind (await_guarded hP _) fun _ => ?_
  refine Triple.run_andThen (fun r s => (∀ v, r = .ok v → (s.handle h).state = .committed) ∧ P s)
    ?_ fun r => finishTicket_guarded (World.staysUnbegun_promise h) sendsNothing_of_quiet
      (fun _ _ hs hq => ⟨fun v hv => hq.state.trans (hs.1 v hv), hPq _ _ hs.2 hq⟩) h n
  refine Triple.run_get_bind (unbegunRules_lawful h) fun w hw => ?_
  have hread : ∀ s, P w ∧ (unbegunRules h).sched w s → P s := fun s hs => hPq _ _ hs.1 hs.2.quiet
  dsimp only
  split
  · exact Triple.run_throw_bind fun s hs => ⟨fun _ hv => (by cases hv), hread s hs⟩
  refine Triple.run_ofExcept_bind (fun _ hok => ?_) fun _ _ s hs =>
    ⟨fun _ hv => (by cases hv), hread s hs⟩
  -- with no address, an empty commit only marks the handle committed
  rw [(hPu _ hw).2]
  dsimp only
  rw [if_pos hb]
  exact Triple.run_liftM_bind ((setState_unbegun hP hPu (by decide)).pre fun s hs =>
    ⟨hread s hs, hs.2.open_of_ok hok⟩) fun _ => Triple.run_pure fun _ hs => ⟨fun _ _ => hs.1, hs.2⟩

theorem commitWith_unbegun {batch : Batch} (hb : batch.isEmpty = true) :
    Triple (unbegunRules h) P (commitWith h batch).run
      (fun r s => (∀ v, r = .ok v → (s.handle h).state = .committed) ∧ P s) := by
  unfold commitWith
  refine Triple.run_get_bind (unbegunRules_lawful h) fun w hw => ?_
  split
  · exact (httpCommit_unbegun hP hPu hb).pre fun s hs =>
      hP.of_unbegunRules _ _ hs.1 hs.2.quiet
  · exact ((hPu _ hw).1.not_session ‹_›).elim

theorem commit_unbegun :
    Triple (unbegunRules h) P (commit h).run
      (fun r s => (r = .ok () → (s.handle h).state = .committed) ∧ P s) :=
  Triple.run_bind (fun r s => (∀ v, r = .ok v → (s.handle h).state = .committed) ∧ P s)
    (commitWith_unbegun hP hPu rfl) (fun _ => Triple.run_pure fun _ hs => ⟨fun _ => hs.1 _ rfl, hs.2⟩)
    fun _ _ hs => ⟨fun hv => (by cases hv), hs.2⟩

/-- A rollback of a handle that has no address ends it rolled back, with no request. -/
theorem httpRollback_unbegun :
    Triple (unbegunRules h) P (httpRollback h).run
      (fun r s => (r = .ok () → (s.handle h).state = .rolledBack) ∧ P s) := by
  have hPq := hP.of_unbegunRules
  unfold httpRollback
  refine Triple.run_liftM_bind (issue_guarded (World.staysUnbegun_promise h) sendsNothing_of_quiet
    hPq h) fun n => ?_
  refine Triple.run_liftM_bind (await_guarded hP _) fun _ => ?_
  refine Triple.run_andThen (fun r s => (r = .ok () → (s.handle h).state = .rolledBack) ∧ P s)
    ?_ fun r => finishTicket_guarded (World.staysUnbegun_promise h) sendsNothing_of_quiet
      (fun _ _ hs hq => ⟨fun hv => hq.state.trans (hs.1 hv), hPq _ _ hs.2 hq⟩) h n
  refine Triple.run_get_bind (unbegunRules_lawful h) fun w hw => ?_
  have hread : ∀ s, P w ∧ (unbegunRules h).sched w s → P s := fun s hs => hPq _ _ hs.1 hs.2.quiet
  dsimp only
  split
  · -- the server rolled the transaction back already
    rename_i hcause
    exact Triple.run_pure fun s hs =>
      ⟨fun _ => hs.2.quiet.state.trans (state_of_rollbackCause hcause), hread s hs⟩
  refine Triple.run_ofExcept_bind (fun _ hok => ?_) fun _ _ s hs =>
    ⟨fun hv => (by cases hv), hread s hs⟩
  rw [(hPu _ hw).2]
  exact Triple.run_liftM ((setState_unbegun hP hPu (by decide)).conseq
    (fun s hs => ⟨hread s hs, hs.2.open_of_ok hok⟩) fun _ _ hs => ⟨fun _ => hs.1, hs.2⟩)

theorem rollback_unbegun :
    Triple (unbegunRules h) P (rollback h).run
      (fun r s => (r = .ok () → (s.handle h).state = .rolledBack) ∧ P s) := by
  unfold rollback
  refine Triple.run_get_bind (unbegunRules_lawful h) fun w hw => ?_
  split
  · exact (httpRollback_unbegun hP hPu).pre fun s hs =>
      hP.of_unbegunRules _ _ hs.1 hs.2.quiet
  · exact ((hPu _ hw).1.not_session ‹_›).elim

/-- A keep-alive of a handle that has no address has nothing to keep alive: it succeeds on an
open handle and finds any other closed. -/
theorem httpKeepAlive_unbegun :
    Triple (unbegunRules h) P (httpKeepAlive h).run
      (fun r s => (r = .ok () ∨ ∃ m, r = .error (.closed m)) ∧ P s) := by
  have hPq := hP.of_unbegunRules
  unfold httpKeepAlive
  refine Triple.run_liftM_bind (issue_guarded (World.staysUnbegun_promise h) sendsNothing_of_quiet
    hPq h) fun n => ?_
  refine Triple.run_liftM_bind (await_guarded hP _) fun _ => ?_
  refine Triple.run_andThen _ ?_ fun r => finishTicket_guarded (World.staysUnbegun_promise h)
    sendsNothing_of_quiet (hPq.const_and _) h n
  refine Triple.run_get_bind (unbegunRules_lawful h) fun w hw => ?_
  have hread : ∀ s, P w ∧ (unbegunRules h).sched w s → P s := fun s hs => hPq _ _ hs.1 hs.2.quiet
  dsimp only
  refine Triple.run_ofExcept_bind (fun _ _ => ?_) fun x hx s hs => ⟨.inr ?_, hread s hs⟩
  · rw [(hPu _ hw).2]
    exact Triple.run_pure fun s hs => ⟨.inl rfl, hread s hs⟩
  · obtain ⟨m, hm⟩ := TxState.ensureOpen_closed hx
    exact ⟨m, by rw [hm]⟩

theorem keepAlive_unbegun :
    Triple (unbegunRules h) P (keepAlive h).run
      (fun r s => (r = .ok () ∨ ∃ m, r = .error (.closed m)) ∧ P s) := by
  unfold keepAlive
  refine Triple.run_get_bind (unbegunRules_lawful h) fun w hw => ?_
  dsimp only
  split
  · exact (httpKeepAlive_unbegun hP hPu).pre fun s hs =>
      hP.of_unbegunRules _ _ hs.1 hs.2.quiet
  · exact ((hPu _ hw).1.not_session ‹_›).elim

/-- The keep-alive loop skips every tick of a handle that has no address. -/
theorem keepAliveFrom_unbegun (start period fuel k : Nat) :
    Triple (unbegunRules h) P (keepAliveFrom h start period fuel k) (fun _ => P) := by
  have hPq := hP.of_unbegunRules
  -- one tick per unit of fuel, each skipped while the handle is open
  induction fuel generalizing k with
  | zero => exact Triple.pure_of fun _ hs => hs
  | succ fuel ih =>
    unfold keepAliveFrom
    refine Triple.bind (await_guarded hP _) fun _ => ?_
    refine Triple.bind (Triple.get (unbegunRules_lawful h)) fun w => Triple.of_fact fun hw => ?_
    dsimp only
    split
    · exact Triple.pure_of fun s hs => hPq _ _ hw hs.quiet
    · rw [(hPu _ hw).isBegun, Bool.not_false, if_pos rfl]
      exact (ih (k + 1)).pre fun s hs => hPq _ _ hw hs.quiet

theorem keepAliveTask_unbegun (period : Nat) :
    Triple (unbegunRules h) P (keepAliveTask h period) (fun _ => P) := by
  unfold keepAliveTask
  refine Triple.bind (read_guarded (World.staysUnbegun_promise h) sendsNothing_of_quiet
    (hP.of_unbegunRules)) fun w => ?_
  exact Triple.bind (await_guarded hP _) fun _ => keepAliveFrom_unbegun hP hPu _ _ _ _

/-- An open handle that has no address is closed locally. -/
theorem abandonLocally_unbegun :
    Triple (unbegunRules h) (fun s => P s ∧ (s.handle h).state = .open) (abandonLocally h)
      (fun b s => b = true ∧ (s.handle h).state = .rolledBack ∧ P s) := by
  unfold abandonLocally
  refine (Triple.modifyGet fun s hs => ?_).post fun b s' ⟨s, hs, hb, hw⟩ => ?_
  · obtain ⟨⟨m, c, v, hl⟩, hnone⟩ := hPu s hs.1
    dsimp only
    split
    · rw [if_pos (by simp [hnone, hs.2])]
      exact guar_setState hs.2 (by decide)
    · rename_i hl'
      exact absurd (hl.symm.trans hl') (by simp)
  · obtain ⟨⟨m, c, v, hl⟩, hnone⟩ := hPu s hs.1
    dsimp only at hb hw
    rw [hl] at hb hw
    dsimp only at hb hw
    rw [if_pos (by simp [hnone, hs.2])] at hb hw
    refine ⟨hb.symm, ?_, ?_⟩
    · rw [hw.quiet.state, World.handle_modifyHandle_self s (hPu s hs.1).1.lt_size]
    · exact hP.of_unbegunRules _ _ (hP _ _ hs.1 (guar_setState hs.2 (by decide)).1) hw.quiet

end Unbegun

end Transaction

namespace Manager

section Unbegun

variable {h : Nat} {P : World → Prop} (hP : Stable (unbegunRules h).rely P)
  (hPu : ∀ s, P s → Unbegun h s)
include hP hPu

/-- Ending a scope of a handle that has no address sends nothing: an owner closes it locally. -/
theorem finishScope_unbegun (ctx r : Nat) :
    Triple (unbegunRules h) (fun s => P s ∧ (s.record r).handle = some h)
      (finishScope ctx r).run (fun res s => res = .ok () ∧ P s) := by
  have hPq := hP.of_unbegunRules
  unfold finishScope
  refine Triple.run_liftM_bind (retire_guarded (World.staysUnbegun_promise h) sendsNothing_of_quiet
    hPq ctx r) fun b => ?_
  split
  · exact Triple.run_pure fun s hs => ⟨rfl, hs.1⟩
  refine Triple.run_get_bind (unbegunRules_lawful h) fun w hw => ?_
  dsimp only
  split
  · rename_i h' hh'
    rw [hw.2] at hh'
    cases hh'
    refine Triple.run_get_bind (unbegunRules_lawful h) fun w' hw' => ?_
    have hb : P w' := hPq _ _ hw'.1.1 hw'.2.quiet
    split
    · rename_i hcond
      have hopen : (w'.handle h).state = .open := by
        simp [Handle.isOpen] at hcond
        exact hcond.2
      refine Triple.run_liftM_bind ((abandonLocally_unbegun hP hPu).pre fun s hs =>
        ⟨hPq _ _ hb hs.2.quiet, hs.2.quiet.state.trans hopen⟩) fun b => ?_
      split
      · exact Triple.run_pure fun s hs => ⟨rfl, hs.2.2⟩
      · -- the handle was closed locally, so no rollback follows
        rename_i hfalse
        exact Triple.of_pre_fact (fun s hs => hs.1) fun htrue => absurd htrue hfalse
    · exact Triple.run_pure fun s hs => ⟨rfl, hPq _ _ hb hs.2.quiet⟩
  · rename_i hnone
    rw [hw.2] at hnone
    cases hnone

/-- Dropping a scope of a handle that has no address sends nothing and starts no rollback. -/
theorem dropScope_unbegun (ctx r : Nat) :
    Triple (unbegunRules h) (fun s => P s ∧ (s.record r).handle = some h) (dropScope ctx r)
      (fun _ => P) := by
  have hPq := hP.of_unbegunRules
  unfold dropScope
  refine Triple.bind (retire_guarded (World.staysUnbegun_promise h) sendsNothing_of_quiet
    hPq ctx r) fun b => ?_
  split
  · exact Triple.pure_of fun s hs => hs.1
  refine Triple.bind (Triple.get (unbegunRules_lawful h)) fun w => Triple.of_fact fun hw => ?_
  dsimp only
  split
  · rename_i h' hh'
    rw [hw.2] at hh'
    cases hh'
    refine Triple.bind (Triple.get (unbegunRules_lawful h)) fun w' => Triple.of_fact fun hw' => ?_
    have hb : P w' := hPq _ _ hw.1 hw'.quiet
    split
    · exact Triple.pure_of fun s hs => hPq _ _ hb hs.quiet
    · rename_i hcond
      have hopen : (w'.handle h).state = .open := by
        simp [Handle.isOpen] at hcond
        exact hcond.2
      refine Triple.bind ((abandonLocally_unbegun hP hPu).pre fun s hs =>
        ⟨hPq _ _ hb hs.quiet, hs.quiet.state.trans hopen⟩) fun b => ?_
      split
      · exact Triple.pure_of fun s hs => hs.2.2
      · -- the handle was closed locally, so no rollback task is started
        rename_i hfalse
        exact Triple.of_pre_fact (fun s hs => hs.1) fun htrue => absurd htrue hfalse
  · rename_i hnone
    rw [hw.2] at hnone
    cases hnone

end Unbegun

end Manager

/-- Marking an enlistment keeps every adapter's handle, and touches no handle and no log. -/
theorem World.settles_modifyAdapter {h : Nat} (s : World) (i : Nat) {g : Adapter → Adapter}
    (hg : ∀ ad, (g ad).handle = ad.handle) : World.Settles h s (s.modifyAdapter i g) where
  life := Handle.Evolves.of_life rfl
  link := rfl
  clean hc := hc
  adapters a ha := ⟨Nat.lt_of_lt_of_le ha (World.Grows.modifyAdapter s i hg).adapters,
    (World.Grows.modifyAdapter s i hg).adapter a ha⟩
  log := List.prefix_refl _

namespace Ambient

section Unbegun

variable {h a : Nat} {P : World → Prop} (hP : Stable (unbegunRules h).rely P)
  (hPu : ∀ s, P s → Unbegun h s) (hPa : ∀ s, P s → AdapterOf h a s)
include hP hPu hPa

theorem endHandle_unbegun : Triple (unbegunRules h) P (endHandle a).run (fun _ => P) := by
  unfold endHandle
  refine Triple.run_get_bind (unbegunRules_lawful h) fun w hw => ?_
  dsimp only
  rw [(hPa _ hw).2]
  split
  · exact ((rollback_unbegun hP hPu).conseq (fun s hs => hP.of_unbegunRules _ _ hs.1 hs.2.quiet)
      fun _ _ hs => hs.2)
  · exact Triple.run_pure fun s hs => hP.of_unbegunRules _ _ hs.1 hs.2.quiet

theorem singlePhaseCommit_unbegun : Triple (unbegunRules h) P (singlePhaseCommit a).run (fun _ => P) := by
  have hPq := hP.of_unbegunRules
  unfold singlePhaseCommit
  refine Triple.run_get_bind (unbegunRules_lawful h) fun w hw => ?_
  dsimp only
  rw [(hPa _ hw).2]
  refine Triple.run_attempt_bind ((commit_unbegun hP hPu).pre fun s hs => hPq _ _ hs.1 hs.2.quiet)
    fun r => ?_
  -- what follows the commit sends nothing and hands on its verdict
  have finish : Triple (unbegunRules h) P
      ((liftM (complete a false) : Tx Unit) >>= fun _ => Tx.ofExcept r).run (fun _ => P) :=
    Triple.run_liftM_bind (complete_guarded (World.staysUnbegun_promise h) sendsNothing_of_quiet
      hPq a false) fun _ => Triple.run_ofExcept fun _ hs => hs
  split
  · exact Triple.run_attempt_bind ((endHandle_unbegun hP hPu hPa).pre fun _ hs => hs.2)
      fun _ => finish
  · exact finish.pre fun _ hs => hs.2

theorem singlePhaseRollback_unbegun :
    Triple (unbegunRules h) P (singlePhaseRollback a).run (fun _ => P) := by
  unfold singlePhaseRollback
  refine Triple.run_attempt_bind (endHandle_unbegun hP hPu hPa) fun r => ?_
  exact Triple.run_liftM_bind (complete_guarded (World.staysUnbegun_promise h) sendsNothing_of_quiet
    hP.of_unbegunRules a false) fun _ => Triple.run_ofExcept fun _ hs => hs

theorem rollbackPrepared_unbegun :
    Triple (unbegunRules h) P (rollbackPrepared a).run (fun _ => P) := by
  unfold rollbackPrepared
  refine Triple.run_attempt_bind (endHandle_unbegun hP hPu hPa) fun r => ?_
  exact Triple.run_liftM_bind (complete_guarded (World.staysUnbegun_promise h) sendsNothing_of_quiet
    hP.of_unbegunRules a false) fun _ => Triple.run_ofExcept fun _ hs => hs

theorem commitPrepared_unbegun : Triple (unbegunRules h) P (commitPrepared a).run (fun _ => P) := by
  have hPq := hP.of_unbegunRules
  have hcomplete := complete_guarded (World.staysUnbegun_promise h) sendsNothing_of_quiet hPq a
  unfold commitPrepared
  refine Triple.run_get_bind (unbegunRules_lawful h) fun w hw => ?_
  dsimp only
  rw [(hPa _ hw).2]
  refine Triple.run_attempt_bind ((commit_unbegun hP hPu).conseq
    (fun s hs => hPq _ _ hs.1 hs.2.quiet) fun _ _ hs => hs.2) fun r => ?_
  split
  · exact Triple.run_liftM (hcomplete false)
  · exact Triple.run_liftM_bind (hcomplete true) fun _ => Triple.run_throw fun _ hs => hs
  · exact Triple.run_liftM_bind (hcomplete false) fun _ => Triple.run_throw fun _ hs => hs

theorem abandon_unbegun : Triple (unbegunRules h) P (abandon a) (fun _ => P) := by
  unfold abandon
  refine Triple.bind (endHandle_unbegun hP hPu hPa) fun r => ?_
  split <;> exact complete_guarded (World.staysUnbegun_promise h) sendsNothing_of_quiet
    hP.of_unbegunRules a _

theorem prepare_unbegun : Triple (unbegunRules h) P (prepare a) (fun _ => P) := by
  have hPq := hP.of_unbegunRules
  unfold prepare
  refine Triple.bind (Triple.get (unbegunRules_lawful h)) fun w => Triple.of_fact fun hw => ?_
  dsimp only
  split
  · exact Triple.pure_of fun s hs => hPq _ _ hw hs.quiet
  split
  refine Triple.bind (Triple.pure_of fun s hs => hPq _ _ hw hs.quiet :
    Triple (unbegunRules h) _ _ fun _ => P) fun ready => ?_
  rotate_left
  refine Triple.bind ((refreshDescriptor_guarded (World.staysUnbegun_promise h)
    sendsNothing_of_quiet hPq a).pre fun s hs => hPq _ _ hw hs.quiet) fun ready => ?_
  -- either way the vote follows from whether the descriptor could be rewritten
  all_goals
    split
    · exact Triple.pure_of fun _ hs => hs
    · exact Triple.bind (endHandle_unbegun hP hPu hPa) fun _ => Triple.pure_of fun _ hs => hs

theorem promote_unbegun : Triple (unbegunRules h) P (promote a).run (fun _ => P) := by
  have hPq := hP.of_unbegunRules
  unfold promote
  refine Triple.run_get_bind (unbegunRules_lawful h) fun w hw => ?_
  dsimp only
  split
  · exact Triple.run_pure fun s hs => hPq _ _ hs.1 hs.2.quiet
  -- marking the enlistment promoted changes no handle and sends nothing
  have hmark : ∀ s : World, (unbegunRules h).guar s
      (s.modifyAdapter a fun ad => { ad with promoted := true }) :=
    fun s => ⟨⟨World.settles_modifyAdapter s a fun _ => rfl, fun hnone => hnone⟩, rfl⟩
  split
  · refine Triple.run_attempt_bind ((refreshDescriptor_guarded (World.staysUnbegun_promise h)
      sendsNothing_of_quiet hPq a).pre fun s hs => hPq _ _ hs.1 hs.2.quiet) fun promoted => ?_
    split
    · exact Triple.run_liftM ((Triple.modify fun s _ => hmark s).post fun _ _ ⟨s, hs, hw⟩ =>
        hPq _ _ (hP _ _ hs (hmark s).1) hw.quiet)
    · exact Triple.run_attempt_bind (endHandle_unbegun hP hPu hPa) fun _ =>
        Triple.run_throw fun _ hs => hs
  · refine Triple.run_pure_bind ?_
    exact Triple.run_attempt_bind ((endHandle_unbegun hP hPu hPa).pre fun s hs =>
      hPq _ _ hs.1 hs.2.quiet) fun _ => Triple.run_throw fun _ hs => hs

end Unbegun

end Ambient

/-! ## The main statement -/

theorem World.host_keeps_unbegunRules (h : Nat) : World.host.Keeps (unbegunRules h) :=
  World.host_keeps_guardRules (World.staysUnbegun_promise h) SendsNothing

/-- Handles that never begin send nothing. On an HTTP handle with no address, which the rest of
the program never gives one, every step of these operations logs nothing: a commit without
statements, which ends it committed when it succeeds; a rollback, which ends it rolled back; a
keep-alive, which succeeds or finds it closed; the keep-alive task; ending and dropping a scope
of it; and every call of an enlistment of it. A run of tasks that all keep to these rules
leaves it without an address. -/
theorem unbegun_handles_send_nothing (h : Nat) :
    (∀ batch, batch.isEmpty = true → Triple (unbegunRules h) (Unbegun h) (commitWith h batch).run
      fun r s => (∀ v, r = .ok v → (s.handle h).state = .committed) ∧ Unbegun h s) ∧
    Triple (unbegunRules h) (Unbegun h) (commit h).run
      (fun r s => (r = .ok () → (s.handle h).state = .committed) ∧ Unbegun h s) ∧
    Triple (unbegunRules h) (Unbegun h) (rollback h).run
      (fun r s => (r = .ok () → (s.handle h).state = .rolledBack) ∧ Unbegun h s) ∧
    Triple (unbegunRules h) (Unbegun h) (keepAlive h).run
      (fun r s => (r = .ok () ∨ ∃ m, r = .error (.closed m)) ∧ Unbegun h s) ∧
    (∀ period, Triple (unbegunRules h) (Unbegun h) (keepAliveTask h period) fun _ => Unbegun h) ∧
    (∀ ctx r, Triple (unbegunRules h) (fun s => Unbegun h s ∧ (s.record r).handle = some h)
      (Manager.finishScope ctx r).run fun res s => res = .ok () ∧ Unbegun h s) ∧
    (∀ ctx r, Triple (unbegunRules h) (fun s => Unbegun h s ∧ (s.record r).handle = some h)
      (Manager.dropScope ctx r) fun _ => Unbegun h) ∧
    (∀ a, Triple (unbegunRules h) (fun s => Unbegun h s ∧ AdapterOf h a s) (Ambient.promote a).run
      fun _ s => Unbegun h s ∧ AdapterOf h a s) ∧
    (∀ a, Triple (unbegunRules h) (fun s => Unbegun h s ∧ AdapterOf h a s) (Ambient.prepare a)
      fun _ s => Unbegun h s ∧ AdapterOf h a s) ∧
    (∀ a, Triple (unbegunRules h) (fun s => Unbegun h s ∧ AdapterOf h a s)
      (Ambient.singlePhaseCommit a).run fun _ s => Unbegun h s ∧ AdapterOf h a s) ∧
    (∀ a, Triple (unbegunRules h) (fun s => Unbegun h s ∧ AdapterOf h a s)
      (Ambient.singlePhaseRollback a).run fun _ s => Unbegun h s ∧ AdapterOf h a s) ∧
    (∀ a, Triple (unbegunRules h) (fun s => Unbegun h s ∧ AdapterOf h a s)
      (Ambient.commitPrepared a).run fun _ s => Unbegun h s ∧ AdapterOf h a s) ∧
    (∀ a, Triple (unbegunRules h) (fun s => Unbegun h s ∧ AdapterOf h a s)
      (Ambient.rollbackPrepared a).run fun _ s => Unbegun h s ∧ AdapterOf h a s) ∧
    (∀ a, Triple (unbegunRules h) (fun s => Unbegun h s ∧ AdapterOf h a s) (Ambient.abandon a)
      fun _ s => Unbegun h s ∧ AdapterOf h a s) ∧
    ∀ fuel (a : Agenda World Cond), Agenda.Sound (unbegunRules h) a → Unbegun h a.state →
      Unbegun h (Agenda.loop World.host fuel a).state := by
  have hu : ∀ s, Unbegun h s → Unbegun h s := fun _ hs => hs
  have hua : ∀ a, Stable (unbegunRules h).rely fun s => Unbegun h s ∧ AdapterOf h a s :=
    fun a => stable_unbegun.and fun _ _ ha hr => stable_adapterOf a _ _ ha hr.1
  refine ⟨fun _ hb => commitWith_unbegun stable_unbegun hu hb, commit_unbegun stable_unbegun hu,
    rollback_unbegun stable_unbegun hu, keepAlive_unbegun stable_unbegun hu,
    keepAliveTask_unbegun stable_unbegun hu, Manager.finishScope_unbegun stable_unbegun hu,
    Manager.dropScope_unbegun stable_unbegun hu,
    fun a => Ambient.promote_unbegun (hua a) (fun _ hs => hs.1) fun _ hs => hs.2,
    fun a => Ambient.prepare_unbegun (hua a) (fun _ hs => hs.1) fun _ hs => hs.2,
    fun a => Ambient.singlePhaseCommit_unbegun (hua a) (fun _ hs => hs.1) fun _ hs => hs.2,
    fun a => Ambient.singlePhaseRollback_unbegun (hua a) (fun _ hs => hs.1) fun _ hs => hs.2,
    fun a => Ambient.commitPrepared_unbegun (hua a) (fun _ hs => hs.1) fun _ hs => hs.2,
    fun a => Ambient.rollbackPrepared_unbegun (hua a) (fun _ hs => hs.1) fun _ hs => hs.2,
    fun a => Ambient.abandon_unbegun (hua a) (fun _ hs => hs.1) fun _ hs => hs.2,
    fun fuel a ha hs => ?_⟩
  exact stable_unbegun _ _ hs
    (Agenda.loop_sound (unbegunRules_lawful h) (World.host_keeps_unbegunRules h) fuel a ha).2

/-- A task that commits, with no statements, the one handle of a world, an HTTP handle that
has not begun: the task keeps to the rules, and the run leaves the handle without an
address. -/
theorem unbegun_commit_task_keeps_rules :
    let a : Agenda World Cond :=
      { state := { handles := #[{ id := default, database := "neo4j", link := .http 0 default ⟨5, 13, 0⟩ }] }
        tasks := #[⟨Async.toFiber (do let _ ← (commitWith 0 {}).run), 1, [], false, none, false, false,
          false⟩] }
    Agenda.Sound (unbegunRules 0) a ∧ Unbegun 0 a.state ∧
      Unbegun 0 (Agenda.loop World.host 10 a).state := by
  intro a
  have hu : Unbegun 0 a.state := ⟨⟨0, default, ⟨5, 13, 0⟩, rfl⟩, rfl⟩
  have hsound : Agenda.Sound (unbegunRules 0) a := by
    refine ⟨fun t x hx => ?_, fun e he => by cases he⟩
    rcases t with _ | t
    · cases hx
      refine ⟨⟨Unbegun 0, stable_unbegun, hu, ?_⟩, fun _ hfr => by cases hfr⟩
      exact (unbegun_handles_send_nothing 0).1 {} rfl _ fun _ => .done
    · simp [a] at hx
  exact ⟨hsound, hu, (unbegun_handles_send_nothing 0).2.2.2.2.2.2.2.2.2.2.2.2.2.2 10 a hsound hu⟩

/-- A handle that runs no statement still sends a request when recovery attaches it at the
address a descriptor records: its commit posts to that address. -/
theorem recovered_handle_posts_commit :
    let d : Recovery.Descriptor :=
      { rm := ⟨0⟩, uow := ⟨1⟩, config := { rootUri := "http://localhost:7474" }, transport := .http,
        version := ⟨5, 13, 0⟩, database := "neo4j",
        location := some "http://localhost:7474/db/neo4j/tx/9", recordedAt := ⟨0, 0, false⟩ }
    Alone World.host 0 (fun a => a.state.handles.size = 0 ∧ a.state.log = #[])
      (Recovery.recover 0 d .committed).run
      (fun _ a => a.state.log = #[postRequest
        { id := handleId 0, database := "neo4j", link := .http 0 d.config d.version,
          location := some "http://localhost:7474/db/neo4j/tx/9" }
        ("http://localhost:7474/db/neo4j/tx/9" ++ "/commit") {}]) :=
  recover_commit_alone 0 rfl rfl 0

end TxnCoord
