import TxnCoord.Proofs.World.Counts
import TxnCoord.Proofs.Transaction.Runs

/-!
# Pending statement runs

A statement run counts itself in its first step (`reserve`), under the owner that runs it,
and gives the count back when its body is done, failed or not. A fiber that is dropped gives
back every run its owner holds (`World.pending_releaseOwner`). A commit reads the count before
anything else and refuses while it is positive.

Every operation of a handle is built from three kinds of code:

* `Straight` code never waits. Run alone, it keeps what its steps keep.
* `Direct` code is straight and also keeps a frame among other tasks.
* Code that counts nothing keeps `World.Neutral`. That is every step of an operation except
  the counting of its own run.

From these:

    OperationsCount h                         every operation keeps to countRules
    Counted s → Counted (loop fuel a).state   in every run (counted_of_run)
    0 < pending → commit refuses, world unchanged    (commitWith_refused_alone)
-/

namespace TxnCoord

variable {α β : Type}

/-- Code that never waits, every step of which is a change that `F` allows: run alone, it
keeps every fact that such changes keep, and that the host's clearing of the tasks to wake
keeps. -/
def Straight (F : World → World → Prop) (x : Step α) : Prop :=
  ∀ (t : Nat) (W : World → Prop), Stable F W → (∀ s, W s → W { s with wakes := [] }) →
    Alone World.host t (fun a => W a.state) x fun _ a => W a.state

namespace Straight

variable {F : World → World → Prop}

theorem pure (a : α) : Straight F (Pure.pure a : Step α) :=
  fun _ _ _ _ => Alone.pure_of fun _ ha => ha

theorem bind {x : Step α} {f : α → Step β} (hx : Straight F x) (hf : ∀ a, Straight F (f a)) :
    Straight F (x >>= f) :=
  fun t W hW hc => Alone.bind (hx t W hW hc) fun a => hf a t W hW hc

theorem modifyGet {f : World → α × World} (hf : ∀ s, F s (f s).2) :
    Straight F (MonadStateOf.modifyGet f : Step α) :=
  fun _ W hW hc => Alone.modifyGet_world fun s hs a ha => by
    rw [ha]
    exact hc _ (hW _ _ hs (hf s))

theorem change {f : World → World} (hf : ∀ s, F s (f s)) : Straight F (Step.change f) :=
  modifyGet (f := fun s => ((), f s)) hf

theorem read : Straight F Step.read :=
  fun _ W _ hc => (Alone.get_world W).post fun _ a ha => by
    rw [ha.2]
    exact hc _ ha.1

theorem run_liftM_bind {x : Step α} {f : α → Tx β} (hx : Straight F x)
    (hf : ∀ a, Straight F (f a).run) : Straight F ((liftM x : Tx α) >>= f).run :=
  fun t W hW hc => Alone.run_liftM_bind (hx t W hW hc) fun a => hf a t W hW hc

theorem run_liftM {x : Step α} (hx : Straight F x) : Straight F (liftM x : Tx α).run :=
  fun t W hW hc => Alone.run_liftM (hx t W hW hc)

theorem run_bind {x : Tx α} {f : α → Tx β} (hx : Straight F x.run) (hf : ∀ a, Straight F (f a).run) :
    Straight F (x >>= f).run :=
  fun t W hW hc => Alone.run_bind (fun _ a => W a.state) (hx t W hW hc) (fun a => hf a t W hW hc)
    fun _ _ ha => ha

theorem run_pure (a : α) : Straight F (Pure.pure a : Tx α).run :=
  fun _ _ _ _ => Alone.run_pure fun _ ha => ha

theorem run_pure_bind {a : α} {f : α → Tx β} (hf : Straight F (f a).run) :
    Straight F (Pure.pure a >>= f).run := hf

theorem run_throw (e : TxError) : Straight F (throw e : Tx α).run :=
  fun _ _ _ _ => Alone.run_throw fun _ ha => ha

theorem run_throw_bind {e : TxError} {f : α → Tx β} : Straight F (throw e >>= f).run :=
  fun _ _ _ _ => Alone.run_throw_bind fun _ ha => ha

theorem run_ofExcept_bind {e : Except TxError α} {f : α → Tx β}
    (hf : ∀ a, e = .ok a → Straight F (f a).run) : Straight F (Tx.ofExcept e >>= f).run :=
  fun t W hW hc => Alone.run_ofExcept_bind (fun a ha => hf a ha t W hW hc) fun _ _ _ ha => ha

end Straight

/-- Code that never waits, every step of which is a change that `F` allows: among other tasks
it keeps what their rules keep, and run alone it keeps what such changes keep. -/
structure Direct (F : World → World → Prop) (x : Step α) : Prop where
  frame : KeepsFrame F x
  straight : Straight F x

namespace Direct

variable {F : World → World → Prop}

theorem pure (a : α) : Direct F (Pure.pure a : Step α) := ⟨KeepsFrame.pure a, Straight.pure a⟩

theorem bind {x : Step α} {f : α → Step β} (hx : Direct F x) (hf : ∀ a, Direct F (f a)) :
    Direct F (x >>= f) :=
  ⟨hx.frame.bind fun a => (hf a).frame, hx.straight.bind fun a => (hf a).straight⟩

theorem modifyGet {f : World → α × World} (hf : ∀ s, F s (f s).2) :
    Direct F (MonadStateOf.modifyGet f : Step α) :=
  ⟨KeepsFrame.modifyGet hf, Straight.modifyGet hf⟩

theorem change {f : World → World} (hf : ∀ s, F s (f s)) : Direct F (Step.change f) :=
  ⟨KeepsFrame.change hf, Straight.change hf⟩

theorem read : Direct F Step.read := ⟨KeepsFrame.read, Straight.read⟩

theorem run_liftM_bind {x : Step α} {f : α → Tx β} (hx : Direct F x)
    (hf : ∀ a, Direct F (f a).run) : Direct F ((liftM x : Tx α) >>= f).run :=
  ⟨KeepsFrame.run_liftM_bind hx.frame fun a => (hf a).frame,
    Straight.run_liftM_bind hx.straight fun a => (hf a).straight⟩

theorem run_liftM {x : Step α} (hx : Direct F x) : Direct F (liftM x : Tx α).run :=
  ⟨KeepsFrame.run_liftM hx.frame, Straight.run_liftM hx.straight⟩

theorem run_bind {x : Tx α} {f : α → Tx β} (hx : Direct F x.run) (hf : ∀ a, Direct F (f a).run) :
    Direct F (x >>= f).run :=
  ⟨KeepsFrame.run_bind hx.frame fun a => (hf a).frame, Straight.run_bind hx.straight fun a => (hf a).straight⟩

theorem run_pure (a : α) : Direct F (Pure.pure a : Tx α).run :=
  ⟨KeepsFrame.run_pure a, Straight.run_pure a⟩

theorem run_pure_bind {a : α} {f : α → Tx β} (hf : Direct F (f a).run) :
    Direct F (Pure.pure a >>= f).run :=
  ⟨KeepsFrame.run_pure_bind hf.frame, Straight.run_pure_bind hf.straight⟩

theorem run_throw (e : TxError) : Direct F (throw e : Tx α).run :=
  ⟨KeepsFrame.run_throw e, Straight.run_throw e⟩

theorem run_throw_bind {e : TxError} {f : α → Tx β} : Direct F (throw e >>= f).run :=
  ⟨KeepsFrame.run_throw_bind, Straight.run_throw_bind⟩

theorem run_ofExcept_bind {e : Except TxError α} {f : α → Tx β}
    (hf : ∀ a, e = .ok a → Direct F (f a).run) : Direct F (Tx.ofExcept e >>= f).run :=
  ⟨KeepsFrame.run_ofExcept_bind fun a ha => (hf a ha).frame,
    Straight.run_ofExcept_bind fun a ha => (hf a ha).straight⟩

end Direct

namespace Transaction

open World (Neutral)

/-! ## Code that counts nothing -/

theorem send_neutral (h : Nat) (m : Http.Method) (uri : String) (body : Option Json) :
    Direct Neutral (send h m uri body) :=
  Direct.modifyGet fun _ => World.neutral_of_handles rfl rfl rfl

theorem setState_neutral (h : Nat) (st : TxState) : Direct Neutral (setState h st) :=
  Direct.change fun s => s.neutral_modifyHandle h fun _ => rfl

theorem post_neutral (h : Nat) (uri : String) (batch : Batch) : Direct Neutral (post h uri batch) := by
  unfold post
  refine Direct.bind (send_neutral h _ _ _) fun r => ?_
  split
  · exact Direct.pure _
  · dsimp only
    split
    · refine Direct.bind (Direct.change fun s => s.neutral_modifyHandle h fun hd => ?_) fun _ =>
        Direct.pure _
      split <;> rfl
    · exact Direct.pure _

theorem absorb_neutral (h : Nat) (a : Http.Accepted) : Direct Neutral (absorb h a).run := by
  unfold absorb
  refine Direct.run_liftM_bind Direct.read fun w => ?_
  extract_lets hd expiry
  have hexpiry : ∀ u, Direct Neutral (expiry u).run := by
    intro u
    dsimp only [expiry]
    split
    · exact Direct.run_liftM (Direct.change fun s => s.neutral_modifyHandle h fun _ => rfl)
    · exact Direct.run_pure _
  split
  · split
    · exact Direct.run_liftM_bind (Direct.change fun s => s.neutral_modifyHandle h fun _ => rfl)
        hexpiry
    · exact Direct.run_throw_bind
  · exact hexpiry ()

theorem vanished_neutral (h : Nat) : Direct Neutral (vanished h) :=
  Direct.bind (setState_neutral h _) fun _ => Direct.pure _

theorem recordFailure_neutral (h : Nat) (f : Http.Failure) : Direct Neutral (recordFailure h f) := by
  unfold recordFailure
  dsimp only
  split
  · refine Direct.bind (Direct.change fun s => s.neutral_modifyHandle h fun hd => ?_) fun _ =>
      Direct.pure _
    split <;> split <;> rfl
  · exact Direct.pure _

theorem runStatements_neutral (m : Nat) (ss : List Statement) :
    Direct Neutral (runStatements m ss) := by
  induction ss with
  | nil => exact Direct.pure _
  | cons s rest ih =>
    unfold runStatements
    refine Direct.bind (Direct.modifyGet fun w => World.neutral_of_handles rfl rfl rfl) fun r => ?_
    split
    · exact Direct.pure _
    · exact Direct.bind ih fun r => by split <;> exact Direct.pure _

theorem finishTicket_neutral (h n : Nat) : Direct Neutral (Step.finishTicket h n) :=
  Direct.change fun s => ((World.Neutral.refl s).unhold fun _ => Hold.noConfusion).releaseTicket h n

theorem issue_neutral (h : Nat) : Direct Neutral (Step.issue h) :=
  Direct.modifyGet fun s => by
    simp only [Sequencer.issue]
    exact s.neutral_issue h _ _

theorem finishSession_neutral (h m : Nat) (commit : Bool) :
    KeepsFrame Neutral (finishSession h m commit) :=
  KeepsFrame.modifyGet fun s => by
    dsimp only [World.finishSession]
    have hend : Neutral s (s.endSession m commit).2 := World.neutral_of_handles rfl rfl rfl
    refine hend.trans (World.neutral_modifyHandle _ h ?_)
    intro
    rfl

/-- An operation that takes a ticket of handle `h` and gives it back after its body counts
nothing, if its body counts nothing. -/
theorem ticketed_neutral {x : Tx α} (h : Nat) (hx : KeepsFrame Neutral x.run) :
    KeepsFrame Neutral
      (do let n ← Step.issue h; Step.waitTurn h n; Tx.andThen x (Step.finishTicket h n) : Tx α).run :=
  KeepsFrame.run_liftM_bind (issue_neutral h).frame fun n =>
    KeepsFrame.run_liftM_bind (KeepsFrame.await _) fun _ =>
      KeepsFrame.run_andThen hx (finishTicket_neutral h n).frame

theorem httpKeepAlive_neutral (h : Nat) : KeepsFrame Neutral (httpKeepAlive h).run := by
  unfold httpKeepAlive
  refine ticketed_neutral h ?_
  refine KeepsFrame.run_liftM_bind KeepsFrame.read fun w => ?_
  refine KeepsFrame.run_ofExcept_bind fun _ _ => ?_
  split
  · exact KeepsFrame.run_pure _
  · refine KeepsFrame.run_liftM_bind (post_neutral h _ _).frame fun r => ?_
    split
    · exact (absorb_neutral h _).frame
    · exact KeepsFrame.run_liftM_bind (vanished_neutral h).frame fun _ => KeepsFrame.run_throw _
    · exact KeepsFrame.run_liftM_bind (recordFailure_neutral h _).frame fun _ =>
        KeepsFrame.run_throw _

theorem httpRollback_neutral (h : Nat) : KeepsFrame Neutral (httpRollback h).run := by
  unfold httpRollback
  refine ticketed_neutral h ?_
  refine KeepsFrame.run_liftM_bind KeepsFrame.read fun w => ?_
  dsimp only
  split
  · exact KeepsFrame.run_pure _
  refine KeepsFrame.run_ofExcept_bind fun _ _ => ?_
  split
  · exact KeepsFrame.run_liftM (setState_neutral h _).frame
  · refine KeepsFrame.run_liftM_bind (send_neutral h _ _ _).frame fun r => ?_
    refine KeepsFrame.run_liftM_bind (setState_neutral h _).frame fun _ => ?_
    split
    · exact KeepsFrame.run_pure _
    · exact KeepsFrame.run_pure _
    · exact KeepsFrame.run_throw _

theorem sessionRollback_neutral (h : Nat) : KeepsFrame Neutral (sessionRollback h).run := by
  unfold sessionRollback
  refine ticketed_neutral h ?_
  refine KeepsFrame.run_liftM_bind KeepsFrame.read fun w => ?_
  dsimp only
  refine KeepsFrame.run_ofExcept_bind fun _ _ => ?_
  refine KeepsFrame.run_liftM_bind (finishSession_neutral h _ _) fun r => ?_
  split
  · exact KeepsFrame.run_pure _
  · split
    · exact KeepsFrame.run_pure _
    · split
      · exact KeepsFrame.run_pure _
      · exact KeepsFrame.run_throw _

theorem rollback_neutral (h : Nat) : KeepsFrame Neutral (rollback h).run := by
  unfold rollback
  refine KeepsFrame.run_liftM_bind KeepsFrame.read fun w => ?_
  split
  · exact httpRollback_neutral h
  · exact sessionRollback_neutral h

theorem keepAlive_neutral (h : Nat) : KeepsFrame Neutral (keepAlive h).run := by
  unfold keepAlive
  refine KeepsFrame.run_liftM_bind KeepsFrame.read fun w => ?_
  dsimp only
  split
  · exact httpKeepAlive_neutral h
  · exact KeepsFrame.run_ofExcept _

/-- An HTTP commit reads the count but changes none. -/
theorem httpCommit_neutral (h : Nat) (batch : Batch) : KeepsFrame Neutral (httpCommit h batch).run := by
  unfold httpCommit
  extract_lets committing afterPending
  -- the request once its address is settled
  have request : ∀ uri, KeepsFrame Neutral (committing uri).run := by
    intro uri
    refine KeepsFrame.run_liftM_bind (post_neutral h _ batch).frame fun r => ?_
    split
    · exact KeepsFrame.run_liftM_bind (setState_neutral h _).frame fun _ => KeepsFrame.run_pure _
    · exact KeepsFrame.run_liftM_bind (vanished_neutral h).frame fun _ => KeepsFrame.run_throw _
    · exact KeepsFrame.run_throw _
    · exact KeepsFrame.run_liftM_bind (setState_neutral h _).frame fun _ => KeepsFrame.run_throw _
  refine KeepsFrame.run_liftM_bind KeepsFrame.read fun w₀ => ?_
  dsimp only
  split
  · exact KeepsFrame.run_throw_bind
  refine ticketed_neutral h ?_
  refine KeepsFrame.run_liftM_bind KeepsFrame.read fun w => ?_
  dsimp only
  split
  · exact KeepsFrame.run_throw_bind
  refine KeepsFrame.run_ofExcept_bind fun _ _ => ?_
  split
  · exact KeepsFrame.run_pure_bind (request _)
  · split
    · exact KeepsFrame.run_liftM_bind (setState_neutral h _).frame fun _ => KeepsFrame.run_pure _
    · exact KeepsFrame.run_pure_bind (request _)

theorem abandonLocally_neutral (h : Nat) : KeepsFrame Neutral (abandonLocally h) := by
  refine KeepsFrame.modifyGet fun s => ?_
  dsimp only
  split
  · split
    · exact s.neutral_modifyHandle h fun _ => rfl
    · exact .refl s
  · exact .refl s

theorem keepAliveFrom_neutral (h start period : Nat) :
    ∀ fuel k, KeepsFrame Neutral (keepAliveFrom h start period fuel k) := by
  intro fuel
  induction fuel with
  | zero => intro k; exact KeepsFrame.pure _
  | succ fuel ih =>
    intro k
    unfold keepAliveFrom
    refine KeepsFrame.bind (KeepsFrame.await _) fun _ => ?_
    refine KeepsFrame.bind KeepsFrame.read fun w => ?_
    dsimp only
    split
    · exact KeepsFrame.pure _
    split
    · exact ih _
    refine KeepsFrame.bind (keepAlive_neutral h) fun r => ?_
    split
    · split
      · exact KeepsFrame.pure _
      · exact ih _
    · exact ih _

theorem keepAliveTask_neutral (h period : Nat) : KeepsFrame Neutral (keepAliveTask h period) := by
  unfold keepAliveTask
  refine KeepsFrame.bind KeepsFrame.read fun w => ?_
  exact KeepsFrame.bind (KeepsFrame.await _) fun _ => keepAliveFrom_neutral h _ period _ _

/-- A new handle has nothing pending. -/
theorem addHandle_neutral (database : String) (link : Link) :
    KeepsFrame Neutral (addHandle database link) :=
  KeepsFrame.modifyGet fun s => s.neutral_push rfl

theorem newHandle_neutral (m : Nat) (version : ServerVersion) (database : String) :
    KeepsFrame Neutral (newHandle m version database).run := by
  unfold newHandle
  refine KeepsFrame.run_liftM_bind KeepsFrame.read fun w => ?_
  dsimp only
  split
  · refine KeepsFrame.run_liftM_bind (addHandle_neutral _ _) fun h => ?_
    split
    · exact KeepsFrame.run_liftM_bind
        (KeepsFrame.spawn (KeepsFrame.toFiber (keepAliveTask_neutral h _))) fun _ =>
        KeepsFrame.run_pure _
    · exact KeepsFrame.run_pure _
  · refine KeepsFrame.run_liftM_bind
      (KeepsFrame.modifyGet fun s => World.neutral_of_handles rfl rfl rfl) fun fault => ?_
    split
    · exact KeepsFrame.run_throw _
    · exact KeepsFrame.run_liftM (addHandle_neutral _ _)

/-! ## Statement runs: counted while they run -/

/-- A statement run waits for its turn, runs a body that counts nothing, and then, failed or
not, ends its pending run and gives its ticket back. -/
theorem httpExecute_shape (h n : Nat) (batch : Batch) :
    ∃ body : Tx (List StatementResult), Direct Neutral body.run ∧
      httpExecute h n batch =
        (do Step.waitTurn h n; Tx.andThen body (do Step.endPending h; Step.finishTicket h n)) := by
  refine ⟨_, ?_, rfl⟩
  refine Direct.run_liftM_bind Direct.read fun w => ?_
  dsimp only
  refine Direct.run_ofExcept_bind fun _ _ => ?_
  refine Direct.run_liftM_bind (post_neutral h _ _) fun r => ?_
  split
  · exact Direct.run_bind (absorb_neutral h _) fun _ => Direct.run_pure _
  · split
    · exact Direct.run_liftM_bind (vanished_neutral h) fun _ => Direct.run_throw _
    · exact Direct.run_throw _
  · exact Direct.run_liftM_bind (recordFailure_neutral h _) fun _ => Direct.run_throw _

theorem sessionExecute_shape (h n : Nat) (batch : Batch) :
    ∃ body : Tx (List StatementResult), Direct Neutral body.run ∧
      sessionExecute h n batch =
        (do Step.waitTurn h n; Tx.andThen body (do Step.endPending h; Step.finishTicket h n)) := by
  refine ⟨_, ?_, rfl⟩
  refine Direct.run_liftM_bind Direct.read fun w => ?_
  dsimp only
  refine Direct.run_ofExcept_bind fun _ _ => ?_
  refine Direct.run_liftM_bind (runStatements_neutral _ _) fun r => ?_
  split
  · exact Direct.run_pure _
  · refine Direct.run_liftM_bind (Direct.change fun s => s.neutral_modifyHandle h fun hd => ?_)
      fun _ => Direct.run_throw _
    split <;> rfl

/-! ## Every operation keeps the counts true -/

/-- Code that counts nothing keeps to `countRules`, and keeps what the rules keep. -/
theorem counts_of_neutral {x : Step α} (hx : KeepsFrame Neutral x) {P : World → Prop}
    (hP : Stable World.KeepsCount P) : Triple countRules P x fun _ => P :=
  hx.triple countRules_lawful (fun _ _ hn => hn.keepsCount) hP

section Counts

variable {P : World → Prop} (hP : Stable World.KeepsCount P)
include hP

theorem change_counts {f : World → World} (hf : ∀ s, P s → World.KeepsCount s (f s)) :
    Triple countRules P (Step.change f) fun _ => P :=
  (Triple.modify hf).post fun _ _ ⟨s, hs, hsched⟩ => hP _ _ (hP _ _ hs (hf s hs)) hsched.keepsCount

theorem await_counts (w : Await Cond) : Triple countRules P (Async.await w) fun _ => P :=
  (Triple.await w).post fun _ _ hs => After.of_stable hP hs.1

/-- A run is counted only on a handle that exists. -/
theorem beginPending_counts {h : Nat} (hh : ∀ s, P s → h < s.handles.size) :
    Triple countRules P (Step.beginPending h) fun _ => P :=
  change_counts hP fun s hs => World.keepsCount_beginPending (hh s hs)

theorem endPending_counts (h : Nat) : Triple countRules P (Step.endPending h) fun _ => P :=
  change_counts hP fun s _ => World.keepsCount_endPending s h

theorem reserve_counts {h : Nat} (hh : ∀ s, P s → h < s.handles.size) :
    Triple countRules P (reserve h) fun _ => P :=
  Triple.bind (beginPending_counts hP hh) fun _ => counts_of_neutral (issue_neutral h).frame hP

/-- A run whose body counts nothing, ending its pending run when the body is done. -/
theorem run_counts {body : Tx α} (hbody : KeepsFrame Neutral body.run) (h n : Nat) :
    Triple countRules P
      (do Step.waitTurn h n; Tx.andThen body (do Step.endPending h; Step.finishTicket h n) : Tx α).run
      fun _ => P :=
  Triple.run_liftM_bind (await_counts hP _) fun _ =>
    Triple.run_andThen (fun _ => P) (counts_of_neutral hbody hP) fun _ =>
      Triple.bind (endPending_counts hP h) fun _ => counts_of_neutral (finishTicket_neutral h n).frame hP

theorem httpExecute_counts (h n : Nat) (batch : Batch) :
    Triple countRules P (httpExecute h n batch).run fun _ => P := by
  obtain ⟨body, hbody, heq⟩ := httpExecute_shape h n batch
  rw [heq]
  exact run_counts hP hbody.frame h n

theorem sessionExecute_counts (h n : Nat) (batch : Batch) :
    Triple countRules P (sessionExecute h n batch).run fun _ => P := by
  obtain ⟨body, hbody, heq⟩ := sessionExecute_shape h n batch
  rw [heq]
  exact run_counts hP hbody.frame h n

theorem executeReserved_counts (h n : Nat) (batch : Batch) :
    Triple countRules P (executeReserved h n batch).run fun _ => P := by
  unfold executeReserved
  refine Triple.run_get_bind countRules_lawful fun w hw => ?_
  have hnow : ∀ s, P w ∧ countRules.sched w s → P s := fun s hs => hP _ _ hs.1 hs.2.keepsCount
  split
  · exact (httpExecute_counts hP h n batch).pre hnow
  · exact (sessionExecute_counts hP h n batch).pre hnow

theorem execute_counts {h : Nat} (hh : ∀ s, P s → h < s.handles.size) (batch : Batch) :
    Triple countRules P (execute h batch).run fun _ => P :=
  Triple.run_liftM_bind (reserve_counts hP hh) fun n => executeReserved_counts hP h n batch

/-- A driver commit counts its last batch as a run while it runs. -/
theorem sessionCommit_counts {h : Nat} (hh : ∀ s, P s → h < s.handles.size) (batch : Batch) :
    Triple countRules P (sessionCommit h batch).run fun _ => P := by
  unfold sessionCommit
  extract_lets finishing lastBatch
  -- the commit proper, after the last batch ran
  have finish : ∀ results, KeepsFrame Neutral (finishing results).run := by
    intro results
    refine ticketed_neutral h ?_
    refine KeepsFrame.run_liftM_bind KeepsFrame.read fun w => ?_
    dsimp only
    refine KeepsFrame.run_ofExcept_bind fun _ _ => ?_
    split
    · exact KeepsFrame.run_liftM_bind (finishSession_neutral h _ _) fun _ => KeepsFrame.run_throw _
    · refine KeepsFrame.run_liftM_bind (finishSession_neutral h _ _) fun r => ?_
      split
      · exact KeepsFrame.run_pure _
      · exact KeepsFrame.run_throw _
  refine Triple.run_get_bind countRules_lawful fun w₀ hw₀ => ?_
  have hnow : ∀ s, P w₀ ∧ countRules.sched w₀ s → P s := fun s hs => hP _ _ hs.1 hs.2.keepsCount
  dsimp only
  split
  · exact Triple.run_throw_bind fun s hs => hnow s hs
  dsimp only [lastBatch]
  split
  · exact Triple.run_pure_bind ((counts_of_neutral (finish _) hP).pre hnow)
  · refine Triple.run_liftM_bind ((beginPending_counts hP hh).pre hnow) fun _ => ?_
    refine Triple.run_liftM_bind (counts_of_neutral (issue_neutral h).frame hP) fun n => ?_
    exact Triple.run_bind (fun _ => P) (sessionExecute_counts hP h n batch)
      (fun _ => counts_of_neutral (finish _) hP) fun _ _ hs => hs

theorem commitWith_counts {h : Nat} (hh : ∀ s, P s → h < s.handles.size) (batch : Batch) :
    Triple countRules P (commitWith h batch).run fun _ => P := by
  unfold commitWith
  refine Triple.run_get_bind countRules_lawful fun w hw => ?_
  have hnow : ∀ s, P w ∧ countRules.sched w s → P s := fun s hs => hP _ _ hs.1 hs.2.keepsCount
  split
  · exact (counts_of_neutral (httpCommit_neutral h batch) hP).pre hnow
  · exact (sessionCommit_counts hP hh batch).pre hnow

theorem commit_counts {h : Nat} (hh : ∀ s, P s → h < s.handles.size) :
    Triple countRules P (commit h).run fun _ => P :=
  Triple.run_bind (fun _ => P) (commitWith_counts hP hh {}) (fun _ => Triple.run_pure fun _ hs => hs)
    fun _ _ hs => hs

end Counts

/-! ## Runs alone -/

section Alone

variable {t h : Nat}

/-- On an idle handle, the ticket issued is served at once; issuing changes only the handle's
tickets and what owners hold. -/
theorem issue_turn_alone {W : World → Prop} (hlt : ∀ s, W s → h < s.handles.size)
    (hW : ∀ s (tk : Sequencer) n, W s →
      W ((s.modifyHandle h fun hd => { hd with tickets := tk }).hold (.ticket h n)))
    (hwk : ∀ s, W s → W { s with wakes := [] }) :
    Alone World.host t (fun a => W a.state ∧ Idle h a.state)
      (Step.issue h) (fun n a => W a.state ∧ World.host.holds (.turn h n) a.state = true) := by
  unfold Step.issue
  refine Alone.modifyGet_world fun s (hs : W s ∧ Idle h s) a he => ?_
  rw [he]
  simp only [Sequencer.issue]
  have hturn : ((s.modifyHandle h fun x => { x with tickets := { (s.handle h).tickets with
      next := (s.handle h).tickets.next + 1 } }).handle h).tickets.isTurn
      (s.handle h).tickets.next = true := by
    rw [World.handle_modifyHandle_self s (hlt s hs.1)]
    simp only [Sequencer.isTurn, beq_iff_eq]
    exact hs.2
  exact ⟨hwk _ (hW _ _ _ hs.1), hturn⟩

/-- A commit started while statement runs are pending refuses at once, with their number, and
leaves the world as it was: it takes no ticket and sends nothing, and the handle keeps its
state, address and failure. Both kinds of handle check before anything else. -/
theorem commitWith_refused_alone {s : World} (hp : 0 < (s.handle h).pending) (batch : Batch) :
    Alone World.host t (fun a => a.state = s) (commitWith h batch).run (fun r a =>
      r = .error (.invalid ("cannot commit while " ++ toString (s.handle h).pending ++
        " operation(s) are pending")) ∧ a.state = { s with wakes := [] }) := by
  unfold commitWith
  refine Alone.run_liftM_bind (Alone.get_world (· = s)) fun v => Alone.of_fact fun hv => ?_
  subst hv
  have hp' : 0 < (({ v with wakes := [] } : World).handle h).pending := hp
  split
  · unfold httpCommit
    refine Alone.run_liftM_bind (Alone.get_world (· = { v with wakes := [] })) fun w =>
      Alone.of_fact fun hw => ?_
    subst hw
    rw [if_pos hp']
    exact Alone.run_throw_bind fun a ha => ⟨rfl, ha⟩
  · unfold sessionCommit
    refine Alone.run_liftM_bind (Alone.get_world (· = { v with wakes := [] })) fun w =>
      Alone.of_fact fun hw => ?_
    subst hw
    rw [if_pos hp']
    exact Alone.run_throw_bind fun a ha => ⟨rfl, ha⟩

/-- A run in its turn, with a body that counts nothing: when the body is done, failed or not,
the run gives back its pending run, so the count and the runs its owner holds drop by one. -/
theorem run_gives_back_alone {α : Type} {body : Tx α} (hbody : Straight Neutral body.run)
    {n c k o : Nat} :
    Alone World.host t
      (fun a => World.RunsWith h o (c + 1) (k + 1) a.state ∧ World.host.holds (.turn h n) a.state = true)
      (do Step.waitTurn h n; Tx.andThen body (do Step.endPending h; Step.finishTicket h n) : Tx α).run
      (fun _ a => (a.state.handle h).pending = c ∧ a.state.heldBy o h = k) := by
  have hW := fun s s' (hr : World.RunsWith h o (c + 1) (k + 1) s) (hn : Neutral s s') => hr.neutral hn
  have hwk := fun s (hr : World.RunsWith h o (c + 1) (k + 1) s) => hr.wakes
  refine Alone.run_liftM_bind (Alone.await_world (W := fun s => World.RunsWith h o (c + 1) (k + 1) s ∧
    World.host.holds (.turn h n) s = true) fun _ hs => hs.2) fun _ => ?_
  refine Alone.run_andThen (fun _ a => World.RunsWith h o (c + 1) (k + 1) a.state)
    ((hbody t _ hW hwk).pre fun _ ha => ha.1) fun _ => ?_
  -- the pending run given back is one of the running owner's
  refine Alone.bind (Alone.change_world fun s (hr : World.RunsWith h o (c + 1) (k + 1) s) a he => ?_)
    fun _ => (finishTicket_neutral h n).straight t
      (fun s => (s.handle h).pending = c ∧ s.heldBy o h = k)
      (fun _ _ hs hn => ⟨(hn.pending h).trans hs.1, (hn.owned o h).trans hs.2⟩) fun _ hs => hs
  rw [he]
  exact hr.endPending

/-- A statement run is counted when it is started: its first step raises the count by one and
lists one more run under the running owner. On an idle handle its ticket is then served. -/
theorem reserve_alone {c k o : Nat} :
    Alone World.host t (fun a => World.RunsWith h o c k a.state ∧ Idle h a.state) (reserve h)
      (fun n a => World.RunsWith h o (c + 1) (k + 1) a.state ∧
        World.host.holds (.turn h n) a.state = true) := by
  unfold reserve
  refine Alone.bind (Alone.change_world fun s (hs : World.RunsWith h o c k s ∧ Idle h s) a he => ?_)
    fun _ => issue_turn_alone (fun _ hr => hr.lt) (fun s _ _ hr => hr.neutral (s.neutral_issue h _ _))
      fun _ hr => hr.wakes
  rw [he]
  refine ⟨hs.1.beginPending.wakes, ?_⟩
  show Idle h ((s.modifyHandle h fun hd => { hd with pending := hd.pending + 1 }).hold (.pending h))
  unfold Idle
  rw [World.handle_hold, World.handle_modifyHandle_self s hs.1.lt]
  exact hs.2

/-- A statement run started on an idle handle runs to its end without waiting, whatever the
server or driver answers, and gives back what it took: afterwards the handle's count and the
runs its owner holds are as they were before it started. -/
theorem execute_gives_back_alone {c k o : Nat} (batch : Batch) :
    Alone World.host t (fun a => World.RunsWith h o c k a.state ∧ Idle h a.state)
      (execute h batch).run (fun _ a => (a.state.handle h).pending = c ∧ a.state.heldBy o h = k) := by
  unfold execute
  refine Alone.run_liftM_bind reserve_alone fun n => ?_
  unfold executeReserved
  refine Alone.run_liftM_bind (Alone.get_world fun s => World.RunsWith h o (c + 1) (k + 1) s ∧
    World.host.holds (.turn h n) s = true) fun w => ?_
  have hnow : ∀ a : Agenda World Cond,
      (World.RunsWith h o (c + 1) (k + 1) w ∧ World.host.holds (.turn h n) w = true) ∧
        a.state = { w with wakes := [] } →
      World.RunsWith h o (c + 1) (k + 1) a.state ∧ World.host.holds (.turn h n) a.state = true := by
    intro a ha
    rw [ha.2]
    exact ⟨ha.1.1.wakes, ha.1.2⟩
  split
  · obtain ⟨body, hbody, heq⟩ := httpExecute_shape h n batch
    rw [heq]
    exact (run_gives_back_alone hbody.straight).pre hnow
  · obtain ⟨body, hbody, heq⟩ := sessionExecute_shape h n batch
    rw [heq]
    exact (run_gives_back_alone hbody.straight).pre hnow

/-- Ending a session with a commit: the driver's commit is the call logged, and the handle
ends committed when the driver accepts and rolled back otherwise. -/
theorem finishSession_commit_alone {hd : Handle} {l : Array Json} (m : Nat) :
    Alone World.host t (fun a => Tracks h hd l a.state) (finishSession h m true)
      (fun f a => Tracks h { hd with state := if f.isNone then .committed else .rolledBack }
        (l.push (Peer.driverEntry m "commit")) a.state) := by
  unfold finishSession
  refine Alone.modifyGet_world fun s hs a he => ?_
  have hend : Tracks h hd (l.push (Peer.driverEntry m "commit")) (s.endSession m true).2 :=
    (hs.note _).of_handles rfl rfl
  rw [he]
  exact (hend.setState _).of_handles rfl rfl

/-- A commit with nothing pending goes ahead on a driver session. On an open, idle session
handle with no recorded failure, it ends the session with the driver's commit, the one call it
logs, and the handle ends committed when the driver accepts, as the commit reports, and rolled
back otherwise. -/
theorem commit_session_alone {hd : Handle} {l : Array Json} {m : Nat}
    (hlink : hd.link = .session m) (hopen : hd.state = .open) :
    Alone World.host t
      (fun a => ((Tracks h hd l a.state ∧ (a.state.handle h).failure = none) ∧ Idle h a.state) ∧
        (a.state.handle h).pending = 0)
      (commit h).run
      (fun r a => ∃ f : Option DriverFault,
        Tracks h { hd with state := if f.isNone then .committed else .rolledBack }
          (l.push (Peer.driverEntry m "commit")) a.state ∧ (r = .ok () ↔ f = none)) := by
  -- what the commit knows of the handle until its turn: it reads as `hd`, with no failure
  let W : World → Prop := fun s => Tracks h hd l s ∧ (s.handle h).failure = none
  have hW : ∀ s (tk : Sequencer) n, W s →
      W ((s.modifyHandle h fun hd => { hd with tickets := tk }).hold (.ticket h n)) := by
    intro s tk n hs
    refine ⟨hs.1.issue tk _, ?_⟩
    rw [World.handle_hold, World.handle_modifyHandle_self s hs.1.lt]
    exact hs.2
  have hwk : ∀ s, W s → W { s with wakes := [] } := fun s hs => ⟨hs.1.of_handles rfl rfl, hs.2⟩
  let T : Except TxError (List StatementResult) → Agenda World Cond → Prop := fun r a =>
    ∃ f : Option DriverFault,
      Tracks h { hd with state := if f.isNone then .committed else .rolledBack }
        (l.push (Peer.driverEntry m "commit")) a.state ∧ ((∃ v, r = .ok v) ↔ f = none)
  unfold commit commitWith
  refine Alone.run_bind T ?_ (fun _ => Alone.run_pure fun a ha => ?_) fun e a ha => ?_
  rotate_left
  · obtain ⟨f, ht, hf⟩ := ha
    exact ⟨f, ht, by simp [← hf]⟩
  · obtain ⟨f, ht, hf⟩ := ha
    exact ⟨f, ht, by simp [← hf]⟩
  refine Alone.run_liftM_bind (Alone.get_world fun s => (W s ∧ Idle h s) ∧ (s.handle h).pending = 0)
    fun v => Alone.of_fact fun hv => ?_
  rw [hv.1.1.1.link, hlink]
  unfold sessionCommit
  refine Alone.run_liftM_bind (Alone.get_world (· = { v with wakes := [] })) fun v' =>
    Alone.of_fact fun hv' => ?_
  subst hv'
  dsimp only
  rw [show (({ v with wakes := [] } : World).handle h).pending = 0 from hv.2, if_neg (Nat.lt_irrefl 0),
    if_pos (show ({} : Batch).isEmpty = true from rfl)]
  refine Alone.run_pure_bind ?_
  have hpre : ∀ a : Agenda World Cond, a.state = { v with wakes := [] } → W a.state ∧ Idle h a.state :=
    fun a ha => by
      rw [ha]
      exact ⟨hwk _ hv.1.1, hv.1.2.of_handles rfl⟩
  refine Alone.run_liftM_bind ((issue_turn_alone (fun _ hs => hs.1.lt) hW hwk).pre hpre) fun n => ?_
  refine Alone.run_liftM_bind (Alone.await_world (W := fun s => W s ∧
    World.host.holds (.turn h n) s = true) fun _ hs => hs.2) fun _ => ?_
  refine Alone.run_andThen T ?_ fun r => ?_
  · -- in its turn the commit finds the handle open and without failure, and commits
    refine Alone.run_liftM_bind (Alone.get_world fun s => W s ∧ World.host.holds (.turn h n) s = true)
      fun w => Alone.of_fact fun hw => ?_
    have hopen' : (w.handle h).state = .open := hw.1.1.state.trans hopen
    refine Alone.run_ofExcept_bind (fun _ _ => ?_) fun x hx => by
      rw [hopen'] at hx
      cases hx
    rw [hw.1.2]
    have hvia : (w.handle h).via = m := by
      unfold Handle.via
      rw [hw.1.1.link, hlink]
    dsimp only
    rw [hvia]
    refine Alone.run_liftM_bind ((finishSession_commit_alone m).pre fun a ha => by
      rw [ha]
      exact hw.1.1.of_handles rfl rfl) fun f => ?_
    cases f with
    | none => exact Alone.run_pure fun a ha => ⟨none, ha, by simp⟩
    | some e => exact Alone.run_throw fun a ha => ⟨some e, ha, by simp⟩
  · -- giving the ticket back leaves the handle as the commit left it
    intro k R hk a ha
    obtain ⟨f, ht, hf⟩ := ha
    exact finishTicket_alone n k R (fun v a' ha' => hk v a' ⟨f, ha', hf⟩) a ht


/-- A commit with no last batch refuses in the same way while statement runs are pending. -/
theorem commit_refused_alone {s : World} (hp : 0 < (s.handle h).pending) :
    Alone World.host t (fun a => a.state = s) (commit h).run (fun r a =>
      r = .error (.invalid ("cannot commit while " ++ toString (s.handle h).pending ++
        " operation(s) are pending")) ∧ a.state = { s with wakes := [] }) := by
  unfold commit
  refine Alone.run_bind _ (commitWith_refused_alone hp {}) (fun _ => Alone.run_pure fun _ ha => ?_)
    fun _ _ ha => ?_
  · cases ha.1
  · obtain ⟨he, hs⟩ := ha
    cases he
    exact ⟨rfl, hs⟩

end Alone

/-! ## Pending runs are counted -/

/-- Every operation of handle `h` keeps to `countRules` from any world where the handle
exists. -/
structure OperationsCount (h : Nat) : Prop where
  reserve : Triple countRules (World.HasHandle h) (Transaction.reserve h) fun _ => World.HasHandle h
  executeReserved : ∀ n batch, Triple countRules (World.HasHandle h)
    (Transaction.executeReserved h n batch).run fun _ => World.HasHandle h
  execute : ∀ batch, Triple countRules (World.HasHandle h)
    (Transaction.execute h batch).run fun _ => World.HasHandle h
  commitWith : ∀ batch, Triple countRules (World.HasHandle h)
    (Transaction.commitWith h batch).run fun _ => World.HasHandle h
  commit : Triple countRules (World.HasHandle h) (Transaction.commit h).run fun _ => World.HasHandle h
  rollback : Triple countRules (World.HasHandle h) (Transaction.rollback h).run
    fun _ => World.HasHandle h
  keepAlive : Triple countRules (World.HasHandle h) (Transaction.keepAlive h).run
    fun _ => World.HasHandle h
  keepAliveTask : ∀ period, Triple countRules (World.HasHandle h)
    (Transaction.keepAliveTask h period) fun _ => World.HasHandle h
  abandonLocally : Triple countRules (World.HasHandle h) (Transaction.abandonLocally h)
    fun _ => World.HasHandle h

theorem operationsCount (h : Nat) : OperationsCount h :=
  have hP := World.stable_hasHandle h
  have hh : ∀ s, World.HasHandle h s → h < s.handles.size := fun _ hs => hs
  { reserve := reserve_counts hP hh
    executeReserved := executeReserved_counts hP h
    execute := execute_counts hP hh
    commitWith := commitWith_counts hP hh
    commit := commit_counts hP hh
    rollback := counts_of_neutral (rollback_neutral h) hP
    keepAlive := counts_of_neutral (keepAlive_neutral h) hP
    keepAliveTask := fun period => counts_of_neutral (keepAliveTask_neutral h period) hP
    abandonLocally := counts_of_neutral (abandonLocally_neutral h) hP }

/-- In every run of tasks that keep to `countRules`, from a world whose counts are true, the
counts stay true. -/
theorem counted_of_run (fuel : Nat) (a : Agenda World Cond) (ha : Agenda.Sound countRules a)
    (hc : a.state.Counted) : (Agenda.loop World.host fuel a).state.Counted :=
  (Agenda.loop_sound countRules_lawful World.host_keeps_countRules fuel a ha).2.counted hc

/-- **Pending statement runs are counted.** Every operation of a handle of either kind keeps
to `countRules` from any world where the handle exists, and so do the making of a handle and
the scheduler. So in every run of such tasks, each handle's pending count stays the number of
its statement runs that running code holds.

A run is counted in its first step, under the owner that runs it, and gives its count back
when it ends, whatever the server or driver answered. A fiber that is dropped gives back every
run its owner held. A commit started while runs are pending refuses at once with their number
and leaves the world as it was. With nothing pending it goes ahead: on the HTTP endpoint it
posts to the transaction's address followed by "/commit", and on a driver it ends the session
with the driver's commit. -/
theorem pending_runs_are_counted :
    (∀ h, OperationsCount h) ∧
    (∀ (P : World → Prop) m version database, Stable World.KeepsCount P →
      Triple countRules P (newHandle m version database).run fun _ => P) ∧
    World.host.Keeps countRules ∧
    (∀ fuel (a : Agenda World Cond), Agenda.Sound countRules a → a.state.Counted →
      (Agenda.loop World.host fuel a).state.Counted) ∧
    (∀ t h o c k, Alone World.host t (fun a => World.RunsWith h o c k a.state ∧ Idle h a.state)
      (reserve h) fun n a => World.RunsWith h o (c + 1) (k + 1) a.state ∧
        World.host.holds (.turn h n) a.state = true) ∧
    (∀ t h o c k batch, Alone World.host t
      (fun a => World.RunsWith h o c k a.state ∧ Idle h a.state) (execute h batch).run
      fun _ a => (a.state.handle h).pending = c ∧ a.state.heldBy o h = k) ∧
    (∀ (w : World) o h, w.Counted →
      ((w.releaseOwner o).handle h).pending = (w.handle h).pending - w.heldBy o h ∧
        (w.releaseOwner o).heldBy o h = 0) ∧
    (∀ t h (s : World) batch, 0 < (s.handle h).pending →
      Alone World.host t (fun a => a.state = s) (commitWith h batch).run fun r a =>
        r = .error (.invalid ("cannot commit while " ++ toString (s.handle h).pending ++
          " operation(s) are pending")) ∧ a.state = { s with wakes := [] }) ∧
    (∀ t h (s : World), 0 < (s.handle h).pending →
      Alone World.host t (fun a => a.state = s) (commit h).run fun r a =>
        r = .error (.invalid ("cannot commit while " ++ toString (s.handle h).pending ++
          " operation(s) are pending")) ∧ a.state = { s with wakes := [] }) ∧
    (∀ t h (hd : Handle) (l : Array Json) m (c : Config) (v : ServerVersion) loc,
      hd.link = .http m c v → hd.location = some loc → hd.state = .open → hd.tickets.Clear →
      Alone World.host t (fun a => Follows h hd l a.state ∧ (a.state.handle h).pending = 0)
        (commit h).run fun _ a => a.state.log = l.push (postRequest hd (loc ++ "/commit") {})) ∧
    ∀ t h (hd : Handle) (l : Array Json) m, hd.link = .session m → hd.state = .open →
      Alone World.host t
        (fun a => ((Tracks h hd l a.state ∧ (a.state.handle h).failure = none) ∧ Idle h a.state) ∧
          (a.state.handle h).pending = 0)
        (commit h).run fun r a => ∃ f : Option DriverFault,
          Tracks h { hd with state := if f.isNone then .committed else .rolledBack }
            (l.push (Peer.driverEntry m "commit")) a.state ∧ (r = .ok () ↔ f = none) :=
  ⟨operationsCount,
    fun _ m version database hP => counts_of_neutral (newHandle_neutral m version database) hP,
    World.host_keeps_countRules,
    counted_of_run,
    fun _ _ _ _ _ => reserve_alone,
    fun _ _ _ _ _ batch => execute_gives_back_alone batch,
    fun w o h hc => ⟨World.pending_releaseOwner hc o h, w.heldBy_releaseOwner o h⟩,
    fun _ _ _ batch hp => commitWith_refused_alone hp batch,
    fun _ _ _ hp => commit_refused_alone hp,
    fun _ _ _ _ _ _ _ _ hlink hloc hopen hc => commit_located_alone hlink hloc hopen hc,
    fun _ _ _ _ _ hlink hopen => commit_session_alone hlink hopen⟩

/-- An HTTP handle with one statement run pending, held by owner 1: its counts are true, a
commit refuses with "1" and changes nothing, and once owner 1's fiber is dropped the count is
back to 0 and the commit posts to the address followed by "/commit". -/
theorem commit_waits_for_pending_run :
    let hd : Handle :=
      { id := default, database := "neo4j", link := .http 0 default ⟨5, 13, 0⟩,
        location := some "http://localhost:7474/db/neo4j/tx/1", pending := 1 }
    let w : World := { handles := #[hd], holds := [(1, .pending 0)] }
    w.Counted ∧
    Alone World.host 0 (fun a => a.state = w) (commit 0).run (fun r a =>
      r = .error (.invalid "cannot commit while 1 operation(s) are pending") ∧
        a.state = { w with wakes := [] }) ∧
    ((w.releaseOwner 1).handle 0).pending = 0 ∧
    Alone World.host 0 (fun a => a.state = w.releaseOwner 1) (commit 0).run
      (fun _ a => a.state.log = #[postRequest hd ("http://localhost:7474/db/neo4j/tx/1" ++ "/commit") {}]) := by
  intro hd w
  have hc : w.Counted := by
    intro i
    cases i with
    | zero => rfl
    | succ i =>
      simp [w, World.handle, World.pendingHeld]
      rfl
  have hcount := pending_runs_are_counted
  have hdrop : ((w.releaseOwner 1).handle 0).pending = 0 := (hcount.2.2.2.2.2.2.1 w 1 0 hc).1
  have hmsg : "cannot commit while " ++ toString (w.handle 0).pending ++ " operation(s) are pending" =
      "cannot commit while 1 operation(s) are pending" := by decide
  have hrefused := hcount.2.2.2.2.2.2.2.2.1 0 0 w (by decide)
  rw [hmsg] at hrefused
  refine ⟨hc, hrefused, hdrop, ?_⟩
  refine (hcount.2.2.2.2.2.2.2.2.2.1 0 0 hd #[] 0 default ⟨5, 13, 0⟩ _ rfl rfl rfl ⟨rfl, rfl⟩).pre
    fun a ha => ?_
  rw [ha]
  exact ⟨⟨⟨by decide, rfl, rfl, rfl, rfl⟩, rfl, rfl⟩, hdrop⟩

end Transaction

end TxnCoord
