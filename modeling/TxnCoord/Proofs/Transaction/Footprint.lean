import TxnCoord.Proofs.World.Frame
import TxnCoord.Transaction.Handle
/-!
# What a handle's operations touch

Every operation of a handle, and the keep-alive task a new HTTP handle starts, changes only
the handles, what owners hold, the tasks to wake, the peers and the log
(`KeepsFrame (World.HandleMove (· = h))` for the code of handle `h`). Whatever the servers and drivers answer, they never touch a
scope, a unit of work, an enlistment or a store: rules about those parts of the world take
a handle's operations as they are.
-/

namespace TxnCoord.World

@[simp] theorem handles_endSession (w : World) (m : Nat) (commit : Bool) :
    (w.endSession m commit).2.handles = w.handles := rfl

@[simp] theorem log_finishSession (w : World) (h m : Nat) (commit : Bool) :
    (w.finishSession h m commit).2.log =
      w.log.push (Peer.driverEntry m (if commit then "commit" else "rollback")) := rfl

@[simp] theorem size_finishSession (w : World) (h m : Nat) (commit : Bool) :
    (w.finishSession h m commit).2.handles.size = w.handles.size := by
  simp [World.finishSession, World.modifyHandle]

/-- Ending a session ends its handle, and changes nothing else of it: committed when a commit
went through, rolled back otherwise. -/
theorem handle_finishSession (w : World) {h : Nat} (hlt : h < w.handles.size) (m : Nat)
    (commit : Bool) : (w.finishSession h m commit).2.handle h = { w.handle h with state :=
      if commit && (w.finishSession h m commit).1.isNone then .committed else .rolledBack } :=
  handle_modifyHandle_self (w.endSession m commit).2 hlt _

theorem state_finishSession (w : World) {h : Nat} (hlt : h < w.handles.size) (m : Nat)
    (commit : Bool) : ((w.finishSession h m commit).2.handle h).state =
      if commit && (w.finishSession h m commit).1.isNone then .committed else .rolledBack := by
  rw [w.handle_finishSession hlt]

end TxnCoord.World

namespace TxnCoord.Transaction

open World (HandleMove)

variable {H : Nat → Prop}

theorem setState_frame (h : Nat) (st : TxState) : KeepsFrame (HandleMove (· = h)) (setState h st) :=
  KeepsFrame.changeHandle fun _ => ⟨rfl, rfl, rfl⟩

theorem send_frame (h : Nat) (m : Http.Method) (uri : String) (body : Option Json) :
    KeepsFrame (HandleMove (· = h)) (send h m uri body) :=
  KeepsFrame.modifyGet fun s => (HandleMove.note s _).trans (HandleMove.modifyPeer _ _ _)

theorem post_frame (h : Nat) (uri : String) (batch : Batch) :
    KeepsFrame (HandleMove (· = h)) (post h uri batch) := by
  unfold post
  refine KeepsFrame.bind (send_frame h _ _ _) fun r => ?_
  split
  · exact KeepsFrame.pure _
  · dsimp only
    split
    · refine KeepsFrame.bind (KeepsFrame.changeHandle fun hd => ?_) fun _ => KeepsFrame.pure _
      split <;> exact ⟨rfl, rfl, rfl⟩
    · exact KeepsFrame.pure _

theorem absorb_frame (h : Nat) (a : Http.Accepted) : KeepsFrame (HandleMove (· = h)) (absorb h a).run := by
  unfold absorb
  refine KeepsFrame.run_liftM_bind KeepsFrame.read fun w => ?_
  extract_lets hd expiry
  -- the expiry comes last, whether the address was new or not
  have hexpiry : ∀ u, KeepsFrame (HandleMove (· = h)) (expiry u).run := by
    intro u
    dsimp only [expiry]
    split
    · exact KeepsFrame.run_liftM (KeepsFrame.changeHandle fun _ => ⟨rfl, rfl, rfl⟩)
    · exact KeepsFrame.run_pure _
  split
  · split
    · exact KeepsFrame.run_liftM_bind (KeepsFrame.changeHandle fun _ => ⟨rfl, rfl, rfl⟩) hexpiry
    · exact KeepsFrame.run_throw_bind
  · exact hexpiry ()

theorem vanished_frame (h : Nat) : KeepsFrame (HandleMove (· = h)) (vanished h) :=
  KeepsFrame.bind (setState_frame h _) fun _ => KeepsFrame.pure _

theorem recordFailure_frame (h : Nat) (f : Http.Failure) :
    KeepsFrame (HandleMove (· = h)) (recordFailure h f) := by
  unfold recordFailure
  dsimp only
  split
  · -- the failure is kept, and a server from 3.0 on rolls back: neither touches the link
    refine KeepsFrame.bind (KeepsFrame.changeHandle fun hd => ?_) fun _ => KeepsFrame.pure _
    split <;> split <;> exact ⟨rfl, rfl, rfl⟩
  · exact KeepsFrame.pure _

/-- An operation that takes a ticket of handle `h` and gives it back after its body changes
what its body changes. -/
theorem ticketed_frame {α : Type} (h : Nat) {x : Tx α} (hx : KeepsFrame (HandleMove (· = h)) x.run) :
    KeepsFrame (HandleMove (· = h))
      (do let n ← Step.issue h; Step.waitTurn h n; Tx.andThen x (Step.finishTicket h n) : Tx α).run :=
  KeepsFrame.run_liftM_bind (Step.issue_frame h) fun n =>
    KeepsFrame.run_liftM_bind (KeepsFrame.await _) fun _ =>
      KeepsFrame.run_andThen hx (Step.finishTicket_frame h n)

theorem httpKeepAlive_frame (h : Nat) : KeepsFrame (HandleMove (· = h)) (httpKeepAlive h).run := by
  unfold httpKeepAlive
  refine ticketed_frame h ?_
  refine KeepsFrame.run_liftM_bind KeepsFrame.read fun w => ?_
  refine KeepsFrame.run_ofExcept_bind fun _ _ => ?_
  split
  · exact KeepsFrame.run_pure _
  · refine KeepsFrame.run_liftM_bind (post_frame h _ _) fun r => ?_
    split
    · exact absorb_frame h _
    · exact KeepsFrame.run_liftM_bind (vanished_frame h) fun _ => KeepsFrame.run_throw _
    · exact KeepsFrame.run_liftM_bind (recordFailure_frame h _) fun _ => KeepsFrame.run_throw _

theorem httpRollback_frame (h : Nat) : KeepsFrame (HandleMove (· = h)) (httpRollback h).run := by
  unfold httpRollback
  refine ticketed_frame h ?_
  refine KeepsFrame.run_liftM_bind KeepsFrame.read fun w => ?_
  dsimp only
  split
  · exact KeepsFrame.run_pure _
  refine KeepsFrame.run_ofExcept_bind fun _ _ => ?_
  split
  · exact KeepsFrame.run_liftM (setState_frame h _)
  · refine KeepsFrame.run_liftM_bind (send_frame h _ _ _) fun r => ?_
    refine KeepsFrame.run_liftM_bind (setState_frame h _) fun _ => ?_
    split
    · exact KeepsFrame.run_pure _
    · exact KeepsFrame.run_pure _
    · exact KeepsFrame.run_throw _

theorem finishSession_frame (h m : Nat) (commit : Bool) :
    KeepsFrame (HandleMove (· = h)) (finishSession h m commit) :=
  KeepsFrame.modifyGet fun s => ((HandleMove.note s _).trans (HandleMove.modifyPeer _ _ _)).trans
    (HandleMove.modifyHandle _ rfl fun _ => ⟨rfl, rfl, rfl⟩)

theorem sessionRollback_frame (h : Nat) : KeepsFrame (HandleMove (· = h)) (sessionRollback h).run := by
  unfold sessionRollback
  refine ticketed_frame h ?_
  refine KeepsFrame.run_liftM_bind KeepsFrame.read fun w => ?_
  dsimp only
  refine KeepsFrame.run_ofExcept_bind fun _ _ => ?_
  refine KeepsFrame.run_liftM_bind (finishSession_frame h _ _) fun r => ?_
  split
  · exact KeepsFrame.run_pure _
  · split
    · exact KeepsFrame.run_pure _
    · split
      · exact KeepsFrame.run_pure _
      · exact KeepsFrame.run_throw _

theorem rollback_frame (h : Nat) : KeepsFrame (HandleMove (· = h)) (rollback h).run := by
  unfold rollback
  refine KeepsFrame.run_liftM_bind KeepsFrame.read fun w => ?_
  split
  · exact httpRollback_frame h
  · exact sessionRollback_frame h

theorem keepAlive_frame (h : Nat) : KeepsFrame (HandleMove (· = h)) (keepAlive h).run := by
  unfold keepAlive
  refine KeepsFrame.run_liftM_bind KeepsFrame.read fun w => ?_
  dsimp only
  split
  · exact httpKeepAlive_frame h
  · exact KeepsFrame.run_ofExcept _

theorem runStatements_frame (m : Nat) (ss : List Statement) :
    KeepsFrame (HandleMove H) (runStatements m ss) := by
  induction ss with
  | nil => exact KeepsFrame.pure _
  | cons s rest ih =>
    unfold runStatements
    refine KeepsFrame.bind (KeepsFrame.modifyGet fun w => HandleMove.note w _) fun r => ?_
    split
    · exact KeepsFrame.pure _
    · exact KeepsFrame.bind ih fun r => by split <;> exact KeepsFrame.pure _

theorem sessionExecute_frame (h n : Nat) (batch : Batch) :
    KeepsFrame (HandleMove (· = h)) (sessionExecute h n batch).run := by
  unfold sessionExecute
  refine KeepsFrame.run_liftM_bind (KeepsFrame.await _) fun _ => ?_
  refine KeepsFrame.run_andThen ?_
    (KeepsFrame.bind (Step.endPending_frame h) fun _ => Step.finishTicket_frame h n)
  refine KeepsFrame.run_liftM_bind KeepsFrame.read fun w => ?_
  dsimp only
  refine KeepsFrame.run_ofExcept_bind fun _ _ => ?_
  refine KeepsFrame.run_liftM_bind (runStatements_frame _ _) fun r => ?_
  split
  · exact KeepsFrame.run_pure _
  · refine KeepsFrame.run_liftM_bind (KeepsFrame.changeHandle fun hd => ?_) fun _ =>
      KeepsFrame.run_throw _
    split <;> exact ⟨rfl, rfl, rfl⟩

theorem httpCommit_frame (h : Nat) (batch : Batch) :
    KeepsFrame (HandleMove (· = h)) (httpCommit h batch).run := by
  unfold httpCommit
  extract_lets committing afterPending
  -- the request once its address is settled
  have request : ∀ uri, KeepsFrame (HandleMove (· = h)) (committing uri).run := by
    intro uri
    refine KeepsFrame.run_liftM_bind (post_frame h _ batch) fun r => ?_
    split
    · exact KeepsFrame.run_liftM_bind (setState_frame h _) fun _ => KeepsFrame.run_pure _
    · exact KeepsFrame.run_liftM_bind (vanished_frame h) fun _ => KeepsFrame.run_throw _
    · exact KeepsFrame.run_throw _
    · exact KeepsFrame.run_liftM_bind (setState_frame h _) fun _ => KeepsFrame.run_throw _
  refine KeepsFrame.run_liftM_bind KeepsFrame.read fun w₀ => ?_
  dsimp only
  split
  · exact KeepsFrame.run_throw_bind
  refine ticketed_frame h ?_
  refine KeepsFrame.run_liftM_bind KeepsFrame.read fun w => ?_
  dsimp only
  split
  · exact KeepsFrame.run_throw_bind
  refine KeepsFrame.run_ofExcept_bind fun _ _ => ?_
  split
  · exact KeepsFrame.run_pure_bind (request _)
  · split
    · exact KeepsFrame.run_liftM_bind (setState_frame h _) fun _ => KeepsFrame.run_pure _
    · exact KeepsFrame.run_pure_bind (request _)

theorem sessionCommit_frame (h : Nat) (batch : Batch) :
    KeepsFrame (HandleMove (· = h)) (sessionCommit h batch).run := by
  unfold sessionCommit
  extract_lets finishing lastBatch
  -- the commit proper, after the last batch ran
  have finish : ∀ results, KeepsFrame (HandleMove (· = h)) (finishing results).run := by
    intro results
    refine ticketed_frame h ?_
    refine KeepsFrame.run_liftM_bind KeepsFrame.read fun w => ?_
    dsimp only
    refine KeepsFrame.run_ofExcept_bind fun _ _ => ?_
    split
    · exact KeepsFrame.run_liftM_bind (finishSession_frame h _ _) fun _ => KeepsFrame.run_throw _
    · refine KeepsFrame.run_liftM_bind (finishSession_frame h _ _) fun r => ?_
      split
      · exact KeepsFrame.run_pure _
      · exact KeepsFrame.run_throw _
  refine KeepsFrame.run_liftM_bind KeepsFrame.read fun w₀ => ?_
  dsimp only
  split
  · exact KeepsFrame.run_throw_bind
  dsimp only [lastBatch]
  split
  · exact KeepsFrame.run_pure_bind (finish _)
  · refine KeepsFrame.run_liftM_bind (Step.beginPending_frame h) fun _ => ?_
    refine KeepsFrame.run_liftM_bind (Step.issue_frame h) fun n => ?_
    exact KeepsFrame.run_bind (sessionExecute_frame h n batch) fun _ => finish _

theorem commit_frame (h : Nat) : KeepsFrame (HandleMove (· = h)) (commit h).run := by
  unfold commit commitWith
  refine KeepsFrame.run_bind ?_ fun _ => KeepsFrame.run_pure _
  refine KeepsFrame.run_liftM_bind KeepsFrame.read fun w => ?_
  split
  · exact httpCommit_frame h _
  · exact sessionCommit_frame h _

theorem abandonLocally_frame (h : Nat) : KeepsFrame (HandleMove (· = h)) (abandonLocally h) := by
  refine KeepsFrame.modifyGet fun s => ?_
  dsimp only
  split
  · split
    · exact HandleMove.modifyHandle s rfl fun _ => ⟨rfl, rfl, rfl⟩
    · exact .refl s
  · exact .refl s

theorem keepAliveFrom_frame (h start period : Nat) :
    ∀ fuel k, KeepsFrame (HandleMove (· = h)) (keepAliveFrom h start period fuel k) := by
  intro fuel
  induction fuel with
  | zero => intro k; exact KeepsFrame.pure _
  | succ fuel ih =>
    intro k
    unfold keepAliveFrom
    refine KeepsFrame.bind (KeepsFrame.await _) fun _ => ?_
    refine KeepsFrame.bind KeepsFrame.read fun w => ?_
    dsimp only
    split
    · exact KeepsFrame.pure _
    split
    · exact ih _
    refine KeepsFrame.bind (keepAlive_frame h) fun r => ?_
    split
    · split
      · exact KeepsFrame.pure _
      · exact ih _
    · exact ih _

theorem keepAliveTask_frame (h period : Nat) : KeepsFrame (HandleMove (· = h)) (keepAliveTask h period) := by
  unfold keepAliveTask
  refine KeepsFrame.bind KeepsFrame.read fun w => ?_
  exact KeepsFrame.bind (KeepsFrame.await _) fun _ => keepAliveFrom_frame h _ period _ _

theorem addHandle_frame (database : String) (link : Link) :
    KeepsFrame (HandleMove H) (addHandle database link) :=
  KeepsFrame.modifyGet fun s => .add s _

theorem newHandle_frame (m : Nat) (version : ServerVersion) (database : String) :
    KeepsFrame (HandleMove fun _ => True) (newHandle m version database).run := by
  unfold newHandle
  refine KeepsFrame.run_liftM_bind KeepsFrame.read fun w => ?_
  dsimp only
  split
  · refine KeepsFrame.run_liftM_bind (addHandle_frame _ _) fun h => ?_
    split
    · -- the keep-alive task works on the new handle
      rename_i period _
      have hkeep := (keepAliveTask_frame h period).mono fun _ _ hm => hm.mono fun _ _ => trivial
      exact KeepsFrame.run_liftM_bind (KeepsFrame.spawn (KeepsFrame.toFiber hkeep)) fun _ =>
        KeepsFrame.run_pure _
    · exact KeepsFrame.run_pure _
  · refine KeepsFrame.run_liftM_bind
      (KeepsFrame.modifyGet fun s => (HandleMove.note s _).trans (HandleMove.modifyPeer _ _ _))
      fun fault => ?_
    split
    · exact KeepsFrame.run_throw _
    · exact KeepsFrame.run_liftM (addHandle_frame _ _)

end TxnCoord.Transaction
