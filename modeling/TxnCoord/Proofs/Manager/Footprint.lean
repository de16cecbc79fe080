import TxnCoord.Proofs.Transaction.Footprint
import TxnCoord.Manager.Begin
/-!
# What joining a unit of work touches

The code that finds or makes the handle of a joining scope reaches far: it prunes
enlistments whose unit was let go (rolling their handles back), saves and removes recovery
descriptors, enlists in a unit of work (promoting the parties already there) and makes new
handles. All of it makes moves of the coordinator's code (`KeepsFrame World.Move`), so none
of it touches a scope record or a stack: the only code that does is the beginning and the
ending of a scope itself.

Most of it does less (`World.Aside`): the stores, pruning, the adapters' own calls and the
promotion of a unit's parties take no lock, register nothing and enlist nothing, and only
forget enlistments. The code that does more is the enlistment itself: taking the locks,
adding a party to a unit and registering the new adapter.
-/

namespace TxnCoord

open World (HandleMove Move)

/-- A handle's own code makes moves of the coordinator's code. -/
theorem KeepsFrame.moves {α : Type} {H : Nat → Prop} {x : Step α} (h : KeepsFrame (HandleMove H) x) :
    KeepsFrame Move x :=
  h.mono fun _ _ => Move.ofHandle

namespace World

/-- The changes of the coordinator's code that take no lock and enlist nothing: those of
handles, on any handle; the stores; forgetting some of a manager's enlistments; a new adapter,
and the promotion of one; a change of a local unit of work that keeps its identity, its lock
and its participants. -/
inductive Aside : World → World → Prop
  | handles {s s' : World} : HandleMove (fun _ => True) s s' → Aside s s'
  | trans {a b c : World} : Aside a b → Aside b c → Aside a c
  | ledger (s : World) (l : Recovery.Ledger) : Aside s { s with ledger := l }
  | sharedLedger (s : World) (l : Recovery.Ledger) : Aside s { s with sharedLedger := l }
  | forget (s : World) (i : Nat) (keep : Uuid × Nat → Bool) :
      Aside s (s.modifyManager i fun mg => { mg with enlistments := mg.enlistments.filter keep })
  | addAdapter (s : World) (ad : Adapter) : Aside s { s with adapters := s.adapters.push ad }
  | promote (s : World) (a : Nat) :
      Aside s (s.modifyAdapter a fun ad => { ad with promoted := true })
  | unit (s : World) (i : Nat) (f : LocalUnit → LocalUnit) :
      (∀ x, (f x).id = x.id ∧ (f x).lock = x.lock ∧
        (f x).parties.map (·.1) = x.parties.map (·.1)) → Aside s (s.modifyUnit i f)

namespace Aside

theorem refl (s : World) : Aside s s := .handles (.refl s)

/-- What takes no lock and enlists nothing is a move of the coordinator's code. -/
theorem move {s s' : World} (h : Aside s s') : Move s s' := by
  induction h with
  | handles h => exact .handles h
  | trans _ _ ih₁ ih₂ => exact ih₁.trans ih₂
  | ledger s l => exact .ledger s l
  | sharedLedger s l => exact .sharedLedger s l
  | forget s i keep => exact .manager s i _ (by intro; rfl)
  | addAdapter s ad => exact .addAdapter s ad
  | promote s a => exact .promote s a
  | unit s i f _ => exact Move.modifyUnit s i f

/-- Writing a store takes no lock and enlists nothing. -/
theorem setLedger (s : World) (m : Nat) (l : Recovery.Ledger) :
    Aside s (Ambient.setLedger s m l) := by
  unfold Ambient.setLedger
  split
  · exact .sharedLedger _ _
  · exact .ledger _ _

/-- Marking a party of a unit as no longer single-phase keeps who the parties are. -/
theorem demote (s : World) (u i : Nat) :
    Aside s (s.modifyUnit u fun x => { x with parties := x.parties.modify i fun q => (q.1, false) }) := by
  refine .unit s u _ fun x => ⟨rfl, rfl, ?_⟩
  apply List.ext_getElem?
  intro j
  simp only [List.getElem?_map, List.getElem?_modify]
  split <;> cases x.parties[j]? <;> rfl

end Aside

end World

/-- A handle's own code takes no lock and enlists nothing. -/
theorem KeepsFrame.aside {α : Type} {H : Nat → Prop} {x : Step α} (h : KeepsFrame (HandleMove H) x) :
    KeepsFrame World.Aside x :=
  h.mono fun _ _ hm => .handles (hm.mono fun _ _ => trivial)

/-- Code that takes no lock and enlists nothing makes moves of the coordinator's code. -/
theorem KeepsFrame.move_of_aside {α : Type} {x : Step α} (h : KeepsFrame World.Aside x) :
    KeepsFrame Move x :=
  h.mono fun _ _ => World.Aside.move

namespace Ambient

open Transaction World

theorem storeSave_aside (m : Nat) (d : Recovery.Descriptor) :
    KeepsFrame Aside (storeSave m d).run := by
  unfold storeSave
  refine KeepsFrame.run_liftM_bind KeepsFrame.read fun w => ?_
  extract_lets jp
  have hjp : ∀ u, KeepsFrame Aside (jp u).run := fun u =>
    KeepsFrame.run_liftM (KeepsFrame.change fun s => Aside.setLedger s _ _)
  split
  · exact KeepsFrame.run_throw_bind
  · exact hjp ()

theorem storeLoad_aside (m : Nat) (rm uow : Uuid) :
    KeepsFrame Aside (storeLoad m rm uow).run := by
  unfold storeLoad
  refine KeepsFrame.run_liftM_bind KeepsFrame.read fun w => ?_
  split
  · exact KeepsFrame.run_throw_bind
  · exact KeepsFrame.run_pure _

theorem storeRemove_aside (m : Nat) (rm uow : Uuid) :
    KeepsFrame Aside (storeRemove m rm uow).run := by
  unfold storeRemove
  refine KeepsFrame.run_liftM_bind KeepsFrame.read fun w => ?_
  extract_lets jp
  have hjp : ∀ u, KeepsFrame Aside (jp u).run := fun u =>
    KeepsFrame.run_liftM_bind (KeepsFrame.change fun s => Aside.setLedger s _ _) fun _ =>
      KeepsFrame.run_pure _
  split
  · exact KeepsFrame.run_throw_bind
  · exact hjp ()

theorem complete_aside (a : Nat) (keep : Bool) : KeepsFrame Aside (complete a keep) := by
  unfold complete
  refine KeepsFrame.bind KeepsFrame.read fun w => ?_
  refine KeepsFrame.bind (KeepsFrame.change fun s => .forget s _ _) fun _ => ?_
  split
  · exact KeepsFrame.bind (storeRemove_aside _ _ _) fun _ => KeepsFrame.pure _
  · exact KeepsFrame.pure _

theorem endHandle_aside (a : Nat) : KeepsFrame Aside (endHandle a).run := by
  unfold endHandle
  refine KeepsFrame.run_liftM_bind KeepsFrame.read fun w => ?_
  dsimp only
  split
  · exact (rollback_frame _).aside
  · exact KeepsFrame.run_pure _

theorem abandon_aside (a : Nat) : KeepsFrame Aside (abandon a) := by
  unfold abandon
  refine KeepsFrame.bind (endHandle_aside a) fun r => ?_
  split <;> exact complete_aside a _

theorem refreshDescriptor_aside (a : Nat) : KeepsFrame Aside (refreshDescriptor a).run := by
  unfold refreshDescriptor
  refine KeepsFrame.run_liftM_bind KeepsFrame.read fun w => ?_
  refine KeepsFrame.run_bind (storeLoad_aside _ _ _) fun d => ?_
  split
  · exact KeepsFrame.run_throw _
  · exact KeepsFrame.run_liftM_bind KeepsFrame.read fun _ => storeSave_aside _ _

theorem promote_aside (a : Nat) : KeepsFrame Aside (promote a).run := by
  unfold promote
  refine KeepsFrame.run_liftM_bind KeepsFrame.read fun w => ?_
  dsimp only
  split
  · exact KeepsFrame.run_pure _
  split
  · refine KeepsFrame.run_attempt_bind (refreshDescriptor_aside a) fun r => ?_
    split
    · exact KeepsFrame.run_liftM (KeepsFrame.change fun s => .promote s _)
    · exact KeepsFrame.run_attempt_bind (endHandle_aside a) fun _ => KeepsFrame.run_throw _
  · exact KeepsFrame.run_pure_bind
      (KeepsFrame.run_attempt_bind (endHandle_aside a) fun _ => KeepsFrame.run_throw _)

theorem recorderCall_aside (r : Nat) (call : String) :
    KeepsFrame Aside (recorderCall r call).run := by
  unfold recorderCall
  refine KeepsFrame.run_liftM_bind KeepsFrame.read fun w => ?_
  refine KeepsFrame.run_liftM_bind (KeepsFrame.change fun s => .handles (HandleMove.note s _)) fun _ => ?_
  split
  · exact KeepsFrame.run_throw _
  · exact KeepsFrame.run_pure _

theorem partyPromote_aside (p : Party) : KeepsFrame Aside (partyPromote p).run := by
  cases p with
  | adapter a => exact promote_aside a
  | recorder r => exact recorderCall_aside r _

/-- Promoting the parties of a unit dooms it or marks parties two-phase, and keeps who they
are. -/
theorem promoteAll_aside (u : Nat) (places : List Nat) :
    KeepsFrame Aside (promoteAll u places).run := by
  induction places with
  | nil => exact KeepsFrame.run_pure _
  | cons i rest ih =>
    unfold promoteAll
    refine KeepsFrame.run_liftM_bind KeepsFrame.read fun w => ?_
    split
    · refine KeepsFrame.run_attempt_bind (partyPromote_aside _) fun r => ?_
      split
      · exact KeepsFrame.run_liftM_bind
          (KeepsFrame.change fun s => .unit s _ _ fun _ => ⟨rfl, rfl, rfl⟩) fun _ =>
            KeepsFrame.run_throw _
      · exact KeepsFrame.run_liftM_bind (KeepsFrame.change fun s => Aside.demote s _ _) fun _ => ih
    · exact ih

theorem storeSave_frame (m : Nat) (d : Recovery.Descriptor) :
    KeepsFrame Move (storeSave m d).run :=
  (storeSave_aside m d).move_of_aside

theorem storeRemove_frame (m : Nat) (rm uow : Uuid) :
    KeepsFrame Move (storeRemove m rm uow).run :=
  (storeRemove_aside m rm uow).move_of_aside

theorem promoteAll_frame (u : Nat) (places : List Nat) :
    KeepsFrame Move (promoteAll u places).run :=
  (promoteAll_aside u places).move_of_aside

theorem enlistLocal_frame (u : Nat) (p : Party) (singlePhase : Bool) :
    KeepsFrame Move (enlistLocal u p singlePhase).run := by
  unfold enlistLocal
  refine KeepsFrame.run_liftM_bind KeepsFrame.read fun w => ?_
  extract_lets x jp
  -- under the unit's lock: add the party, then promote the others if it is not alone
  have hjp : ∀ v, KeepsFrame Move (jp v).run := by
    intro v
    refine KeepsFrame.run_liftM_bind (Step.acquire_frame _) fun _ => ?_
    refine KeepsFrame.run_andThen ?_ (Step.unlock_frame _)
    refine KeepsFrame.run_liftM_bind KeepsFrame.read fun w' => ?_
    dsimp only
    split
    · exact KeepsFrame.run_pure _
    refine KeepsFrame.run_liftM_bind (KeepsFrame.change fun s => Move.modifyUnit s _ _) fun _ => ?_
    split
    · exact KeepsFrame.run_liftM_bind KeepsFrame.read fun _ => promoteAll_frame _ _
    · exact KeepsFrame.run_pure _
  split
  · exact KeepsFrame.run_throw_bind
  · exact hjp ()

theorem enlistManual_frame (i a : Nat) (singlePhase : Bool) :
    KeepsFrame Move (enlistManual i a singlePhase).run := by
  unfold enlistManual
  refine KeepsFrame.run_liftM_bind (KeepsFrame.change fun s => .handles (HandleMove.note s _)) fun _ => ?_
  refine KeepsFrame.run_liftM_bind KeepsFrame.read fun w => ?_
  split
  · exact KeepsFrame.run_liftM_bind (KeepsFrame.change fun s => Move.modifyManualUnit s _ _) fun _ =>
      KeepsFrame.run_throw _
  · exact KeepsFrame.run_liftM (KeepsFrame.change fun s => Move.modifyManualUnit s _ _)

theorem enlistIn_frame (u : UnitRef) (a : Nat) (singlePhase : Bool) :
    KeepsFrame Move (enlistIn u a singlePhase).run := by
  cases u with
  | «local» i => exact enlistLocal_frame i _ singlePhase
  | manual i => exact enlistManual_frame i a singlePhase

end Ambient

namespace Manager

open Transaction Ambient

theorem prune_aside (m : Nat) : KeepsFrame World.Aside (prune m) := by
  unfold prune
  refine KeepsFrame.bind KeepsFrame.read fun w => ?_
  refine KeepsFrame.bind (KeepsFrame.change fun s => .forget s _ _) fun _ => ?_
  exact KeepsFrame.bind (KeepsFrame.forEach fun e _ => abandon_aside e.2) fun _ =>
    KeepsFrame.pure _

theorem dropUnused_aside (h : Nat) : KeepsFrame World.Aside (dropUnused h) := by
  unfold dropUnused
  refine KeepsFrame.bind KeepsFrame.read fun w => ?_
  dsimp only
  split
  · refine KeepsFrame.bind (KeepsFrame.spawn (KeepsFrame.toFiber ?_)) fun _ => KeepsFrame.pure _
    exact KeepsFrame.bind (sessionRollback_frame h).aside fun _ => KeepsFrame.pure _
  · exact KeepsFrame.pure _

theorem prune_frame (m : Nat) : KeepsFrame Move (prune m) := (prune_aside m).move_of_aside

theorem dropUnused_frame (h : Nat) : KeepsFrame Move (dropUnused h) :=
  (dropUnused_aside h).move_of_aside

theorem enlistNew_frame (m : Nat) (u : UnitRef) (unitId : Uuid) (version : ServerVersion)
    (database : String) : KeepsFrame Move (enlistNew m u unitId version database).run := by
  unfold enlistNew
  refine KeepsFrame.run_bind (newHandle_frame m version database).moves fun h => ?_
  refine KeepsFrame.run_liftM_bind KeepsFrame.read fun w => ?_
  refine KeepsFrame.run_attempt_bind (storeSave_frame m _) fun r => ?_
  split
  · refine KeepsFrame.run_liftM_bind (abandonLocally_frame h).moves fun _ => ?_
    exact KeepsFrame.run_liftM_bind (dropUnused_frame h) fun _ => KeepsFrame.run_throw _
  refine KeepsFrame.run_liftM_bind (KeepsFrame.modifyGet fun s => .addAdapter s _) fun a => ?_
  refine KeepsFrame.run_attempt_bind (enlistIn_frame u a true) fun r => ?_
  split
  · -- a failed enlistment: roll the handle back, forget the descriptor, then fail
    extract_lets jp
    have hjp : ∀ v, KeepsFrame Move (jp v).run := by
      intro v
      refine KeepsFrame.run_attempt_bind (storeRemove_frame _ _ _) fun _ => ?_
      refine KeepsFrame.run_liftM_bind (dropUnused_frame h) fun _ => ?_
      split
      · exact KeepsFrame.run_throw _
      · exact KeepsFrame.run_throw _
    refine KeepsFrame.run_liftM_bind (abandonLocally_frame h).moves fun _ => ?_
    refine KeepsFrame.run_liftM_bind KeepsFrame.read fun _ => ?_
    split
    · exact KeepsFrame.run_attempt_bind (rollback_frame h).moves fun _ => hjp ()
    · exact hjp ()
  · exact KeepsFrame.run_liftM_bind (KeepsFrame.change fun s => .manager s _ _ (by intro; rfl)) fun _ =>
      KeepsFrame.run_pure _

/-- Finding the stack of the running code may make a new, empty one, which changes no
stack that a number names. -/
theorem contextOf_frame (m : Nat) : KeepsFrame Move (contextOf m) := by
  unfold contextOf
  refine KeepsFrame.bind KeepsFrame.read fun w => ?_
  split
  · exact KeepsFrame.pure _
  · split
    · exact KeepsFrame.pure _
    · split
      · exact KeepsFrame.pure _
      · exact KeepsFrame.modifyGet fun s =>
          (Move.context s).trans (.manager _ _ _ (by intro; rfl))

theorem enlistedHandle_frame (m : Nat) (u : UnitRef) (version : ServerVersion)
    (database : String) (requested : Option String) :
    KeepsFrame Move (enlistedHandle m u version database requested).run := by
  unfold enlistedHandle
  refine KeepsFrame.run_liftM_bind KeepsFrame.read fun w => ?_
  dsimp only
  refine KeepsFrame.run_liftM_bind (Step.acquire_frame _) fun _ => ?_
  refine KeepsFrame.run_andThen ?_ (Step.unlock_frame _)
  refine KeepsFrame.run_liftM_bind (prune_frame m) fun _ => ?_
  refine KeepsFrame.run_liftM_bind KeepsFrame.read fun w' => ?_
  split
  · split
    · exact KeepsFrame.run_throw_bind
    · exact KeepsFrame.run_ofExcept_bind fun _ _ => KeepsFrame.run_pure _
  · exact enlistNew_frame m u _ version database

theorem joinHandle_frame (m : Nat) (version : ServerVersion) (database : String)
    (requested : Option String) (parent top : Option Nat) :
    KeepsFrame Move (joinHandle m version database requested parent top).run := by
  unfold joinHandle
  refine KeepsFrame.run_liftM_bind KeepsFrame.read fun w => ?_
  dsimp only
  split
  · exact KeepsFrame.run_ofExcept_bind fun _ _ => KeepsFrame.run_pure _
  · split
    · refine KeepsFrame.run_liftM_bind (Step.holdUnit_frame _) fun _ => ?_
      exact KeepsFrame.run_bind (KeepsFrame.run_andThen
        (enlistedHandle_frame m _ version database requested) (Step.letGoUnit_frame _)) fun _ =>
        KeepsFrame.run_pure _
    · exact KeepsFrame.run_bind (newHandle_frame m version database).moves fun _ =>
        KeepsFrame.run_pure _

end Manager

end TxnCoord
