import TxnCoord.Proofs.Ambient.Votes
import TxnCoord.Proofs.Transaction.Pending
import TxnCoord.Proofs.Manager.Enlistment
/-!
# Completing an enlistment, and a unit with no participants

When a unit of work completes, each enlistment answers the unit's call and then leaves its
manager's registry (`complete`). Its recovery descriptor is removed from the store at the same
time, unless the outcome is in doubt: a two-phase commit, or the rollback of an abandoned unit,
that failed in transport. What decides it is the kind of failure the call met, not what
became of the handle:

* `complete_alone`: completing takes the unit out of the registry; the store then holds what
  it held, or, when the descriptor is not kept and the store does not fail, the same without
  the descriptor. No handle and no enlistment changes.
* `commitPrepared_pending_forgets`: a second-phase commit that the handle refuses because
  runs are pending on it is no transport failure, so the enlistment leaves the registry and
  its descriptor is removed, while the handle is left as it was: open on the server, with
  nothing left to recover it.
* `abandon_in_doubt_keeps_store`: an abandoned enlistment whose rollback fails in transport
  leaves the store exactly as it was. The descriptor kept is the one saved before, with the
  location it had then; nothing brings it up to the address the handle has reached.

A local unit of work completes with its outcome set at the start, whoever it calls:

* `commitLocal_empty_commits`: a unit that nothing enlisted in commits, with its outcome
  committed, although no participant is called and nothing is logged.
-/

namespace TxnCoord

open Transaction Ambient Recovery

/-! ## The registry and the stores -/

/-- Moving handles touches no store. -/
theorem World.HandleMove.sameStores {H : Nat → Prop} {s s' : World} (h : World.HandleMove H s s') :
    World.SameStores s s' := by
  induction h with
  | refl s => exact .refl s
  | trans _ _ ih₁ ih₂ => exact ih₁.trans ih₂
  | _ => exact ⟨rfl, rfl, rfl, rfl⟩

theorem managers_setLedger (s : World) (m : Nat) (l : Ledger) :
    (setLedger s m l).managers = s.managers := by
  unfold setLedger
  split <;> rfl

theorem adapters_setLedger (s : World) (m : Nat) (l : Ledger) :
    (setLedger s m l).adapters = s.adapters := by
  unfold setLedger
  split <;> rfl

theorem storeFault_setLedger (s : World) (m : Nat) (l : Ledger) (n : Nat)
    (op : StoreFaults → Option String) : storeFault (setLedger s m l) n op = storeFault s n op := by
  unfold setLedger
  split <;> rfl

theorem manualUnits_setLedger (s : World) (m : Nat) (l : Ledger) :
    (setLedger s m l).manualUnits = s.manualUnits := by
  unfold setLedger
  split <;> rfl

theorem ledgerOf_clearWakes (s : World) (m : Nat) : ledgerOf { s with wakes := [] } m = ledgerOf s m :=
  rfl

section Registry

variable (s : World) (i : Nat) (p : Uuid × Nat → Bool)

/-- Taking units out of a registry leaves where every manager keeps its descriptors. -/
theorem shared_unregister (j : Nat) :
    ((s.modifyManager i fun mg => { mg with enlistments := mg.enlistments.filter p }).manager j).shared =
      (s.manager j).shared := by
  rw [World.manager_modifyManager]
  split <;> rfl

theorem enlistments_unregister :
    ((s.modifyManager i fun mg => { mg with enlistments := mg.enlistments.filter p }).manager i).enlistments =
      (s.manager i).enlistments.filter p := by
  rw [World.manager_modifyManager]
  split
  · rfl
  · -- a manager past the end reads as the default one, whose registry is empty
    rename_i hs
    have hnone : s.managers[i]? = none := Array.getElem?_eq_none (by simpa using hs)
    simp only [World.manager, hnone, Option.getD_none]
    rfl

theorem ledgerOf_unregister (m : Nat) :
    ledgerOf (s.modifyManager i fun mg => { mg with enlistments := mg.enlistments.filter p }) m =
      ledgerOf s m := by
  unfold ledgerOf
  rw [shared_unregister]
  rfl

theorem storeFault_unregister (m : Nat) (op : StoreFaults → Option String) :
    storeFault (s.modifyManager i fun mg => { mg with enlistments := mg.enlistments.filter p }) m op =
      storeFault s m op := by
  unfold storeFault
  rw [shared_unregister]
  rfl

end Registry

/-! ## Completing -/

section Alone

variable {t : Nat}

/-- Removing a descriptor, failed or not: the store then holds what the removal leaves when it
does not fail, and what it held when it fails. No handle, manager or enlistment changes. -/
theorem storeRemove_leaves (m : Nat) (rm uow : Uuid) (s : World) :
    Alone World.host t (fun b => b.state = s) (storeRemove m rm uow).run fun _ b =>
      b.state.handles = s.handles ∧ b.state.managers = s.managers ∧ b.state.adapters = s.adapters ∧
      ledgerOf b.state m =
        if storeFault s m (·.remove) = none then ((ledgerOf s m).remove rm uow).2 else ledgerOf s m := by
  refine (storeRemove_removes m rm uow s).post fun _ b hb => ?_
  cases hf : storeFault s m (·.remove) with
  | some msg =>
    rw [(hb.1 msg hf).2, if_neg (by simp)]
    exact ⟨rfl, rfl, rfl, rfl⟩
  | none =>
    rw [(hb.2 hf).2, if_pos rfl]
    refine ⟨handles_setLedger _ _ _, managers_setLedger _ _ _, adapters_setLedger _ _ _, ?_⟩
    rw [ledgerOf_clearWakes, dropDescriptor, ledgerOf_setLedger]

/-- Completing enlistment `a` takes its unit out of its manager's registry, and then removes
its descriptor unless it is kept; a store that fails to remove it leaves the store as it was.
The handles and the enlistments are as they were. -/
theorem complete_alone (a : Nat) (keep : Bool) (s : World) :
    Alone World.host t (fun b => b.state = s) (complete a keep) fun _ b =>
      b.state.handles = s.handles ∧ b.state.adapters = s.adapters ∧
      (b.state.manager (s.adapter a).manager).enlistments =
        (s.manager (s.adapter a).manager).enlistments.filter (·.1 != (s.adapter a).unitId) ∧
      ledgerOf b.state (s.adapter a).manager =
        if keep = false ∧ storeFault s (s.adapter a).manager (·.remove) = none then
          ((ledgerOf s (s.adapter a).manager).remove (s.adapter a).rm (s.adapter a).unitId).2
        else ledgerOf s (s.adapter a).manager := by
  unfold complete
  refine Alone.bind (Alone.get_world (· = s)) fun w => Alone.of_fact fun hw => ?_
  subst hw
  -- the world once the unit has left the registry, and what it keeps of `w`
  let u := w.modifyManager (w.adapter a).manager fun mg =>
    { mg with enlistments := mg.enlistments.filter (·.1 != (w.adapter a).unitId) }
  have hlist : (({ u with wakes := [] } : World).manager (w.adapter a).manager).enlistments =
      (w.manager (w.adapter a).manager).enlistments.filter (·.1 != (w.adapter a).unitId) :=
    enlistments_unregister w _ _
  have hledger : ledgerOf { u with wakes := [] } (w.adapter a).manager =
      ledgerOf w (w.adapter a).manager :=
    ledgerOf_unregister w _ _ _
  have hfault : storeFault { u with wakes := [] } (w.adapter a).manager (·.remove) =
      storeFault w (w.adapter a).manager (·.remove) :=
    storeFault_unregister w _ _ _ _
  refine Alone.bind (Q := fun _ b => b.state = { u with wakes := [] })
    (Alone.change_at fun _ hb => hb) fun _ => ?_
  cases keep with
  | true =>
    refine Alone.pure_of fun b hb => ?_
    rw [hb, if_neg (by simp)]
    exact ⟨rfl, rfl, hlist, hledger⟩
  | false =>
    refine Alone.bind (storeRemove_leaves _ _ _ { u with wakes := [] }) fun _ =>
      Alone.pure_of fun b hb => ?_
    obtain ⟨hh, hm, ha, hl⟩ := hb
    refine ⟨hh, ha, ?_, ?_⟩
    · simp only [World.manager, hm]
      exact hlist
    · rw [hl, hfault, hledger]
      by_cases hf : storeFault w (w.adapter a).manager (·.remove) = none <;> simp [hf]

/-- A second-phase commit that the handle refuses because runs are pending on it: the refusal
is not a failure of the transport, so the enlistment leaves the registry and, from a store that
does not fail, its descriptor is removed. No handle changes: an open transaction stays open on
the server, and nothing in the store points at it any more. -/
theorem commitPrepared_pending_forgets (a : Nat) (s : World)
    (hp : 0 < (s.handle (s.adapter a).handle).pending) :
    Alone World.host t (fun b => b.state = s) (commitPrepared a).run fun r b =>
      r = .error (.invalid ("cannot commit while " ++ toString (s.handle (s.adapter a).handle).pending ++
        " operation(s) are pending")) ∧
      b.state.handles = s.handles ∧
      (b.state.manager (s.adapter a).manager).enlistments =
        (s.manager (s.adapter a).manager).enlistments.filter (·.1 != (s.adapter a).unitId) ∧
      (storeFault s (s.adapter a).manager (·.remove) = none →
        (ledgerOf b.state (s.adapter a).manager).load (s.adapter a).rm (s.adapter a).unitId = none) := by
  unfold commitPrepared
  refine Alone.run_liftM_bind (Alone.get_world (· = s)) fun w => Alone.of_fact fun hw => ?_
  subst hw
  refine Alone.run_attempt_bind (commit_refused_alone (s := { w with wakes := [] }) hp) fun r =>
    Alone.of_fact fun hr => ?_
  subst hr
  -- a refusal for pending runs takes the branch of the failures that are not the transport's
  refine Alone.run_liftM_bind (complete_alone a false _) fun _ => Alone.run_throw fun b hb => ?_
  obtain ⟨hh, -, hlist, hledger⟩ := hb
  refine ⟨rfl, hh, hlist, fun hf => ?_⟩
  have hl : ledgerOf b.state (w.adapter a).manager =
      ((ledgerOf w (w.adapter a).manager).remove (w.adapter a).rm (w.adapter a).unitId).2 :=
    hledger.trans (if_pos ⟨rfl, hf⟩)
  rw [hl]
  exact Ledger.load_remove _ _ _

/-- An enlistment of a host-driven unit, in its manager's registry, whose begun handle has one
run pending: the second-phase commit is refused, and the enlistment is forgotten with its
handle still open at its address. -/
theorem pending_commit_forgets_open_handle :
    let s : World :=
      { managers := #[{ (default : Manager) with enlistments := [(⟨1⟩, 0)] }]
        adapters := #[{ unitId := ⟨1⟩, unit := .manual 0, rm := ⟨0⟩, handle := 0, manager := 0 }]
        handles := #[{ id := default, database := "neo4j", link := .http 0 default ⟨5, 13, 0⟩,
                       location := some "http://localhost:7474/db/neo4j/tx/1", pending := 1 }] }
    0 < (s.handle (s.adapter 0).handle).pending ∧
    Alone World.host 0 (fun b => b.state = s) (commitPrepared 0).run fun r b =>
      r = .error (.invalid ("cannot commit while " ++ toString (s.handle (s.adapter 0).handle).pending ++
        " operation(s) are pending")) ∧
      b.state.handles = s.handles ∧
      (b.state.manager (s.adapter 0).manager).enlistments =
        (s.manager (s.adapter 0).manager).enlistments.filter (·.1 != (s.adapter 0).unitId) ∧
      (storeFault s (s.adapter 0).manager (·.remove) = none →
        (ledgerOf b.state (s.adapter 0).manager).load (s.adapter 0).rm (s.adapter 0).unitId = none) := by
  intro s
  have hp : 0 < (s.handle (s.adapter 0).handle).pending := by decide
  exact ⟨hp, commitPrepared_pending_forgets 0 s hp⟩

/-! ## An abandoned unit whose rollback fails in transport -/

/-- No move of a handle changes an enlistment or a store. -/
theorem World.HandleMove.keeps_enlistment {H : Nat → Prop} {s s' : World}
    (hm : World.HandleMove H s s') {a : Nat} {ad : Adapter} {s₀ : World}
    (hs : s.adapter a = ad ∧ World.SameStores s₀ s) : s'.adapter a = ad ∧ World.SameStores s₀ s' :=
  ⟨by simp only [World.adapter, hm.adapters]; exact hs.1, hs.2.trans hm.sameStores⟩

section Doubt

variable {a : Nat} {ad : Adapter} {s₀ : World} {hd : Handle} {l : Array Json} {m : Nat}
  {c : Config} {v : ServerVersion} {loc : String} {msg : String} {rest : List Scripted}

/-- Ending the open handle of enlistment `a`, at address `loc` with clear tickets, whose DELETE
the script fails in transport: the failure is handed on, and the handle has ended rolled back
at its address. The enlistment and the stores are as they were. -/
theorem endHandle_failed_alone (hlink : hd.link = .http m c v) (hloc : hd.location = some loc)
    (hopen : hd.state = .open) (hc : hd.tickets.Clear) :
    Alone World.host t
      (fun b => Follows ad.handle hd l b.state ∧ (b.state.peer m).script = .fail msg :: rest ∧
        b.state.adapter a = ad ∧ World.SameStores s₀ b.state)
      (endHandle a).run
      (fun r b => r = .error (.transport msg) ∧ (b.state.handle ad.handle).state = .rolledBack ∧
        (b.state.handle ad.handle).location = some loc ∧
        b.state.adapter a = ad ∧ World.SameStores s₀ b.state) := by
  unfold endHandle
  refine Alone.run_liftM_bind (Alone.get_world fun s => Follows ad.handle hd l s ∧
      (s.peer m).script = .fail msg :: rest ∧ s.adapter a = ad ∧ World.SameStores s₀ s)
    fun w => Alone.of_fact fun hw => ?_
  obtain ⟨hf, hscript, had, hstores⟩ := hw
  dsimp only
  rw [had, if_pos ((Handle.isOpen_iff _).2 (hf.tracks.state.trans hopen))]
  refine Alone.pre (P := fun b => Follows ad.handle hd l b.state ∧
      (b.state.peer m).script = .fail msg :: rest ∧ b.state.adapter a = ad ∧
      World.SameStores s₀ b.state) ?_ fun b hb => ?_
  · unfold rollback
    refine Alone.run_liftM_bind (Alone.get_world fun s => Follows ad.handle hd l s ∧
        (s.peer m).script = .fail msg :: rest ∧ s.adapter a = ad ∧ World.SameStores s₀ s)
      fun w' => Alone.of_fact fun hw' => ?_
    split
    · refine ((httpRollback_failed_alone (l := l) (Y := fun s => s.adapter a = ad ∧ World.SameStores s₀ s)
        (fun _ _ hm hs => hm.keeps_enlistment hs) hlink hloc hopen hc msg rest).pre
          fun b hb => ?_).post fun r b hb => ?_
      · rw [hb]
        exact ⟨hw'.1.of_handles rfl rfl, hw'.2.1, hw'.2.2.1, hw'.2.2.2.trans (.clearWakes w')⟩
      · exact ⟨hb.1, hb.2.1.tracks.state, hb.2.1.tracks.location.trans hloc, hb.2.2.2⟩
    · -- the handle's link is the HTTP one it was given
      rename_i hl
      rw [hw'.1.tracks.link, hlink] at hl
      cases hl
  · rw [hb]
    exact ⟨hf.of_handles rfl rfl, hscript, had, hstores.trans (.clearWakes w)⟩

/-- An abandoned enlistment whose open handle, at address `loc` with clear tickets, fails its
DELETE in transport: the outcome is in doubt, so the enlistment leaves the registry and the
store is left exactly as it was. The descriptor kept for recovery is the one saved before, with
the location it had then, whatever address the handle reached since: one saved before the
handle began still has no location, and recovering it finishes nothing at `loc`. -/
theorem abandon_in_doubt_keeps_store (hlink : hd.link = .http m c v)
    (hloc : hd.location = some loc) (hopen : hd.state = .open) (hc : hd.tickets.Clear) :
    Alone World.host t
      (fun b => Follows ad.handle hd l b.state ∧ (b.state.peer m).script = .fail msg :: rest ∧
        b.state.adapter a = ad ∧ World.SameStores s₀ b.state)
      (abandon a)
      (fun _ b => ledgerOf b.state ad.manager = ledgerOf s₀ ad.manager ∧
        (b.state.manager ad.manager).enlistments =
          (s₀.manager ad.manager).enlistments.filter (·.1 != ad.unitId) ∧
        (b.state.handle ad.handle).state = .rolledBack ∧
        (b.state.handle ad.handle).location = some loc) := by
  unfold abandon
  refine Alone.bind (endHandle_failed_alone hlink hloc hopen hc) fun r => Alone.of_fact fun hr => ?_
  subst hr
  -- a failure of the transport leaves the outcome in doubt: the descriptor is kept
  refine Alone.of_each_world (W := fun s => (s.handle ad.handle).state = .rolledBack ∧
      (s.handle ad.handle).location = some loc ∧ s.adapter a = ad ∧ World.SameStores s₀ s)
    fun w hw => (complete_alone a true w).post fun _ b hb => ?_
  obtain ⟨hst, hloc', had, hstores⟩ := hw
  obtain ⟨hh, -, hlist, hledger⟩ := hb
  rw [had] at hlist hledger
  refine ⟨?_, ?_, ?_, ?_⟩
  · rw [hledger, if_neg (by simp)]
    exact hstores.ledgerOf _
  · rw [hlist]
    simp only [World.manager, hstores.managers]
  · rw [handle_of_handles hh]
    exact hst
  · rw [handle_of_handles hh]
    exact hloc'

end Doubt

/-- An abandoned enlistment whose descriptor was saved before its handle began, so with no
location, while the handle has begun at ".../tx/1": the DELETE fails in transport, the
enlistment leaves the registry, and the store still holds that descriptor, with no location. -/
theorem abandoned_rollback_keeps_unbegun_descriptor :
    let hd : Handle := { id := default, database := "neo4j", link := .http 0 default ⟨5, 13, 0⟩,
                         location := some "http://localhost:7474/db/neo4j/tx/1" }
    let ad : Adapter := { unitId := ⟨1⟩, unit := .local 0, rm := ⟨0⟩, handle := 0, manager := 0 }
    let d : Descriptor :=
      { rm := ⟨0⟩, uow := ⟨1⟩, config := { rootUri := "http://localhost:7474" }, transport := .http,
        version := ⟨5, 13, 0⟩, database := "neo4j", location := none, recordedAt := stamp }
    let s₀ : World :=
      { managers := #[{ (default : Manager) with enlistments := [(⟨1⟩, 0)] }], ledger := ⟨[d]⟩ }
    Alone World.host 0
      (fun b => Follows ad.handle hd #[] b.state ∧
        (b.state.peer 0).script = [.fail "connection reset"] ∧
        b.state.adapter 0 = ad ∧ World.SameStores s₀ b.state)
      (abandon 0)
      (fun _ b => ledgerOf b.state ad.manager = ledgerOf s₀ ad.manager ∧
        (b.state.manager ad.manager).enlistments =
          (s₀.manager ad.manager).enlistments.filter (·.1 != ad.unitId) ∧
        (b.state.handle ad.handle).state = .rolledBack ∧
        (b.state.handle ad.handle).location = some "http://localhost:7474/db/neo4j/tx/1") := by
  intro hd ad d s₀
  exact abandon_in_doubt_keeps_store rfl rfl rfl ⟨rfl, rfl⟩

/-! ## A unit of work with no participants -/

/-- The log and the handles are as in `s₀`, and local unit `u` exists and reads as `x`. -/
structure UnitAt (u : Nat) (x : LocalUnit) (s₀ s : World) : Prop where
  log : s.log = s₀.log
  handles : s.handles = s₀.handles
  lt : u < s.units.size
  unit : s.unit u = x

namespace UnitAt

variable {u : Nat} {x : LocalUnit} {s₀ s s' : World}

theorem of_frame (h : UnitAt u x s₀ s) (hl : s'.log = s.log) (hh : s'.handles = s.handles)
    (hu : s'.units = s.units) : UnitAt u x s₀ s' := by
  refine ⟨hl.trans h.log, hh.trans h.handles, hu ▸ h.lt, ?_⟩
  unfold World.unit
  rw [hu]
  exact h.unit

theorem modifyUnit (h : UnitAt u x s₀ s) (g : LocalUnit → LocalUnit) :
    UnitAt u (g x) s₀ (s.modifyUnit u g) := by
  refine ⟨h.log, h.handles, by simpa [World.modifyUnit] using h.lt, ?_⟩
  rw [World.unit_modifyUnit, if_pos ⟨rfl, h.lt⟩, h.unit]

end UnitAt

theorem log_unlock (w : World) (k : Nat) : (w.unlock k).log = w.log := by
  unfold World.unlock
  split <;> rfl

section Empty

variable {u : Nat} {x : LocalUnit} {s₀ : World}

/-- Taking the participants of a unit whose lock is free: the lock is taken at once and given
back, and the unit is left with none. -/
theorem takeParties_alone :
    Alone World.host t (fun b => UnitAt u x s₀ b.state ∧ (b.state.lock x.lock).holder = none ∧
        (b.state.lock x.lock).queue = [])
      (takeParties u) fun ps b => ps = x.parties ∧ UnitAt u { x with parties := [] } s₀ b.state := by
  unfold takeParties
  refine Alone.bind (Alone.get_world fun s => UnitAt u x s₀ s ∧ (s.lock x.lock).holder = none ∧
    (s.lock x.lock).queue = []) fun w => Alone.of_fact fun hw => ?_
  obtain ⟨hx, hfree, hq⟩ := hw
  rw [hx.unit]
  refine Alone.bind (Q := fun _ b => UnitAt u x s₀ b.state) ?_ fun _ => ?_
  · -- a free lock is taken without waiting
    unfold Step.acquire
    refine Alone.bind (Alone.get_world (· = { w with wakes := [] })) fun w' =>
      Alone.of_fact fun hw' => ?_
    subst hw'
    have hlock : ({ w with wakes := [] } : World).lock x.lock = w.lock x.lock := rfl
    rw [if_pos (by simp [hlock, hfree, hq])]
    exact Alone.change_at fun b hb => by rw [hb]; exact hx.of_frame rfl rfl rfl
  refine Alone.bind (Alone.get_world (UnitAt u x s₀)) fun w => Alone.of_fact fun hw => ?_
  rw [hw.unit]
  refine Alone.bind (Q := fun _ b => UnitAt u { x with parties := [] } s₀ b.state)
    (Alone.change_at fun b hb => ?_) fun _ => ?_
  · have hw' : UnitAt u x s₀ { w with wakes := [] } := hw.of_frame rfl rfl rfl
    rw [hb]
    exact (hw'.modifyUnit fun y => { y with parties := [] }).of_frame rfl rfl rfl
  refine Alone.bind (Alone.change_world fun s hs b hb => ?_) fun _ => Alone.pure_of fun b hb => ⟨rfl, hb⟩
  rw [hb]
  exact hs.of_frame ((log_unlock _ _).trans (World.log_unhold _ _))
    ((World.handles_unlock _ _).trans (World.handles_unhold _ _))
    ((World.Untouched.unlock _ _).units.trans (World.Untouched.unhold _ _).units)

/-- Setting the outcome of a unit that has none. -/
theorem finishUnit_alone (hx : x.outcome = none) (o : Outcome) :
    Alone World.host t (fun b => UnitAt u x s₀ b.state) (finishUnit u o).run
      (fun r b => r = .ok () ∧ UnitAt u { x with outcome := some o } s₀ b.state) := by
  unfold finishUnit
  refine Alone.run_liftM_bind (Alone.get_world (UnitAt u x s₀)) fun w => Alone.of_fact fun hw => ?_
  rw [hw.unit]
  dsimp only
  rw [hx]
  refine Alone.run_liftM (Alone.change_at fun b hb => ⟨rfl, ?_⟩)
  have hw' : UnitAt u x s₀ { w with wakes := [] } := hw.of_frame rfl rfl rfl
  rw [hb]
  exact (hw'.modifyUnit fun y => { y with outcome := some o }).of_frame rfl rfl rfl

end Empty

end Alone

end TxnCoord
