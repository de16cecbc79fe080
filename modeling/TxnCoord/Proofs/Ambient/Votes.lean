import TxnCoord.Proofs.Recovery.Pass
/-!
# An enlistment's votes

Before a unit of work commits in two phases, it promotes each enlistment and asks it to
prepare. Both calls rewrite the enlistment's recovery descriptor with the handle's current
location, and both roll the handle back when they cannot go on.

* `prepare_votes`: prepare votes prepared only when the handle is open, no run is pending
  on it and the descriptor has just been rewritten with the handle's location. When it votes
  aborted, the handle has ended. This holds however other tasks run while the rollback waits
  for its turn, under `adapterRules`: no transaction reopens, no handle goes away, others
  leave the enlistment alone, and between two steps the scheduler only keeps its books.
* `promote_fails_closed`: a promotion that finds the handle ended, or cannot rewrite the
  descriptor, rolls the handle back and fails as a coordination failure. No step it takes
  changes the enlistment, so the enlistment is not promoted.
* `promote_promotes`: a promotion that can rewrite the descriptor runs to its end without
  waiting. It leaves the handle open, the descriptor at the handle's location and the
  enlistment promoted. Promoting a promoted enlistment changes nothing.
-/

namespace TxnCoord

open Transaction Ambient Recovery

/-! ## What the scheduler leaves alone -/

/-- What an enlistment's calls read of a handle is as it was: its state, the runs pending
on it and its location. -/
structure Handle.SameVote (hd hd' : Handle) : Prop where
  state : hd'.state = hd.state
  pending : hd'.pending = hd.pending
  location : hd'.location = hd.location

theorem Handle.SameVote.refl (hd : Handle) : Handle.SameVote hd hd := ⟨rfl, rfl, rfl⟩

theorem Handle.SameVote.trans {a b c : Handle} (h₁ : Handle.SameVote a b)
    (h₂ : Handle.SameVote b c) : Handle.SameVote a c :=
  ⟨h₂.state.trans h₁.state, h₂.pending.trans h₁.pending, h₂.location.trans h₁.location⟩

theorem Handle.isOpen_iff (hd : Handle) : hd.isOpen = true ↔ hd.state = .open := by
  simp [Handle.isOpen]

/-- Only the scheduler's books changed: every enlistment, every store and what the
enlistments' calls read of each handle are as they were. -/
structure World.BooksOnly (s s' : World) : Prop where
  adapters : s'.adapters = s.adapters
  stores : World.SameStores s s'
  handle : ∀ i, Handle.SameVote (s.handle i) (s'.handle i)

namespace World.BooksOnly

theorem refl (s : World) : BooksOnly s s := ⟨rfl, .refl s, fun _ => .refl _⟩

theorem trans {a b c : World} (h₁ : BooksOnly a b) (h₂ : BooksOnly b c) : BooksOnly a c :=
  ⟨h₂.adapters.trans h₁.adapters, h₁.stores.trans h₂.stores,
    fun i => (h₁.handle i).trans (h₂.handle i)⟩

/-- A change that keeps every handle, enlistment and store. -/
theorem of_eq {s s' : World} (hh : s'.handles = s.handles) (ha : s'.adapters = s.adapters)
    (hs : World.SameStores s s') : BooksOnly s s' :=
  ⟨ha, hs, fun i => by simp only [World.handle, hh]; exact .refl _⟩

/-- A change of one handle that keeps what the calls read of it. -/
theorem modifyHandle (s : World) (i : Nat) {g : Handle → Handle}
    (hg : ∀ hd, Handle.SameVote hd (g hd)) : BooksOnly s (s.modifyHandle i g) :=
  ⟨rfl, ⟨rfl, rfl, rfl, rfl⟩,
    World.handle_rel_modifyHandle Handle.SameVote Handle.SameVote.refl s i g (hg _)⟩

theorem adapter {s s' : World} (h : BooksOnly s s') (a : Nat) : s'.adapter a = s.adapter a := by
  simp only [World.adapter, h.adapters]

end World.BooksOnly

/-- Giving a resource back leaves every enlistment alone. -/
theorem World.adapters_give (w : World) (x : Hold) : (w.give x).adapters = w.adapters := by
  cases x with
  | lock m =>
    show (w.unlock m).adapters = w.adapters
    unfold World.unlock
    split <;> rfl
  | unitRef u => cases u <;> rfl
  | pending h => rfl
  | ticket h n => rfl

theorem World.adapters_releaseOwner (w : World) (o : Nat) :
    (w.releaseOwner o).adapters = w.adapters :=
  World.rel_releaseOwner (fun w w' => w'.adapters = w.adapters) (fun _ _ => rfl)
    (fun _ _ _ h₁ h₂ => h₂.trans h₁) World.adapters_give w o

theorem adapter_setLedger (s : World) (m : Nat) (l : Ledger) (a : Nat) :
    (setLedger s m l).adapter a = s.adapter a := by
  unfold setLedger
  split <;> rfl

theorem handles_setLedger (s : World) (m : Nat) (l : Ledger) :
    (setLedger s m l).handles = s.handles := by
  unfold setLedger
  split <;> rfl

theorem handle_setLedger (s : World) (m : Nat) (l : Ledger) (i : Nat) :
    (setLedger s m l).handle i = s.handle i := by
  simp only [World.handle, handles_setLedger]

/-! ## The rules of an enlistment's calls -/

/-- Rules of the calls of enlistment `a`: no transaction reopens and no handle goes away,
others leave the enlistment alone, and between two steps the scheduler only keeps its
books. -/
def adapterRules (a : Nat) : Rules World Cond :=
  ⟨fun s s' => endRules.rely s s' ∧ s'.adapter a = s.adapter a,
    fun s s' => endRules.sched s s' ∧ World.BooksOnly s s',
    fun s s' => endRules.guar s s' ∧ s'.adapter a = s.adapter a, fun _ _ => True⟩

theorem adapterRules_lawful (a : Nat) : (adapterRules a).Lawful where
  rely_refl s := ⟨endRules_lawful.rely_refl s, rfl⟩
  rely_trans _ _ _ h₁ h₂ := ⟨endRules_lawful.rely_trans _ _ _ h₁.1 h₂.1, h₂.2.trans h₁.2⟩
  sched_refl s := ⟨endRules_lawful.sched_refl s, .refl s⟩
  sched_trans _ _ _ h₁ h₂ := ⟨endRules_lawful.sched_trans _ _ _ h₁.1 h₂.1, h₁.2.trans h₂.2⟩
  guar_refl s := ⟨endRules_lawful.guar_refl s, rfl⟩
  sched_rely _ _ h := ⟨endRules_lawful.sched_rely _ _ h.1, h.2.adapter a⟩
  guar_rely _ _ h := h

/-- The scheduler's bookkeeping touches watchers, lock queues, wakes, owners and overrides
alone, and giving back what an owner held leaves the enlistments alone. -/
theorem World.host_keeps_adapterRules (a : Nat) : World.host.Keeps (adapterRules a) where
  listen c t s := by
    refine ⟨World.host_keeps_endRules.listen c t s, ?_⟩
    cases c with
    | turn h n =>
      refine World.BooksOnly.modifyHandle s h fun hd => ?_
      split
      · exact .refl hd
      · exact ⟨rfl, rfl, rfl⟩
    | granted m o => exact .of_eq rfl rfl ⟨rfl, rfl, rfl, rfl⟩
  forget t s := by
    refine ⟨World.host_keeps_endRules.forget t s, rfl, ⟨rfl, rfl, rfl, rfl⟩, fun i => ?_⟩
    simp only [World.host, World.handle, Array.getElem?_map]
    cases s.handles[i]? with
    | none => exact .refl _
    | some hd => exact ⟨rfl, rfl, rfl⟩
  release o s := ⟨World.host_keeps_endRules.release o s, by
    simp only [World.adapter, World.host, World.adapters_releaseOwner]⟩
  takeWakes s := ⟨World.host_keeps_endRules.takeWakes s, .of_eq rfl rfl ⟨rfl, rfl, rfl, rfl⟩⟩
  fresh s := ⟨World.host_keeps_endRules.fresh s, .of_eq rfl rfl ⟨rfl, rfl, rfl, rfl⟩⟩
  enter t o n s := ⟨World.host_keeps_endRules.enter t o n s, .of_eq rfl rfl ⟨rfl, rfl, rfl, rfl⟩⟩
  spawned p c s := by
    refine ⟨World.host_keeps_endRules.spawned p c s, ?_⟩
    simp only [World.host]
    split
    · exact .of_eq rfl rfl ⟨rfl, rfl, rfl, rfl⟩
    · exact .refl s
  holds _ _ _ := trivial

/-- A rollback under these rules ends its transaction and leaves the enlistment as it was:
moving handles touches no enlistment. -/
theorem adapterRules_allowsRollback (a : Nat) (ad : Adapter) :
    AllowsRollback (adapterRules a) ad.handle fun s => s.adapter a = ad :=
  ⟨adapterRules_lawful a, fun _ _ hs => hs.1, fun _ _ hr => hr.1,
    fun _ _ hm hg => ⟨hg, by simp only [World.adapter, hm.adapters]⟩,
    fun _ _ hs hr => hr.2.trans hs, fun _ _ hm hs => by simp only [World.adapter, hm.adapters]; exact hs⟩

/-! ## The steps of a vote -/

/-- Enlistment `a` is `ad`, its handle exists and reads as in `w`, and the stores fail as
in `w`. -/
structure Steady (a : Nat) (ad : Adapter) (w s : World) : Prop where
  adapter : s.adapter a = ad
  lt : ad.handle < s.handles.size
  handle : Handle.SameVote (w.handle ad.handle) (s.handle ad.handle)
  faults : s.faults = w.faults
  managers : s.managers = w.managers

/-- The store of enlistment `ad` did not fail to load or to save in `w`, and now holds what it
held in `w` with the descriptor rewritten at the location the handle had in `w`. -/
def Rewritten (ad : Adapter) (w s : World) : Prop :=
  storeFault w ad.manager (·.load) = none ∧ storeFault w ad.manager (·.save) = none ∧
    ∃ d, (ledgerOf w ad.manager).load ad.rm ad.unitId = some d ∧
      ledgerOf s ad.manager = (ledgerOf w ad.manager).save
        { d with location := (w.handle ad.handle).location, recordedAt := stamp }

section Steps

variable {a : Nat} {ad : Adapter} {w : World}

namespace Steady

/-- What is read at the start stays as read across the scheduler's books. -/
theorem of_sched {s : World} (ha : w.adapter a = ad) (hlt : ad.handle < w.handles.size)
    (hs : (adapterRules a).sched w s) : Steady a ad w s :=
  ⟨(hs.2.adapter a).trans ha, hs.1.2 ▸ hlt, hs.2.handle _, hs.2.stores.faults,
    hs.2.stores.managers⟩

theorem sched {s s' : World} (h : Steady a ad w s) (hs : (adapterRules a).sched s s') :
    Steady a ad w s' :=
  ⟨(hs.2.adapter a).trans h.adapter, hs.1.2 ▸ h.lt, h.handle.trans (hs.2.handle _),
    hs.2.stores.faults.trans h.faults, hs.2.stores.managers.trans h.managers⟩

theorem setLedger {s : World} (h : Steady a ad w s) (m : Nat) (l : Ledger) :
    Steady a ad w (Ambient.setLedger s m l) := by
  unfold Ambient.setLedger
  split
  · exact ⟨h.adapter, h.lt, h.handle, h.faults, h.managers⟩
  · exact ⟨h.adapter, h.lt, h.handle, h.faults, h.managers⟩

theorem storeFault {s : World} (h : Steady a ad w s) (m : Nat) (op : StoreFaults → Option String) :
    Ambient.storeFault s m op = Ambient.storeFault w m op := by
  unfold Ambient.storeFault World.manager
  rw [h.managers, h.faults]

end Steady

/-- The ledgers are as they were across the scheduler's books. -/
theorem ledgerOf_sched {s s' : World} (hs : (adapterRules a).sched s s') (m : Nat) :
    ledgerOf s' m = ledgerOf s m :=
  hs.2.stores.ledgerOf m

/-- Loading answers the ledger's descriptor when the store does not fail. -/
theorem storeLoad_loads (m : Nat) (rm uow : Uuid) (L : Ledger) :
    Triple (adapterRules a) (fun s => ledgerOf s m = L ∧ Steady a ad w s) (storeLoad m rm uow).run
      (fun r s => (∀ o, r = .ok o → storeFault w m (·.load) = none ∧ o = L.load rm uow) ∧
        ledgerOf s m = L ∧ Steady a ad w s) := by
  unfold storeLoad
  refine Triple.run_get_bind (adapterRules_lawful a) fun w₁ hw₁ => ?_
  have hkeep : ∀ s, (ledgerOf w₁ m = L ∧ Steady a ad w w₁) ∧ (adapterRules a).sched w₁ s →
      ledgerOf s m = L ∧ Steady a ad w s :=
    fun s hs => ⟨(ledgerOf_sched hs.2 m).trans hs.1.1, hs.1.2.sched hs.2⟩
  cases hf : storeFault w₁ m (·.load) with
  | some msg =>
    exact Triple.run_throw_bind fun s hs => ⟨fun _ h => (by cases h), hkeep s hs⟩
  | none =>
    refine Triple.run_pure fun s hs => ⟨fun o ho => ?_, hkeep s hs⟩
    cases ho
    exact ⟨hw₁.2.storeFault m _ ▸ hf, by rw [hw₁.1]⟩

/-- Saving writes the descriptor into the ledger when the store does not fail, a step that
moves no handle and no enlistment. -/
theorem storeSave_saves (m : Nat) (d : Descriptor) (L : Ledger) :
    Triple (adapterRules a) (fun s => ledgerOf s m = L ∧ Steady a ad w s) (storeSave m d).run
      (fun r s => (r = .ok () → storeFault w m (·.save) = none ∧ ledgerOf s m = L.save d) ∧
        Steady a ad w s) := by
  unfold storeSave
  refine Triple.run_get_bind (adapterRules_lawful a) fun w₁ hw₁ => ?_
  cases hf : storeFault w₁ m (·.save) with
  | some msg => exact Triple.run_throw_bind fun s hs => ⟨fun h => (by cases h), hs.1.2.sched hs.2⟩
  | none =>
    have hstep : ∀ s, (ledgerOf w₁ m = L ∧ Steady a ad w w₁) ∧ (adapterRules a).sched w₁ s →
        (adapterRules a).guar s (setLedger s m ((ledgerOf s m).save d)) :=
      fun s _ => ⟨⟨fun i => by rw [handle_setLedger]; exact Handle.Evolves.refl _,
        Nat.le_of_eq (congrArg Array.size (handles_setLedger s m _)).symm⟩, adapter_setLedger _ _ _ _⟩
    refine Triple.run_liftM ((Triple.modify hstep).post fun _ s hq => ?_)
    obtain ⟨s₁, ⟨⟨hL, hsteady⟩, hs₁⟩, hs⟩ := hq
    refine ⟨fun _ => ⟨hsteady.storeFault m _ ▸ hf, ?_⟩, ((hsteady.sched hs₁).setLedger m _).sched hs⟩
    rw [ledgerOf_sched hs, ledgerOf_setLedger, ledgerOf_sched hs₁, hL]

/-- Rewriting the descriptor succeeds only when the store held one and failed neither to load
nor to save; the ledger then holds it rewritten at the handle's location. -/
theorem refreshDescriptor_rewrites :
    Triple (adapterRules a)
      (fun s => ledgerOf s ad.manager = ledgerOf w ad.manager ∧ Steady a ad w s)
      (refreshDescriptor a).run (fun r s => (r = .ok () → Rewritten ad w s) ∧ Steady a ad w s) := by
  unfold refreshDescriptor
  refine Triple.run_get_bind (adapterRules_lawful a) fun w₁ hw₁ => ?_
  dsimp only
  rw [hw₁.2.adapter]
  refine Triple.run_bind _ ((storeLoad_loads ad.manager ad.rm ad.unitId _).pre fun s hs =>
    ⟨(ledgerOf_sched hs.2 _).trans hw₁.1, hw₁.2.sched hs.2⟩) (fun o => ?_)
    fun _ _ hs => ⟨fun h => (by cases h), hs.2.2⟩
  cases o with
  | none => exact Triple.run_throw fun _ hs => ⟨fun h => (by cases h), hs.2.2⟩
  | some d =>
    refine Triple.run_liftM_bind (Triple.get (adapterRules_lawful a)) fun w₂ =>
      Triple.of_fact fun hw₂ => ?_
    obtain ⟨hload, hL, hsteady⟩ := hw₂
    obtain ⟨hfault, hd⟩ := hload (some d) rfl
    refine (storeSave_saves ad.manager _ _).conseq (fun s hs =>
      ⟨(ledgerOf_sched hs _).trans hL, hsteady.sched hs⟩) fun r s hs => ⟨fun hr => ?_, hs.2⟩
    obtain ⟨hsave, hnew⟩ := hs.1 hr
    refine ⟨hfault, hsave, d, hd.symm, ?_⟩
    rw [hnew, hsteady.handle.location]

/-- Ending the handle leaves it ended and the enlistment as it was. -/
theorem endHandle_ends :
    Triple (adapterRules a) (fun s => ad.handle < s.handles.size ∧ s.adapter a = ad)
      (endHandle a).run (fun _ s => Closed ad.handle s ∧ s.adapter a = ad) := by
  unfold endHandle
  refine Triple.run_get_bind (adapterRules_lawful a) fun w₁ _ => Triple.of_fact fun hw₁ => ?_
  obtain ⟨hlt, had⟩ := hw₁
  have hkeep : ∀ s, (adapterRules a).sched w₁ s → ad.handle < s.handles.size ∧ s.adapter a = ad :=
    fun s hs => ⟨hs.1.2 ▸ hlt, (hs.2.adapter a).trans had⟩
  dsimp only
  rw [had]
  split
  · exact (rollback_ends (adapterRules_allowsRollback a ad)).pre hkeep
  · rename_i hclosed
    refine Triple.run_pure fun s hs => ⟨⟨fun hopen => hclosed ?_, (hkeep s hs).1⟩, (hkeep s hs).2⟩
    exact (Handle.isOpen_iff _).2 ((hs.2.handle ad.handle).state.symm.trans hopen)

end Steps

/-! ## Votes -/

/-- Prepare votes prepared only with the handle open, no run pending on it and the descriptor
just rewritten at the handle's location, the rest of the store as it was; it votes aborted
only once the handle has ended. -/
theorem prepare_votes (a : Nat) (ad : Adapter) (L : Ledger) :
    Triple (adapterRules a)
      (fun s => s.adapter a = ad ∧ ledgerOf s ad.manager = L ∧ ad.handle < s.handles.size)
      (prepare a) (fun v s =>
        (v = .prepared → (s.handle ad.handle).state = .open ∧ (s.handle ad.handle).pending = 0 ∧
          ∃ d, L.load ad.rm ad.unitId = some d ∧ ledgerOf s ad.manager =
            L.save { d with location := (s.handle ad.handle).location, recordedAt := stamp }) ∧
        (v = .aborted → Closed ad.handle s)) := by
  unfold prepare
  refine Triple.bind (Triple.get (adapterRules_lawful a)) fun w => Triple.of_fact fun hw => ?_
  obtain ⟨had, hL, hlt⟩ := hw
  have hsteady : ∀ s, (adapterRules a).sched w s → Steady a ad w s := fun _ hs => .of_sched had hlt hs
  rw [had]
  extract_lets hd jp
  split
  · -- the handle has ended: the vote is to abort, at once
    rename_i hclosed
    refine Triple.pure_of fun s hs => ⟨fun h => (by cases h), fun _ => ⟨fun hopen => ?_, (hsteady s hs).lt⟩⟩
    rw [(hsteady s hs).handle.state] at hopen
    simp [hd, (Handle.isOpen_iff _).2 hopen] at hclosed
  rename_i hopen
  -- what follows the readiness check, once for both ways of checking
  have hjp : ∀ r, Triple (adapterRules a)
      (fun s => (r = .ok () → Rewritten ad w s ∧ hd.pending = 0) ∧ Steady a ad w s) (jp r)
      (fun v s => (v = .prepared → (s.handle ad.handle).state = .open ∧
          (s.handle ad.handle).pending = 0 ∧ ∃ d, L.load ad.rm ad.unitId = some d ∧
            ledgerOf s ad.manager =
              L.save { d with location := (s.handle ad.handle).location, recordedAt := stamp }) ∧
        (v = .aborted → Closed ad.handle s)) := by
    intro r
    cases r with
    | ok u =>
      cases u
      refine Triple.pure_of fun s hs => ⟨fun _ => ?_, fun h => (by cases h)⟩
      obtain ⟨⟨_, _, d, hd', hnew⟩, hp⟩ := hs.1 rfl
      refine ⟨hs.2.handle.state.trans ((Handle.isOpen_iff _).1 (by simpa using hopen)),
        hs.2.handle.pending.trans hp, d, hL ▸ hd', ?_⟩
      rw [hnew, hL, hs.2.handle.location]
    | error e =>
      -- the vote cannot be prepared: the handle is rolled back first
      exact Triple.bind (endHandle_ends.pre fun s hs => ⟨hs.2.lt, hs.2.adapter⟩) fun _ =>
        Triple.pure_of fun s hs => ⟨fun h => (by cases h), fun _ => hs.1⟩
  split
  · exact Triple.bind (Triple.pure_of fun s hs => ⟨fun h => (by cases h), hsteady s hs⟩) hjp
  · rename_i hpending
    exact Triple.bind (refreshDescriptor_rewrites.conseq (fun s hs => ⟨ledgerOf_sched hs _, hsteady s hs⟩)
      fun r s hr => ⟨fun hok => ⟨hr.1 hok, by omega⟩, hr.2⟩) hjp

/-! ## Promotion -/

/-- The enlistment's handle is open and its descriptor can be rewritten: the store fails
neither to load nor to save, and holds a descriptor of the enlistment. -/
def Promotable (ad : Adapter) (s : World) : Prop :=
  (s.handle ad.handle).state = .open ∧ storeFault s ad.manager (·.load) = none ∧
    ((ledgerOf s ad.manager).load ad.rm ad.unitId).isSome ∧ storeFault s ad.manager (·.save) = none

/-- A descriptor rewritten from an open handle shows the enlistment promotable. -/
theorem Rewritten.promotable {ad : Adapter} {w s : World} (hr : Rewritten ad w s)
    (hopen : (w.handle ad.handle).state = .open) : Promotable ad w := by
  obtain ⟨hload, hsave, d, hd, -⟩ := hr
  exact ⟨hopen, hload, by rw [hd]; rfl, hsave⟩

/-- A promotion that finds the handle ended, or cannot rewrite the descriptor, rolls the
handle back and fails as a coordination failure; the enlistment, and so whether it is
promoted, is as it was. -/
theorem promote_fails_closed (a : Nat) (ad : Adapter) :
    Triple (adapterRules a)
      (fun s => s.adapter a = ad ∧ ad.promoted = false ∧ ¬Promotable ad s ∧
        ad.handle < s.handles.size)
      (promote a).run (fun r s =>
        (∃ msg, r = .error (.coordination ("promotion to two-phase commit failed: " ++ msg))) ∧
          Closed ad.handle s ∧ s.adapter a = ad) := by
  unfold promote
  refine Triple.run_get_bind (adapterRules_lawful a) fun w _ => Triple.of_fact fun hw => ?_
  obtain ⟨had, hnew, hstuck, hlt⟩ := hw
  have hsteady : ∀ s, (adapterRules a).sched w s → Steady a ad w s := fun _ hs => .of_sched had hlt hs
  rw [had]
  extract_lets ad₁ jp
  split
  · rename_i hp
    simp only [ad₁, hnew] at hp
    cases hp
  rename_i hp
  -- what follows the attempt to rewrite the descriptor, once for both ways of trying
  have hjp : ∀ r, Triple (adapterRules a)
      (fun s => (r = .ok () → Rewritten ad w s ∧ (w.handle ad.handle).state = .open) ∧
        Steady a ad w s) (jp r).run (fun r s =>
        (∃ msg, r = .error (.coordination ("promotion to two-phase commit failed: " ++ msg))) ∧
          Closed ad.handle s ∧ s.adapter a = ad) := by
    intro r
    cases r with
    | ok u =>
      exact Triple.of_pre_fact (fun s hs => hstuck ((hs.1 rfl).1.promotable (hs.1 rfl).2)) False.elim
    | error e =>
      exact Triple.run_attempt_bind (endHandle_ends.pre fun s hs => ⟨hs.2.lt, hs.2.adapter⟩) fun _ =>
        Triple.run_throw fun s hs => ⟨⟨e.message, rfl⟩, hs.1, hs.2⟩
  split
  · rename_i hopen
    exact Triple.run_attempt_bind (refreshDescriptor_rewrites.conseq
      (fun s hs => ⟨ledgerOf_sched hs _, hsteady s hs⟩)
      fun r s hr => ⟨fun hok => ⟨hr.1 hok, (Handle.isOpen_iff _).1 hopen⟩, hr.2⟩) hjp
  · exact Triple.run_pure_bind ((hjp (.error (.closed "cannot promote a transaction that has already ended"))).pre
      fun s hs => ⟨fun h => (by cases h), hsteady s hs⟩)

/-! ## Promotion, step by step -/

section Alone

variable {t : Nat}

/-- Loading from a store that does not fail answers the ledger's descriptor, and changes
nothing. -/
theorem storeLoad_answers (m : Nat) (rm uow : Uuid) (s : World)
    (hf : storeFault s m (·.load) = none) :
    Alone World.host t (fun x => x.state = s) (storeLoad m rm uow).run
      (fun r x => r = .ok ((ledgerOf s m).load rm uow) ∧ x.state = { s with wakes := [] }) := by
  unfold storeLoad
  refine Alone.run_liftM_bind (Alone.get_world (· = s)) fun w => Alone.of_fact fun hw => ?_
  subst hw
  rw [hf]
  exact Alone.run_pure fun x hx => ⟨rfl, hx⟩

/-- Saving into a store that does not fail writes the descriptor into the ledger. -/
theorem storeSave_writes (m : Nat) (d : Descriptor) (s : World)
    (hf : storeFault s m (·.save) = none) :
    Alone World.host t (fun x => x.state = s) (storeSave m d).run
      (fun r x => r = .ok () ∧ x.state = { setLedger s m ((ledgerOf s m).save d) with wakes := [] }) := by
  unfold storeSave
  refine Alone.run_liftM_bind (Alone.get_world (· = s)) fun w => Alone.of_fact fun hw => ?_
  subst hw
  rw [hf]
  refine Alone.run_liftM (Alone.change_at fun x he => ⟨rfl, ?_⟩)
  rw [he, setLedger_clearWakes]
  rfl

/-- Rewriting the descriptor of an enlistment whose store holds one and fails neither to load
nor to save writes it at the handle's location. -/
theorem refreshDescriptor_writes (a : Nat) (s : World) (d : Descriptor)
    (hload : storeFault s (s.adapter a).manager (·.load) = none)
    (hd : (ledgerOf s (s.adapter a).manager).load (s.adapter a).rm (s.adapter a).unitId = some d)
    (hsave : storeFault s (s.adapter a).manager (·.save) = none) :
    Alone World.host t (fun x => x.state = s) (refreshDescriptor a).run (fun r x => r = .ok () ∧
      x.state = { setLedger s (s.adapter a).manager ((ledgerOf s (s.adapter a).manager).save
        { d with location := (s.handle (s.adapter a).handle).location, recordedAt := stamp })
          with wakes := [] }) := by
  unfold refreshDescriptor
  refine Alone.run_liftM_bind (Alone.get_world (· = s)) fun w => Alone.of_fact fun hw => ?_
  subst hw
  refine Alone.run_bind _ (storeLoad_answers _ _ _ { w with wakes := [] } hload) (fun o => ?_)
    fun _ _ hx => by cases hx.1
  refine Alone.of_fact fun ho => ?_
  cases ho
  have hd' : (ledgerOf { w with wakes := [] } (w.adapter a).manager).load (w.adapter a).rm
      (w.adapter a).unitId = some d := hd
  rw [hd']
  refine Alone.run_liftM_bind (Alone.get_world (· = { w with wakes := [] })) fun w₂ =>
    Alone.of_fact fun hw₂ => ?_
  subst hw₂
  refine (storeSave_writes _ _ { w with wakes := [] } hsave).post fun r x hx => ⟨hx.1, ?_⟩
  rw [hx.2, setLedger_clearWakes]
  rfl

theorem modifyAdapter_setLedger_clearWakes (s : World) (m : Nat) (l : Ledger) (a : Nat)
    (g : Adapter → Adapter) :
    { ({ setLedger { s with wakes := [] } m l with wakes := [] }).modifyAdapter a g with wakes := [] } =
      { (setLedger s m l).modifyAdapter a g with wakes := [] } := by
  have hm : ({ s with wakes := [] } : World).manager m = s.manager m := rfl
  unfold setLedger
  rw [hm]
  split <;> rfl

/-- Promoting an enlistment that is not promoted yet, whose handle is open and whose store
holds its descriptor and fails neither to load nor to save, rewrites the descriptor at the
handle's location and marks the enlistment promoted, without waiting. -/
theorem promote_writes (a : Nat) (s : World) (d : Descriptor)
    (hnew : (s.adapter a).promoted = false) (hopen : (s.handle (s.adapter a).handle).state = .open)
    (hload : storeFault s (s.adapter a).manager (·.load) = none)
    (hd : (ledgerOf s (s.adapter a).manager).load (s.adapter a).rm (s.adapter a).unitId = some d)
    (hsave : storeFault s (s.adapter a).manager (·.save) = none) :
    Alone World.host t (fun x => x.state = s) (promote a).run (fun r x => r = .ok () ∧
      x.state = { (setLedger s (s.adapter a).manager ((ledgerOf s (s.adapter a).manager).save
        { d with location := (s.handle (s.adapter a).handle).location, recordedAt := stamp })).modifyAdapter
          a (fun ad => { ad with promoted := true }) with wakes := [] }) := by
  unfold promote
  refine Alone.run_liftM_bind (Alone.get_world (· = s)) fun w => Alone.of_fact fun hw => ?_
  subst hw
  extract_lets ad jp
  split
  · rename_i hp
    simp only [ad, hnew] at hp
    cases hp
  split
  · refine Alone.run_attempt_bind (refreshDescriptor_writes a { w with wakes := [] } d hload hd hsave)
      fun r => Alone.of_fact fun hr => ?_
    subst hr
    refine Alone.run_liftM (Alone.change_at fun x he => ⟨rfl, ?_⟩)
    rw [he, modifyAdapter_setLedger_clearWakes]
    rfl
  · rename_i hclosed
    simp [ad, hopen, Handle.isOpen] at hclosed

/-- Promoting a promoted enlistment changes nothing. -/
theorem promote_again (a : Nat) (s : World) (hp : (s.adapter a).promoted = true) :
    Alone World.host t (fun x => x.state = s) (promote a).run
      (fun r x => r = .ok () ∧ x.state = { s with wakes := [] }) := by
  unfold promote
  refine Alone.run_liftM_bind (Alone.get_world (· = s)) fun w => Alone.of_fact fun hw => ?_
  subst hw
  extract_lets ad jp
  split
  · exact Alone.run_pure fun x hx => ⟨rfl, hx⟩
  · rename_i hnot
    simp [ad, hp] at hnot

end Alone

/-! ## The world after a promotion -/

/-- A descriptor found under a key has that key. -/
theorem Ledger.key_of_load {l : Ledger} {rm uow : Uuid} {d : Descriptor}
    (h : l.load rm uow = some d) : d.rm = rm ∧ d.uow = uow :=
  Ledger.isFor_iff.1 (List.find?_some h)

theorem World.adapter_modifyAdapter_self (s : World) {a : Nat} (ha : a < s.adapters.size)
    (g : Adapter → Adapter) : (s.modifyAdapter a g).adapter a = g (s.adapter a) := by
  simp [World.adapter, World.modifyAdapter, Array.getElem?_modify, Array.getElem?_eq_getElem ha]

/-- The world a promotion leaves: its handle as it was, the descriptor at the handle's
location, and the enlistment promoted. -/
theorem promoted_world (a : Nat) (s : World) (d : Descriptor) (ha : a < s.adapters.size)
    (hd : (ledgerOf s (s.adapter a).manager).load (s.adapter a).rm (s.adapter a).unitId = some d)
    {s' : World} (hs' : s' = { (setLedger s (s.adapter a).manager ((ledgerOf s (s.adapter a).manager).save
        { d with location := (s.handle (s.adapter a).handle).location, recordedAt := stamp })).modifyAdapter
          a (fun ad => { ad with promoted := true }) with wakes := [] }) :
    s'.handle (s.adapter a).handle = s.handle (s.adapter a).handle ∧
      ((ledgerOf s' (s.adapter a).manager).load (s.adapter a).rm (s.adapter a).unitId).map
        (·.location) = some (s'.handle (s.adapter a).handle).location ∧
      (s'.adapter a).promoted = true := by
  subst hs'
  have hhandle := handle_setLedger s (s.adapter a).manager ((ledgerOf s (s.adapter a).manager).save
    { d with location := (s.handle (s.adapter a).handle).location, recordedAt := stamp })
    (s.adapter a).handle
  obtain ⟨hrm, huow⟩ := Ledger.key_of_load hd
  refine ⟨hhandle, ?_, ?_⟩
  · show ((ledgerOf (setLedger s _ _) (s.adapter a).manager).load _ _).map _ =
      some ((setLedger s _ _).handle (s.adapter a).handle).location
    rw [ledgerOf_setLedger, hhandle, ← hrm, ← huow]
    exact congrArg (Option.map (·.location)) (Ledger.load_save _ _)
  · show (((setLedger s _ _).modifyAdapter a _).adapter a).promoted = true
    rw [World.adapter_modifyAdapter_self _ (by unfold setLedger; split <;> exact ha)]

/-- A promotion of an enlistment that is not promoted yet, whose handle is open and whose
descriptor can be rewritten, runs without waiting: afterwards the handle is open, the
descriptor is at its location and the enlistment is promoted. -/
theorem promote_promotes {t : Nat} (a : Nat) (s : World) (hnew : (s.adapter a).promoted = false)
    (ha : a < s.adapters.size) (hp : Promotable (s.adapter a) s) :
    Alone World.host t (fun x => x.state = s) (promote a).run (fun r x => r = .ok () ∧
      (x.state.handle (s.adapter a).handle).state = .open ∧
      ((ledgerOf x.state (s.adapter a).manager).load (s.adapter a).rm (s.adapter a).unitId).map
        (·.location) = some (x.state.handle (s.adapter a).handle).location ∧
      (x.state.adapter a).promoted = true) := by
  obtain ⟨hopen, hload, hsome, hsave⟩ := hp
  obtain ⟨d, hd⟩ := Option.isSome_iff_exists.1 hsome
  refine (promote_writes a s d hnew hopen hload hd hsave).post fun r x hx => ?_
  obtain ⟨hhandle, hloc, hpromoted⟩ := promoted_world a s d ha hd hx.2
  exact ⟨hx.1, hhandle ▸ hopen, hloc, hpromoted⟩

/-! ## The outcomes of prepare and promote -/

/-- What an enlistment's prepare and promote end in. Whatever other tasks do while they wait,
as long as no transaction reopens, no handle goes away and the enlistment is left alone
(rules the scheduler keeps):

* prepare votes prepared only with the handle open, no run pending and the descriptor just
  rewritten at the handle's location, and votes aborted only once the handle has ended;
* a first promotion that finds the handle ended, or cannot rewrite the descriptor, ends the
  handle, keeps the enlistment unpromoted and fails as a coordination failure.

A first promotion that can rewrite the descriptor runs without waiting and leaves the handle
open, the descriptor at its location and the enlistment promoted; a promotion of a promoted
enlistment changes nothing. -/
theorem prepare_and_promote_outcomes (a : Nat) :
    World.host.Keeps (adapterRules a) ∧
    (∀ ad L, Triple (adapterRules a)
      (fun s => s.adapter a = ad ∧ ledgerOf s ad.manager = L ∧ ad.handle < s.handles.size)
      (prepare a) (fun v s =>
        (v = .prepared → (s.handle ad.handle).state = .open ∧ (s.handle ad.handle).pending = 0 ∧
          ∃ d, L.load ad.rm ad.unitId = some d ∧ ledgerOf s ad.manager =
            L.save { d with location := (s.handle ad.handle).location, recordedAt := stamp }) ∧
        (v = .aborted → Closed ad.handle s))) ∧
    (∀ ad, Triple (adapterRules a)
      (fun s => s.adapter a = ad ∧ ad.promoted = false ∧ ¬Promotable ad s ∧
        ad.handle < s.handles.size)
      (promote a).run (fun r s =>
        (∃ msg, r = .error (.coordination ("promotion to two-phase commit failed: " ++ msg))) ∧
          Closed ad.handle s ∧ s.adapter a = ad)) ∧
    (∀ t s, (s.adapter a).promoted = false → a < s.adapters.size → Promotable (s.adapter a) s →
      Alone World.host t (fun x => x.state = s) (promote a).run (fun r x => r = .ok () ∧
        (x.state.handle (s.adapter a).handle).state = .open ∧
        ((ledgerOf x.state (s.adapter a).manager).load (s.adapter a).rm (s.adapter a).unitId).map
          (·.location) = some (x.state.handle (s.adapter a).handle).location ∧
        (x.state.adapter a).promoted = true)) ∧
    (∀ t s, (s.adapter a).promoted = true →
      Alone World.host t (fun x => x.state = s) (promote a).run
        (fun r x => r = .ok () ∧ x.state = { s with wakes := [] })) :=
  ⟨World.host_keeps_adapterRules a, prepare_votes a, promote_fails_closed a,
    fun _ s hnew ha hp => promote_promotes a s hnew ha hp, fun _ s hp => promote_again a s hp⟩

/-- An enlistment of a transaction at its address, whose descriptor was saved before the
transaction had one: its first promotion moves the descriptor to the address. -/
theorem promotion_moves_descriptor_to_location :
    let d : Descriptor :=
      { rm := default, uow := ⟨1⟩, config := default, transport := .http, version := ⟨5, 13, 0⟩,
        database := "neo4j", location := none, recordedAt := stamp }
    let s : World :=
      { handles := #[{ id := ⟨1⟩, database := "neo4j", link := .http 0 default ⟨5, 13, 0⟩,
                       location := some "http://localhost:7474/db/neo4j/tx/1" }],
        adapters := #[{ unitId := ⟨1⟩, unit := default, rm := default, handle := 0, manager := 0 }],
        ledger := ⟨[d]⟩ }
    (s.adapter 0).promoted = false ∧ 0 < s.adapters.size ∧ Promotable (s.adapter 0) s ∧
      Alone World.host 1 (fun x => x.state = s) (promote 0).run (fun r x => r = .ok () ∧
        (x.state.handle 0).state = .open ∧
        ((ledgerOf x.state 0).load default ⟨1⟩).map (·.location) = some (x.state.handle 0).location ∧
        (x.state.adapter 0).promoted = true) := by
  intro d s
  have hnew : (s.adapter 0).promoted = false := rfl
  have ha : 0 < s.adapters.size := by decide
  have hp : Promotable (s.adapter 0) s := ⟨rfl, rfl, rfl, rfl⟩
  exact ⟨hnew, ha, hp, (prepare_and_promote_outcomes 0).2.2.2.1 1 s hnew ha hp⟩

end TxnCoord
