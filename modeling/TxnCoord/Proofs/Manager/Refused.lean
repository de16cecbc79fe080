import TxnCoord.Proofs.Ambient.Completion
/-!
# A refused enlistment

A new enlistment makes a handle, saves a recovery descriptor for (resource manager, unit of
work) and asks the unit to take it. When the unit refuses, the clean-up closes the handle
locally and removes the descriptor again, and the begin fails as a coordination failure.

* `enlistNew_refused_store`: the store is not put back as it was. The descriptor just saved
  replaced whatever the store held for the key, and the removal then takes the key out: the
  store ends without any descriptor for the key when the removal succeeds, and with the one
  just saved when the removal fails, a failure the clean-up swallows. No enlistment is
  registered, and the handle made ends rolled back without a request.
-/

namespace TxnCoord

open Transaction Ambient Recovery Manager

section Alone

variable {t : Nat}

/-- A handle made for a manager of the HTTP transport that keeps nothing alive: it is added
last, open and with no address, and nothing else changes. -/
theorem newHandle_http_alone {m : Nat} {version : ServerVersion} {database : String} (s : World)
    (hb : (s.manager m).backend = .http) (hk : (s.manager m).config.keepAliveInterval = none) :
    Alone World.host t (fun b => b.state = s) (newHandle m version database).run fun r b =>
      r = .ok s.handles.size ∧
      b.state = { s with
        handles := s.handles.push
          { id := handleId s.handles.size, database, link := .http m (s.manager m).config version }
        wakes := [] } := by
  unfold newHandle
  refine Alone.run_liftM_bind (Alone.get_world (· = s)) fun w => Alone.of_fact fun hw => ?_
  subst hw
  dsimp only
  split
  · refine Alone.run_liftM_bind (Alone.modifyGet_world (W := (· = { w with wakes := [] }))
      (Q := fun h b => h = w.handles.size ∧ b.state = { w with
        handles := w.handles.push
          { id := handleId w.handles.size, database, link := .http m (w.manager m).config version }
        wakes := [] }) fun _ hs b hb => by subst hs; exact ⟨rfl, hb⟩) fun h => Alone.of_fact fun hh => ?_
    subst hh
    split
    · rename_i p hp
      rw [hk] at hp
      cases hp
    · exact Alone.run_pure fun b hb => ⟨rfl, hb⟩
  · rename_i hd
    rw [hb] at hd
    cases hd

/-- A host-driven unit told to fail its next enlistment logs the attempt and refuses with that
failure, once; no store and no handle changes. -/
theorem enlistManual_refused_alone {i a : Nat} {sp : Bool} {e : TxError} {W : World → Prop}
    (hW : ∀ s s', World.SameStores s s' → s'.handles = s.handles → W s → W s') :
    Alone World.host t (fun b => W b.state ∧ (b.state.manualUnit i).failNext = some e)
      (enlistManual i a sp).run fun r b => r = .error e ∧ W b.state := by
  unfold enlistManual
  refine Alone.run_liftM_bind (Alone.change_world
    (W := fun s => W s ∧ (s.manualUnit i).failNext = some e)
    (Q := fun _ b => W b.state ∧ (b.state.manualUnit i).failNext = some e)
    fun s hs b hb => by rw [hb]; exact ⟨hW s _ ⟨rfl, rfl, rfl, rfl⟩ rfl hs.1, hs.2⟩) fun _ => ?_
  refine Alone.run_liftM_bind (Alone.get_world fun s => W s ∧ (s.manualUnit i).failNext = some e)
    fun w => Alone.of_fact fun hw => ?_
  rw [hw.2]
  refine Alone.run_liftM_bind (Alone.change_at fun b hb => ?_) fun _ =>
    Alone.run_throw fun _ hb => ⟨rfl, hb⟩
  rw [hb]
  exact hW w _ ⟨rfl, rfl, rfl, rfl⟩ rfl hw.1

/-- Closing locally an open HTTP handle with no address: it is rolled back without a request,
and no store changes. -/
theorem abandonLocally_unbegun_alone {h m : Nat} {c : Config} {v : ServerVersion} {W : World → Prop}
    (hW : ∀ s s', World.SameStores s s' → W s → W s') :
    Alone World.host t
      (fun b => W b.state ∧ h < b.state.handles.size ∧ (b.state.handle h).link = .http m c v ∧
        (b.state.handle h).state = .open ∧ (b.state.handle h).location = none)
      (abandonLocally h) fun r b => r = true ∧ W b.state ∧ (b.state.handle h).state = .rolledBack := by
  unfold abandonLocally
  refine Alone.modifyGet_world (W := fun s => W s ∧ h < s.handles.size ∧
    (s.handle h).link = .http m c v ∧ (s.handle h).state = .open ∧ (s.handle h).location = none)
    fun s hs b hb => ?_
  obtain ⟨hw, hlt, hlink, hopen, hnone⟩ := hs
  have hcond : ((s.handle h).location.isNone && (s.handle h).state == .open) = true := by
    simp [hnone, hopen]
  simp only [hlink, hcond, if_true] at hb ⊢
  rw [hb]
  refine ⟨trivial, hW s _ ⟨rfl, rfl, rfl, rfl⟩ hw, ?_⟩
  show ((s.modifyHandle h fun x => { x with state := .rolledBack }).handle h).state = .rolledBack
  rw [World.handle_modifyHandle_self s hlt]

/-- Dropping an ended handle starts nothing. -/
theorem dropUnused_ended_alone {h : Nat} {W : World → Prop}
    (hW : ∀ s s', World.SameStores s s' → W s → W s') :
    Alone World.host t (fun b => W b.state ∧ (b.state.handle h).state = .rolledBack)
      (dropUnused h) fun _ b => W b.state ∧ (b.state.handle h).state = .rolledBack := by
  unfold dropUnused
  refine Alone.bind (Alone.get_world fun s => W s ∧ (s.handle h).state = .rolledBack)
    fun w => Alone.of_fact fun hw => ?_
  rw [if_neg (by simp [Handle.isOpen, hw.2])]
  exact Alone.pure_of fun b hb => by rw [hb]; exact ⟨hW w _ (.clearWakes w) hw.1, hw.2⟩

/-- A new enlistment of manager `m`, over the HTTP transport, in a host-driven unit that refuses
it: the begin fails as a coordination failure, no enlistment is registered and the handle made
is closed locally. The store is not put back as it was: it holds for the key what the removal
of the descriptor just saved leaves, none when the removal succeeds, and that descriptor, with
no location, when the removal fails. -/
theorem enlistNew_refused_store {m i : Nat} {unitId : Uuid} {version : ServerVersion}
    {database : String} {e : TxError} (s : World) (hb : (s.manager m).backend = .http)
    (hk : (s.manager m).config.keepAliveInterval = none) (hsave : storeFault s m (·.save) = none)
    (hf : (s.manualUnit i).failNext = some e) :
    let d : Descriptor :=
      { rm := (s.manager m).config.resourceManager, uow := unitId, config := (s.manager m).config,
        transport := .http, version, database, location := none, recordedAt := stamp }
    Alone World.host t (fun b => b.state = s) (enlistNew m (.manual i) unitId version database).run
      fun r b => (∃ msg, r = .error (.coordination msg)) ∧ b.state.managers = s.managers ∧
        (b.state.handle s.handles.size).state = .rolledBack ∧
        ledgerOf b.state m =
          if storeFault s m (·.remove) = none then (((ledgerOf s m).save d).remove d.rm unitId).2
          else (ledgerOf s m).save d := by
  intro d
  unfold enlistNew
  refine Alone.run_bind _ (newHandle_http_alone s hb hk) (fun h => Alone.of_fact fun hh => ?_)
    fun _ _ hb' => by cases hb'.1
  cases hh
  generalize hs₁ : ({ s with
      handles := s.handles.push
        { id := handleId s.handles.size, database, link := .http m (s.manager m).config version }
      wakes := [] } : World) = s₁
  -- what the world with the new handle keeps of `s`, and the handle it adds
  have hstores₁ : World.SameStores s s₁ := by rw [← hs₁]; exact ⟨rfl, rfl, rfl, rfl⟩
  have hmgr₁ : s₁.manager m = s.manager m := by rw [← hs₁]; rfl
  have hunits₁ : s₁.manualUnits = s.manualUnits := by rw [← hs₁]
  have hlt₁ : s.handles.size < s₁.handles.size := by rw [← hs₁]; simp
  have hnew₁ : s₁.handle s.handles.size =
      { id := handleId s.handles.size, database, link := .http m (s.manager m).config version } := by
    rw [← hs₁]; simp [World.handle]
  have hd : descriptorFor s₁ m s.handles.size unitId version = d := by
    simp only [descriptorFor, hmgr₁, hnew₁]
    rfl
  refine Alone.run_liftM_bind (Alone.get_world (· = s₁)) fun w => Alone.of_fact fun hw => ?_
  subst hw
  rw [hd]
  -- the descriptor is saved
  have hsave₁ : storeFault { w with wakes := [] } m (·.save) = none := (hstores₁.storeFault m _).trans hsave
  refine Alone.run_attempt_bind (storeSave_writes m d { w with wakes := [] } hsave₁) fun r =>
    Alone.of_fact fun hr => ?_
  subst hr
  generalize hs₂ : ({ setLedger { w with wakes := [] } m ((ledgerOf { w with wakes := [] } m).save d)
    with wakes := [] } : World) = s₂
  have hhandles₂ : s₂.handles = w.handles := by rw [← hs₂]; exact handles_setLedger _ _ _
  have hfail₂ : (s₂.manualUnit i).failNext = some e := by
    rw [← hs₂]
    simp only [World.manualUnit, manualUnits_setLedger]
    rw [hunits₁]
    exact hf
  -- the adapter is added, and the unit refuses it
  refine Alone.run_liftM_bind (Alone.modifyGet_world (W := (· = s₂))
    (Q := fun _ b => (World.SameStores s₂ b.state ∧ b.state.handles = s₂.handles) ∧
      (b.state.manualUnit i).failNext = some e)
    fun _ hx b hb => by subst hx; rw [hb]; exact ⟨⟨⟨rfl, rfl, rfl, rfl⟩, rfl⟩, hfail₂⟩) fun a => ?_
  refine Alone.run_attempt_bind (enlistManual_refused_alone
    (W := fun x => World.SameStores s₂ x ∧ x.handles = s₂.handles)
    fun _ _ hs hh hx => ⟨hx.1.trans hs, hh.trans hx.2⟩) fun r => Alone.of_fact fun hr => ?_
  subst hr
  -- the handle made is still open with no address: it is closed locally
  refine Alone.run_liftM_bind ((abandonLocally_unbegun_alone (m := m) (c := (s.manager m).config)
    (v := version) (W := World.SameStores s₂) fun _ _ h' hx => hx.trans h').pre fun b hb => ?_)
    fun closed => Alone.of_fact fun hclosed => ?_
  · have hh : b.state.handles = w.handles := hb.2.trans hhandles₂
    rw [handle_of_handles hh, hnew₁, hh]
    exact ⟨hb.1, hlt₁, rfl, rfl, rfl⟩
  subst hclosed
  refine Alone.run_liftM_bind (Alone.get_world fun x => World.SameStores s₂ x ∧
    (x.handle s.handles.size).state = .rolledBack) fun v => Alone.of_fact fun hv => ?_
  rw [if_neg (by simp)]
  -- the world the removal starts from: the store with the descriptor saved
  have hfault : storeFault { v with wakes := [] } m (·.remove) = storeFault s m (·.remove) := by
    refine (hv.1.storeFault m _).trans ?_
    rw [← hs₂]
    exact (storeFault_setLedger _ _ _ _ _).trans (hstores₁.storeFault m _)
  have hledger : ledgerOf { v with wakes := [] } m = (ledgerOf s m).save d := by
    rw [ledgerOf_clearWakes, hv.1.ledgerOf, ← hs₂, ledgerOf_clearWakes, ledgerOf_setLedger,
      ledgerOf_clearWakes, hstores₁.ledgerOf]
  have hmanagers : v.managers = s.managers := by
    rw [hv.1.managers, ← hs₂]
    exact (managers_setLedger _ _ _).trans hstores₁.managers
  dsimp only
  refine Alone.run_attempt_bind (storeRemove_leaves m d.rm unitId { v with wakes := [] }) fun r => ?_
  refine Alone.run_liftM_bind ((dropUnused_ended_alone (W := fun x => (ledgerOf x m =
      if storeFault s m (·.remove) = none then (((ledgerOf s m).save d).remove d.rm unitId).2
      else (ledgerOf s m).save d) ∧ x.managers = s.managers)
    fun _ _ hs hx => ⟨(hs.ledgerOf m).trans hx.1, hs.managers.trans hx.2⟩).pre fun b hb => ?_)
    fun _ => ?_
  · obtain ⟨hh, hm, -, hl⟩ := hb
    rw [hfault, hledger] at hl
    exact ⟨⟨hl, hm.trans hmanagers⟩, (congrArg Handle.state (handle_of_handles hh _)).trans hv.2⟩
  -- either way the begin fails as a coordination failure
  cases e with
  | coordination msg => exact Alone.run_throw fun b hb => ⟨⟨msg, rfl⟩, hb.1.2, hb.2, hb.1.1⟩
  | _ => exact Alone.run_throw fun b hb => ⟨⟨_, rfl⟩, hb.1.2, hb.2, hb.1.1⟩

/-- A unit told to refuse, with a store whose removals fail: the store keeps the descriptor
saved for the refused enlistment, which has no location. -/
theorem refused_enlistment_keeps_saved_descriptor :
    let s : World :=
      { managers := #[default]
        manualUnits := #[{ id := ⟨7⟩, failNext := some (.coordination "refused") }]
        faults := { remove := some "disk full" } }
    let d : Descriptor :=
      { rm := (s.manager 0).config.resourceManager, uow := ⟨9⟩, config := (s.manager 0).config,
        transport := .http, version := ⟨5, 13, 0⟩, database := "neo4j", location := none,
        recordedAt := stamp }
    ((s.manager 0).backend = .http ∧ (s.manager 0).config.keepAliveInterval = none ∧
      storeFault s 0 (·.save) = none ∧ (s.manualUnit 0).failNext = some (.coordination "refused")) ∧
    Alone World.host 0 (fun b => b.state = s) (enlistNew 0 (.manual 0) ⟨9⟩ ⟨5, 13, 0⟩ "neo4j").run
      fun r b => (∃ msg, r = .error (.coordination msg)) ∧ (b.state.handle 0).state = .rolledBack ∧
        ledgerOf b.state 0 = (ledgerOf s 0).save d := by
  intro s d
  have hb : (s.manager 0).backend = .http := rfl
  have hk : (s.manager 0).config.keepAliveInterval = none := rfl
  have hsave : storeFault s 0 (·.save) = none := rfl
  have hf : (s.manualUnit 0).failNext = some (.coordination "refused") := rfl
  have hremove : storeFault s 0 (·.remove) ≠ none := by decide
  refine ⟨⟨hb, hk, hsave, hf⟩, (enlistNew_refused_store s hb hk hsave hf).post fun _ _ hr => ?_⟩
  exact ⟨hr.1, hr.2.2.1, hr.2.2.2.trans (if_neg hremove)⟩

end Alone

end TxnCoord
