import TxnCoord.Proofs.Transaction.RolledBack
/-!
# Code on one handle among code that keeps a promise

Under `failureRules h L` the rest of the program may move handle `h` in any way its life
allows: while an operation waits, another one may give an unbegun handle its address. Some
facts hold only where the rest of the program promises more, for instance that no operation
begins the handle. `guardRules h R L` are the rules for code on handle `h` among code that
keeps promise `R`: what happens while the code waits moves the world as `World.Settles h` and
`R` allow, and every step of the code keeps both and is one that `L` allows.

A promise is kept by every quiet step (`World.Promise`), so the scheduler's own bookkeeping
keeps it (`World.host_keeps_guardRules`). The steps that leave the handle quiet and the log as
it was get one lemma each here, and ask `L` only of such steps. The steps that end the handle,
give it an address or send are met in the proofs of each operation, where the code knows
enough to discharge `R` and `L`.
-/

namespace TxnCoord

/-- A promise about handle `h`: a relation on worlds that every quiet step keeps, and that
composes. -/
structure World.Promise (h : Nat) (R : World → World → Prop) : Prop where
  quiet : ∀ s s', World.Quiet h s s' → R s s'
  trans : ∀ a b c, R a b → R b c → R a c

/-- The rules for code on handle `h` among code that keeps promise `R`: the world changes only
as `World.Settles h` and `R` allow, the bookkeeping touches only the handle's watchers, and
every step of the code keeps both and is one that `L` allows. -/
def guardRules (h : Nat) (R L : World → World → Prop) : Rules World Cond where
  rely s s' := World.Settles h s s' ∧ R s s'
  sched := World.OnlyWatchers h
  guar s s' := (World.Settles h s s' ∧ R s s') ∧ L s s'
  woken _ _ := True

namespace World

variable {h : Nat} {R : World → World → Prop}

theorem Promise.refl (hR : Promise h R) (s : World) : R s s :=
  hR.quiet s s (OnlyWatchers.refl s).quiet

/-- Giving back what an owner held leaves every handle quiet. -/
theorem quiet_releaseOwner (w : World) (o : Nat) : Quiet h w (w.releaseOwner o) := by
  have hlink : ((w.releaseOwner o).handle h).link = (w.handle h).link :=
    rel_releaseOwner (fun w w' => (w'.handle h).link = (w.handle h).link) (fun _ _ => rfl)
      (fun _ _ _ h₁ h₂ => h₂.trans h₁) (fun w x => (w.turnsAdvance_give h x).1) w o
  have hframe : (w.releaseOwner o).adapters = w.adapters ∧ (w.releaseOwner o).log = w.log :=
    rel_releaseOwner (fun w w' => w'.adapters = w.adapters ∧ w'.log = w.log) (fun _ _ => ⟨rfl, rfl⟩)
      (fun _ _ _ h₁ h₂ => ⟨h₂.1.trans h₁.1, h₂.2.trans h₁.2⟩) (fun w x => w.give_frame x) w o
  exact ⟨w.sameLife_releaseOwner o h, hlink, hframe.1, hframe.2 ▸ List.prefix_refl _⟩

end World

theorem guardRules_lawful {h : Nat} {R L : World → World → Prop} (hR : World.Promise h R)
    (hL : ∀ s, L s s) : (guardRules h R L).Lawful where
  rely_refl s := ⟨World.Settles.refl s, hR.refl s⟩
  rely_trans _ _ _ h₁ h₂ := ⟨h₁.1.trans h₂.1, hR.trans _ _ _ h₁.2 h₂.2⟩
  sched_refl := World.OnlyWatchers.refl
  sched_trans _ _ _ := World.OnlyWatchers.trans
  guar_refl s := ⟨⟨World.Settles.refl s, hR.refl s⟩, hL s⟩
  sched_rely _ _ hw := ⟨hw.quiet.settles, hR.quiet _ _ hw.quiet⟩
  guar_rely _ _ hg := hg.1

/-- What every wait keeps, a quiet step keeps. -/
theorem Stable.of_guarded {h : Nat} {R L : World → World → Prop} {P : World → Prop}
    (hR : World.Promise h R) (hP : Stable (guardRules h R L).rely P) : Stable (World.Quiet h) P :=
  fun _ _ hp hq => hP _ _ hp ⟨hq.settles, hR.quiet _ _ hq⟩

/-- Being an HTTP handle survives every wait. -/
theorem stable_isHttp_guarded {h : Nat} {R L : World → World → Prop} :
    Stable (guardRules h R L).rely (IsHttp h) :=
  fun _ _ hs hr => stable_isHttp _ _ hs hr.1

/-- The scheduler keeps every promise: its bookkeeping is the same as under `failureRules`, and
what it gives back leaves the handle quiet. -/
theorem World.host_keeps_guardRules {h : Nat} {R : World → World → Prop} (hR : World.Promise h R)
    (L : World → World → Prop) : World.host.Keeps (guardRules h R L) :=
  have hf := World.host_keeps_failureRules h L
  { listen := hf.listen
    forget := hf.forget
    release := fun o s => ⟨s.settles_releaseOwner o, hR.quiet _ _ (s.quiet_releaseOwner o)⟩
    takeWakes := hf.takeWakes
    fresh := hf.fresh
    enter := hf.enter
    spawned := hf.spawned
    holds := fun _ _ _ => trivial }

/-- A handle read open stays open through the scheduler's bookkeeping. -/
theorem World.OnlyWatchers.open_of_ok {h : Nat} {w s : World} {u : Unit}
    (hw : World.OnlyWatchers h w s) (hok : (w.handle h).state.ensureOpen = .ok u) :
    (s.handle h).state = .open :=
  hw.quiet.state.trans ((TxState.ensureOpen_ok_iff _).1 hok)

/-- Refusing a transaction that is not open calls it closed. -/
theorem TxState.ensureOpen_closed {st : TxState} {x : TxError} (hx : st.ensureOpen = .error x) :
    ∃ m, x = .closed m := by
  cases st <;> cases hx <;> exact ⟨_, rfl⟩

namespace Transaction

section Waits

variable {h : Nat} {R L : World → World → Prop} {P : World → Prop}

theorem await_guarded (hP : Stable (guardRules h R L).rely P) (w : Await Cond) :
    Triple (guardRules h R L) P (Async.await w) (fun _ => P) :=
  (Triple.await w).post fun _ _ hs => After.of_stable hP hs.1

end Waits

section Guarded

variable {h : Nat} {R L : World → World → Prop} {P : World → Prop} {α : Type}
  (hR : World.Promise h R) (hL : ∀ s s', World.Quiet h s s' → s'.log = s.log → L s s')
include hR hL

/-- A quiet step that keeps the log keeps to the rules. -/
theorem guar_of_quiet {s s' : World} (hq : World.Quiet h s s') (hlog : s'.log = s.log) :
    (guardRules h R L).guar s s' :=
  ⟨⟨hq.settles, hR.quiet _ _ hq⟩, hL _ _ hq hlog⟩

theorem guarded_lawful : (guardRules h R L).Lawful :=
  guardRules_lawful hR fun s => hL s s (World.OnlyWatchers.refl s).quiet rfl

theorem change_guarded {f : World → World} (hf : ∀ s, World.Quiet h s (f s))
    (hlog : ∀ s, (f s).log = s.log) (hP : Stable (World.Quiet h) P) :
    Triple (guardRules h R L) P (Step.change f) (fun _ => P) :=
  (Triple.modify fun s _ => guar_of_quiet hR hL (hf s) (hlog s)).post fun _ _ ⟨s, hs, hw⟩ =>
    hP _ _ (hP _ _ hs (hf s)) hw.quiet

theorem modifyGet_guarded {f : World → α × World} (hf : ∀ s, World.Quiet h s (f s).2)
    (hlog : ∀ s, (f s).2.log = s.log) (hP : Stable (World.Quiet h) P) :
    Triple (guardRules h R L) P (MonadStateOf.modifyGet f : Step α) (fun _ => P) :=
  (Triple.modifyGet fun s _ => guar_of_quiet hR hL (hf s) (hlog s)).post fun _ _ ⟨s, hs, _, hw⟩ =>
    hP _ _ (hP _ _ hs (hf s)) hw.quiet

theorem read_guarded (hP : Stable (World.Quiet h) P) :
    Triple (guardRules h R L) P Step.read (fun _ => P) :=
  (Triple.get (guarded_lawful hR hL)).post fun _ _ ⟨hp, hs⟩ => hP _ _ hp hs.quiet

theorem issue_guarded (hP : Stable (World.Quiet h) P) (i : Nat) :
    Triple (guardRules h R L) P (Step.issue i) (fun _ => P) := by
  refine modifyGet_guarded hR hL (fun s => ?_) (fun _ => rfl) hP
  simp only [Sequencer.issue]
  apply World.Quiet.hold
  exact World.quiet_modifyHandle s i fun _ => ⟨rfl, rfl⟩

theorem finishTicket_guarded (hP : Stable (World.Quiet h) P) (i n : Nat) :
    Triple (guardRules h R L) P (Step.finishTicket i n) (fun _ => P) :=
  change_guarded hR hL (fun s => (World.quiet_unhold s _).trans (World.quiet_releaseTicket _ i n))
    (fun s => s.log_unhold _) hP

theorem beginPending_guarded (hP : Stable (World.Quiet h) P) (i : Nat) :
    Triple (guardRules h R L) P (Step.beginPending i) (fun _ => P) := by
  refine change_guarded hR hL (fun s => ?_) (fun _ => rfl) hP
  apply World.Quiet.hold
  exact World.quiet_modifyHandle s i fun _ => ⟨rfl, rfl⟩

theorem endPending_guarded (hP : Stable (World.Quiet h) P) (i : Nat) :
    Triple (guardRules h R L) P (Step.endPending i) (fun _ => P) := by
  refine change_guarded hR hL (fun s => (World.quiet_unhold s (.pending i)).trans ?_)
    (fun s => s.log_unhold _) hP
  exact World.quiet_modifyHandle _ i fun _ => ⟨rfl, rfl⟩

end Guarded

end Transaction

namespace Manager

section Guarded

variable {h : Nat} {R L : World → World → Prop} {Q : World → Prop}
  (hR : World.Promise h R) (hL : ∀ s s', World.Quiet h s s' → s'.log = s.log → L s s')
include hR hL

/-- Taking a scope off its stack leaves the handles, the adapters and the log alone, and no
record changes its handle. -/
theorem retire_guarded (hQ : Stable (World.Quiet h) Q) {h' : Nat} (ctx r : Nat) :
    Triple (guardRules h R L) (fun s => Q s ∧ (s.record r).handle = some h') (retire ctx r)
      (fun _ s => Q s ∧ (s.record r).handle = some h') := by
  unfold retire
  refine (Triple.modifyGet fun s _ => ?_).post fun _ s' ⟨s, hs, _, hw⟩ => ?_
  · split
    · exact Transaction.guar_of_quiet hR hL (World.OnlyWatchers.refl s).quiet rfl
    · exact Transaction.guar_of_quiet hR hL (World.Quiet.of_handles rfl rfl rfl) rfl
  · split at hw <;> dsimp only at hw
    · exact ⟨hQ _ _ hs.1 hw.quiet, (congrArg ScopeRecord.handle (hw.record r)).trans hs.2⟩
    · refine ⟨hQ _ _ (hQ _ _ hs.1 (World.Quiet.of_handles ?_ ?_ ?_)) hw.quiet, ?_⟩
      · rfl
      · rfl
      · rfl
      rw [hw.record r, World.record_modifyContext]
      refine (World.handle_record_modifyRecord s r r fun _ => ?_).trans hs.2
      rfl

end Guarded

end Manager

namespace Ambient

section Guarded

variable {h : Nat} {R L : World → World → Prop} {Q : World → Prop}
  (hR : World.Promise h R) (hL : ∀ s s', World.Quiet h s s' → s'.log = s.log → L s s')
include hR hL

theorem storeRemove_guarded (hQ : Stable (World.Quiet h) Q) (m : Nat) (rm uow : Uuid) :
    Triple (guardRules h R L) Q (storeRemove m rm uow).run (fun _ => Q) := by
  unfold storeRemove
  refine Triple.run_get_bind (Transaction.guarded_lawful hR hL) fun w hw => ?_
  have hread : ∀ s, Q w ∧ World.OnlyWatchers h w s → Q s := fun s hs => hQ _ _ hs.1 hs.2.quiet
  extract_lets jp
  have hjp : ∀ u, Triple (guardRules h R L) (fun s => Q w ∧ World.OnlyWatchers h w s) (jp u).run
      (fun _ => Q) := by
    intro u
    dsimp only [jp]
    exact Triple.run_liftM_bind ((Transaction.change_guarded hR hL (fun s => quiet_setLedger s _ _)
      (fun s => log_setLedger s _ _) hQ).pre hread) fun _ => Triple.run_pure fun _ hs => hs
  split
  · exact Triple.run_throw_bind hread
  · exact hjp ()

theorem storeLoad_guarded (hQ : Stable (World.Quiet h) Q) (m : Nat) (rm uow : Uuid) :
    Triple (guardRules h R L) Q (storeLoad m rm uow).run (fun _ => Q) := by
  unfold storeLoad
  refine Triple.run_get_bind (Transaction.guarded_lawful hR hL) fun w hw => ?_
  have hread : ∀ s, Q w ∧ World.OnlyWatchers h w s → Q s := fun s hs => hQ _ _ hs.1 hs.2.quiet
  split
  · exact Triple.run_throw_bind hread
  · exact Triple.run_pure hread

theorem storeSave_guarded (hQ : Stable (World.Quiet h) Q) (m : Nat) (d : Recovery.Descriptor) :
    Triple (guardRules h R L) Q (storeSave m d).run (fun _ => Q) := by
  unfold storeSave
  refine Triple.run_get_bind (Transaction.guarded_lawful hR hL) fun w hw => ?_
  have hread : ∀ s, Q w ∧ World.OnlyWatchers h w s → Q s := fun s hs => hQ _ _ hs.1 hs.2.quiet
  split
  · exact Triple.run_throw_bind hread
  · exact Triple.run_liftM ((Transaction.change_guarded hR hL (fun s => quiet_setLedger s _ _)
      (fun s => log_setLedger s _ _) hQ).pre hread)

/-- Rewriting a descriptor touches only the store. -/
theorem refreshDescriptor_guarded (hQ : Stable (World.Quiet h) Q) (a : Nat) :
    Triple (guardRules h R L) Q (refreshDescriptor a).run (fun _ => Q) := by
  unfold refreshDescriptor
  refine Triple.run_liftM_bind (Transaction.read_guarded hR hL hQ) fun w => ?_
  refine Triple.run_bind (fun _ => Q) (storeLoad_guarded hR hL hQ _ _ _) (fun d => ?_)
    fun _ _ hs => hs
  split
  · exact Triple.run_throw fun _ hs => hs
  · exact Triple.run_liftM_bind (Transaction.read_guarded hR hL hQ) fun _ =>
      storeSave_guarded hR hL hQ _ _

/-- Completing an enlistment touches only the registry and the store. -/
theorem complete_guarded (hQ : Stable (World.Quiet h) Q) (a : Nat) (keep : Bool) :
    Triple (guardRules h R L) Q (complete a keep) (fun _ => Q) := by
  unfold complete
  refine Triple.bind (Transaction.read_guarded hR hL hQ) fun w => ?_
  refine Triple.bind (Transaction.change_guarded hR hL (fun s => World.Quiet.of_handles rfl rfl rfl)
    (fun s => rfl) hQ) fun _ => ?_
  split
  · exact Triple.bind (storeRemove_guarded hR hL hQ _ _ _) fun _ => Triple.pure_of fun _ hs => hs
  · exact Triple.pure_of fun _ hs => hs

end Guarded

end Ambient

end TxnCoord
