import TxnCoord.Proofs.Manager.Nesting
import TxnCoord.Proofs.Transaction.Life
/-!
# How scopes end

A scope either owns its transaction or shares one that another scope or a unit of work
owns, and that decides what ending it does.

* Ending a scope that owns nothing (by `finishScope`, `dropScope` or `endTransaction`)
  changes no transaction's state and sends nothing, and its commit only checks that the
  transaction is open (`calmRules Untouched`).
* Ending the owner of an open transaction, with no other operation on it, rolls it back.
  If it never began, nothing is sent. Otherwise exactly one request goes out, the
  transaction's rollback request. `finishScope` runs the rollback itself, and `dropScope`
  starts a task that runs it. These statements are about the scheduler's run of the
  ending task alone (`Alone`), so that the requests can be counted; they come with the
  rollback's steps, in `Manager/Requests`.
* A rollback through any scope leaves the shared transaction ended, so every scope on it
  reports it closed. This holds under any interleaving in which no transaction reopens
  (`endRules`).
* The operations of a scope on one transaction never touch another one. A scope that
  requires a new transaction gets a handle of its own, so its operations leave the
  transactions of the scopes around it alone (`calmRules (Spares h)`).
* A suppressed scope has no transaction. Its commit, rollback and keep-alive fail as
  invalid, and each step they take changes nothing.
-/

namespace TxnCoord

open Transaction Manager

/-! ## Rules for code whose steps follow no wait -/

/-- Rules under which nothing is known across a wait, the scheduler's bookkeeping between
two steps keeps the books (`World.Calm`), and every step is one that `G` allows. -/
def calmRules (G : World → World → Prop) : Rules World Cond :=
  ⟨fun _ _ => True, World.Calm, G, fun _ _ => True⟩

theorem calmRules_lawful {G : World → World → Prop} (hG : ∀ s, G s s) : (calmRules G).Lawful where
  rely_refl _ := trivial
  rely_trans _ _ _ _ _ := trivial
  sched_refl := World.Calm.refl
  sched_trans _ _ _ := World.Calm.trans
  guar_refl := hG
  sched_rely _ _ _ := trivial
  guar_rely _ _ _ := trivial

/-- The scheduler keeps the books between two steps of a task, whatever `G` is. -/
theorem World.host_keeps_calmRules (G : World → World → Prop) : World.host.Keeps (calmRules G) where
  listen := World.host_keeps_nestRules.listen
  forget := World.host_keeps_nestRules.forget
  release _ _ := trivial
  takeWakes := World.host_keeps_nestRules.takeWakes
  fresh := World.host_keeps_nestRules.fresh
  enter := World.host_keeps_nestRules.enter
  spawned := World.host_keeps_nestRules.spawned
  holds _ _ _ := trivial

/-- A step that changes no transaction's state and sends nothing. -/
def Untouched (s s' : World) : Prop := s.SameState s' ∧ s'.log = s.log

theorem untouched_of_handles {s s' : World} (hh : s'.handles = s.handles) (hl : s'.log = s.log) :
    Untouched s s' :=
  ⟨(World.SameLife.of_handles hh).sameState, hl⟩

/-! ## Taking a scope off its stack -/

/-- Marking a record ended keeps what every record says of its transaction. -/
theorem claims_modifyRecord_ended (w : World) (i j : Nat) :
    ((w.modifyRecord i fun x => { x with ended := true }).record j).handle = (w.record j).handle ∧
      ((w.modifyRecord i fun x => { x with ended := true }).record j).owner = (w.record j).owner := by
  simp only [World.record, World.modifyRecord, Array.getElem?_modify]
  split <;> cases w.records[j]? <;> simp

section Retire

variable {G : World → World → Prop} (hG : ∀ s s', s'.handles = s.handles → s'.log = s.log → G s s')
include hG

/-- Taking a scope off its stack touches no handle and sends nothing, and the scope's record
still names its transaction and whether it owns it. -/
theorem retire_claims (ctx r : Nat) (C : Option Nat → Bool → Prop) :
    Triple (calmRules G) (fun s => C (s.record r).handle (s.record r).owner) (retire ctx r)
      (fun _ s => C (s.record r).handle (s.record r).owner) := by
  unfold retire
  refine (Triple.modifyGet fun s _ => ?_).post fun _ s' hq => ?_
  · split <;> exact hG _ _ rfl rfl
  · obtain ⟨s, hs, _, hsched⟩ := hq
    rw [hsched.record]
    split
    · exact hs
    · rw [World.record_modifyContext]
      obtain ⟨hh, ho⟩ := claims_modifyRecord_ended s r r
      rw [hh, ho]
      exact hs

end Retire

/-! ## Scopes that own nothing -/

section Untouched

theorem untouched_refl (s : World) : Untouched s s := ⟨fun _ => rfl, rfl⟩

theorem untouched_lawful : (calmRules Untouched).Lawful := calmRules_lawful untouched_refl

/-- Ending a scope that owns nothing changes no transaction's state and sends nothing. -/
theorem finishScope_untouched (ctx r : Nat) (x : Option Nat) :
    Triple (calmRules Untouched) (fun s => (s.record r).handle = x ∧ (s.record r).owner = false)
      (finishScope ctx r).run (fun res _ => res = .ok ()) := by
  unfold finishScope
  refine Triple.run_liftM_bind (retire_claims (fun _ _ => untouched_of_handles) ctx r
    fun x' o => x' = x ∧ o = false) fun b => ?_
  split
  · exact Triple.run_pure fun _ _ => rfl
  refine Triple.run_get_bind untouched_lawful fun w hw => ?_
  dsimp only
  split
  · refine Triple.run_get_bind untouched_lawful fun w' _ => ?_
    rw [hw.2, Bool.false_and, if_neg Bool.false_ne_true]
    exact Triple.run_pure fun _ _ => rfl
  · exact Triple.run_pure fun _ _ => rfl

/-- Dropping a scope that owns nothing changes no transaction's state, sends nothing and
starts no task. -/
theorem dropScope_untouched (ctx r : Nat) (x : Option Nat) :
    Triple (calmRules Untouched) (fun s => (s.record r).handle = x ∧ (s.record r).owner = false)
      (dropScope ctx r) (fun _ _ => True) := by
  unfold dropScope
  refine Triple.bind (retire_claims (fun _ _ => untouched_of_handles) ctx r
    fun x' o => x' = x ∧ o = false) fun b => ?_
  split
  · exact Triple.pure_of fun _ _ => trivial
  refine Triple.bind (Triple.get untouched_lawful) fun w => Triple.of_fact fun hw => ?_
  dsimp only
  split
  · refine Triple.bind (Triple.get untouched_lawful) fun w' => ?_
    rw [hw.2, Bool.not_false, Bool.true_or, if_pos rfl]
    exact Triple.pure_of fun _ _ => trivial
  · exact Triple.pure_of fun _ _ => trivial

/-- Finding the stack of running code touches no handle and sends nothing, and keeps the
books. -/
theorem contextOf_untouched (m : Nat) {P : World → Prop}
    (hP : ∀ s s', P s → World.Calm s s' → P s') :
    Triple (calmRules Untouched) P (contextOf m) (fun _ => P) := by
  unfold contextOf
  refine Triple.bind (Triple.get untouched_lawful) fun w => ?_
  have hw : ∀ s, P w ∧ World.Calm w s → P s := fun s h => hP _ _ h.1 h.2
  split
  · exact Triple.pure_of hw
  · split
    · exact Triple.pure_of hw
    · split
      · exact Triple.pure_of hw
      · -- a new, empty stack, noted for the task
        refine (Triple.modifyGet fun s _ => show Untouched _ _ from
          ⟨fun i => ((World.Calm.stackFor s m _).handle i).1, rfl⟩).post ?_
        rintro _ s' ⟨s, hs, -, hsched⟩
        exact hP _ _ (hw s hs) ((World.Calm.stackFor s m _).trans hsched)

/-- The innermost scope of every stack owns no transaction. -/
def NoOwnerOnTop (s : World) : Prop := ∀ c r, topOf s c = some r → (s.record r).owner = false

theorem NoOwnerOnTop.calm {s s' : World} (h : NoOwnerOnTop s) (hc : World.Calm s s') :
    NoOwnerOnTop s' := by
  intro c r hr
  rw [hc.record]
  exact h c r (by rw [← hc.topOf]; exact hr)

/-- Ending the innermost scope of a stack in which none owns a transaction changes no
transaction's state and sends nothing. -/
theorem endTransaction_untouched (m : Nat) :
    Triple (calmRules Untouched) NoOwnerOnTop (endTransaction m).run (fun res _ => res = .ok ()) := by
  unfold endTransaction
  refine Triple.run_liftM_bind (contextOf_untouched m fun _ _ h hc => h.calm hc) fun ctx => ?_
  refine Triple.run_get_bind untouched_lawful fun w hw => ?_
  split
  · rename_i r hr
    exact (finishScope_untouched ctx r (w.record r).handle).pre fun s hs => by
      rw [hs.2.record]
      exact ⟨rfl, hw r |> fun _ => hw ctx r hr⟩
  · exact Triple.run_pure fun _ _ => rfl

end Untouched

/-! ## The transaction of a scope -/

/-- What a scope with no transaction says when asked to act on one. -/
def suppressedRefusal (action : String) : TxError :=
  .invalid ("cannot " ++ action ++ ": no transaction is active in suppressed mode")

section ActiveHandle

variable {ρ : Rules World Cond} (hρ : ρ.Lawful) {P : World → Prop}
  (hP : ∀ s s', P s → ρ.sched s s' → P s')
include hρ hP

/-- A scope's transaction for an action is the handle its record names; a scope with none
refuses the action as invalid. It only reads, so what the scheduler keeps stays true. -/
theorem activeHandle_spec (r : Nat) (action : String) (x : Option Nat) :
    Triple ρ (fun s => P s ∧ (s.record r).handle = x) (activeHandle r action).run
      (fun res s => P s ∧ (∀ h, x = some h → res = .ok h) ∧
        (x = none → res = .error (suppressedRefusal action))) := by
  unfold activeHandle
  refine Triple.run_get_bind hρ fun w hw => ?_
  have hs : ∀ s, (P w ∧ (w.record r).handle = x) ∧ ρ.sched w s → P s :=
    fun s h => hP _ _ h.1.1 h.2
  split
  · rename_i h hh
    rw [hw.2] at hh
    subst hh
    refine Triple.run_pure fun s h' => ⟨hs s h', fun _ he => ?_, fun he => by cases he⟩
    cases he
    rfl
  · rename_i hh
    rw [hw.2] at hh
    subst hh
    exact Triple.run_throw fun s h' => ⟨hs s h', (fun _ he => by cases he), fun _ => rfl⟩

end ActiveHandle

/-- Committing a scope that owns nothing only checks that the transaction is open: it
succeeds when it is and fails as closed otherwise, changes no transaction's state and sends
nothing. -/
theorem scopeCommit_untouched (r h : Nat) :
    Triple (calmRules Untouched) (fun s => (s.record r).handle = some h ∧ (s.record r).owner = false)
      (scopeCommit r).run (fun res s => res = (s.handle h).state.ensureOpen) := by
  unfold scopeCommit
  have hP : ∀ s s', (s.record r).owner = false → World.Calm s s' → (s'.record r).owner = false :=
    fun _ _ ho hc => by rw [hc.record]; exact ho
  refine Triple.run_bind _ ((activeHandle_spec (calmRules_lawful untouched_refl) hP r "commit" (some h)).pre
    fun _ hs => ⟨hs.2, hs.1⟩) (fun h' => ?_) fun _ _ hs => by cases hs.2.1 h rfl
  refine Triple.of_pre_fact (fun _ hs => hs.2.1 h rfl) fun hh => ?_
  cases hh
  refine Triple.run_get_bind untouched_lawful fun w hw => ?_
  rw [hw.1, if_neg Bool.false_ne_true]
  exact Triple.run_ofExcept fun s hs => by rw [(hs.2.handle h).1]

/-! ## Scopes with no transaction -/

section Suppressed

/-- A step that changes nothing. -/
def Unchanged (s s' : World) : Prop := s' = s

theorem unchanged_refl (s : World) : Unchanged s s := rfl

/-- A scope with no transaction refuses `action` as invalid, and no step changes anything. -/
theorem activeHandle_suppressed {α : Type} (r : Nat) (action : String) (f : Nat → Tx α) :
    Triple (calmRules Unchanged) (fun s => (s.record r).handle = none)
      (activeHandle r action >>= f).run (fun res _ => res = .error (suppressedRefusal action)) := by
  refine Triple.run_bind _ ((activeHandle_spec (calmRules_lawful unchanged_refl) (fun _ _ _ _ => trivial) r action
    none).pre fun _ hs => ⟨trivial, hs⟩) (fun h => ?_) fun _ _ hs => by cases hs.2.2 rfl; rfl
  -- a scope with no transaction never hands one over
  refine Triple.of_pre_fact (fun _ hs => ?_) fun hf : False => hf.elim
  cases hs.2.2 rfl

/-- A suppressed scope's commit, rollback and keep-alive fail as invalid, and none of their
steps changes anything. -/
theorem scopeCommit_suppressed (r : Nat) :
    Triple (calmRules Unchanged) (fun s => (s.record r).handle = none) (scopeCommit r).run
      (fun res _ => res = .error (suppressedRefusal "commit")) :=
  activeHandle_suppressed r "commit" _

theorem scopeRollback_suppressed (r : Nat) :
    Triple (calmRules Unchanged) (fun s => (s.record r).handle = none) (scopeRollback r).run
      (fun res _ => res = .error (suppressedRefusal "roll back")) :=
  activeHandle_suppressed r "roll back" _

theorem scopeKeepAlive_suppressed (r : Nat) :
    Triple (calmRules Unchanged) (fun s => (s.record r).handle = none) (scopeKeepAlive r).run
      (fun res _ => res = .error (suppressedRefusal "keep alive")) :=
  activeHandle_suppressed r "keep alive" _

end Suppressed

/-! ## A rollback through any scope -/

/-- Rules under which no transaction reopens and no handle goes away: every step, and
whatever happens while code waits, lets every handle's life move on, so an ended transaction
stays ended, and keeps every handle; the bookkeeping between two steps changes no life. -/
def endRules : Rules World Cond :=
  ⟨fun s s' => s.Evolves s' ∧ s.handles.size ≤ s'.handles.size,
    fun s s' => s.SameLife s' ∧ s'.handles.size = s.handles.size,
    fun s s' => s.Evolves s' ∧ s.handles.size ≤ s'.handles.size, fun _ _ => True⟩

theorem endRules_lawful : endRules.Lawful where
  rely_refl _ := ⟨fun _ => Handle.Evolves.refl _, Nat.le_refl _⟩
  rely_trans _ _ _ h₁ h₂ := ⟨fun i => (h₁.1 i).trans (h₂.1 i), Nat.le_trans h₁.2 h₂.2⟩
  sched_refl s := ⟨World.SameLife.refl s, rfl⟩
  sched_trans _ _ _ h₁ h₂ := ⟨h₁.1.trans h₂.1, h₂.2.trans h₁.2⟩
  guar_refl _ := ⟨fun _ => Handle.Evolves.refl _, Nat.le_refl _⟩
  sched_rely _ _ h := ⟨h.1.evolves, Nat.le_of_eq h.2.symm⟩
  guar_rely _ _ h := h

/-- The scheduler's bookkeeping changes no life and keeps every handle, and giving back what
an owner held only ends what was open. -/
theorem World.host_keeps_endRules : World.host.Keeps endRules where
  listen c t s := ⟨World.host_keeps_lifeRules.listen c t s, (World.host_keeps_nestRules.listen c t s).handles⟩
  forget t s := ⟨World.host_keeps_lifeRules.forget t s, (World.host_keeps_nestRules.forget t s).handles⟩
  release o s := ⟨World.host_keeps_lifeRules.release o s, (World.host_keeps_nestRules.release o s).handles⟩
  takeWakes s := ⟨World.host_keeps_lifeRules.takeWakes s, (World.host_keeps_nestRules.takeWakes s).handles⟩
  fresh s := ⟨World.host_keeps_lifeRules.fresh s, (World.host_keeps_nestRules.fresh s).handles⟩
  enter t o n s := ⟨World.host_keeps_lifeRules.enter t o n s, (World.host_keeps_nestRules.enter t o n s).handles⟩
  spawned p c s := ⟨World.host_keeps_lifeRules.spawned p c s, (World.host_keeps_nestRules.spawned p c s).handles⟩
  holds _ _ _ := trivial

/-- Transaction `h` exists and has ended. -/
def Closed (h : Nat) (s : World) : Prop := (s.handle h).state ≠ .open ∧ h < s.handles.size

/-- Rules under which a rollback of transaction `h` ends it as it does under `endRules`, and
keeps `F`: they are lawful, what others and the scheduler may do under them `endRules` allows
too, they allow every step that moves `h` alone and lets every life move on, and `F` is a fact
that others keep and that moving `h` alone keeps. -/
structure AllowsRollback (ρ : Rules World Cond) (h : Nat) (F : World → Prop) : Prop where
  lawful : ρ.Lawful
  sched : ∀ s s', ρ.sched s s' → endRules.sched s s'
  rely : ∀ s s', ρ.rely s s' → endRules.rely s s'
  guar : ∀ s s', World.HandleMove (· = h) s s' → endRules.guar s s' → ρ.guar s s'
  stable : Stable ρ.rely F
  moves : ∀ s s', World.HandleMove (· = h) s s' → F s → F s'

theorem endRules_allowsRollback (h : Nat) : AllowsRollback endRules h fun _ => True :=
  ⟨endRules_lawful, fun _ _ hs => hs, fun _ _ hr => hr, fun _ _ _ hg => hg, fun _ _ _ _ => trivial,
    fun _ _ _ _ => trivial⟩

section Ends

variable {α : Type} {ρ : Rules World Cond} {h : Nat} {F P : World → Prop}

theorem stable_exists : Stable endRules.rely fun s => h < s.handles.size :=
  fun _ _ hs hr => Nat.lt_of_lt_of_le hs hr.2

theorem stable_closed : Stable endRules.rely (Closed h) :=
  fun _ _ hs hr => ⟨by rw [(hr.1 h).state hs.1]; exact hs.1, Nat.lt_of_lt_of_le hs.2 hr.2⟩

theorem Stable.of_endRely (hP : Stable endRules.rely P) : Stable endRules.sched P :=
  fun _ _ hs hr => hP _ _ hs (endRules_lawful.sched_rely _ _ hr)

/-- Transaction `h` is open and exists; a step that changes no life keeps that. -/
theorem stable_openAt : Stable endRules.sched fun s => (s.handle h).state = .open ∧ h < s.handles.size :=
  fun _ _ hs hr => ⟨(hr.1.sameState h).trans hs.1, hr.2 ▸ hs.2⟩

namespace AllowsRollback

/-- What nothing that `endRules` lets others do breaks, nothing that `ρ` lets them do breaks,
and `F` stays beside it. -/
theorem stable_and (hE : AllowsRollback ρ h F) (hP : Stable endRules.rely P) :
    Stable ρ.rely fun s => P s ∧ F s :=
  fun _ _ hs hr => ⟨hP _ _ hs.1 (hE.rely _ _ hr), hE.stable _ _ hs.2 hr⟩

theorem stable_sched_and (hE : AllowsRollback ρ h F) (hP : Stable endRules.sched P) :
    Stable ρ.sched fun s => P s ∧ F s :=
  fun _ _ hs hr => ⟨hP _ _ hs.1 (hE.sched _ _ hr), hE.stable _ _ hs.2 (hE.lawful.sched_rely _ _ hr)⟩

end AllowsRollback

/-- A step on `h` alone that changes no life and keeps every handle keeps what such steps
keep, and `F`. -/
theorem modifyGet_quiet (hE : AllowsRollback ρ h F) {f : World → α × World}
    (hf : ∀ s, World.HandleMove (· = h) s (f s).2 ∧ endRules.sched s (f s).2)
    (hP : Stable endRules.sched P) :
    Triple ρ (fun s => P s ∧ F s) (MonadStateOf.modifyGet f : Step α) (fun _ s => P s ∧ F s) :=
  (Triple.modifyGet fun s _ => hE.guar _ _ (hf s).1 (endRules_lawful.sched_rely _ _ (hf s).2)).post
    fun _ _ hq => by
      obtain ⟨s, hs, _, hr⟩ := hq
      exact hE.stable_sched_and hP _ _ ⟨hP _ _ hs.1 (hf s).2, hE.moves _ _ (hf s).1 hs.2⟩ hr

theorem change_quiet (hE : AllowsRollback ρ h F) {f : World → World}
    (hf : ∀ s, World.HandleMove (· = h) s (f s) ∧ endRules.sched s (f s))
    (hP : Stable endRules.sched P) :
    Triple ρ (fun s => P s ∧ F s) (Step.change f) (fun _ s => P s ∧ F s) :=
  modifyGet_quiet hE (f := fun s => ((), f s)) hf hP

theorem quiet_of_handles {s s' : World} (hh : s'.handles = s.handles) : endRules.sched s s' :=
  ⟨World.SameLife.of_handles hh, by rw [hh]⟩

theorem issue_quiet (hE : AllowsRollback ρ h F) (hP : Stable endRules.sched P) :
    Triple ρ (fun s => P s ∧ F s) (Step.issue h) (fun _ s => P s ∧ F s) :=
  modifyGet_quiet hE (fun s => by
    simp only [Sequencer.issue]
    refine ⟨(World.HandleMove.modifyHandle s (by rfl) (by intro; exact ⟨rfl, rfl, rfl⟩)).trans
      (.hold _ _), ?_, by simp [World.modifyHandle]⟩
    apply World.SameLife.hold
    exact s.sameLife_modifyHandle h fun _ => rfl) hP

theorem finishTicket_quiet (hE : AllowsRollback ρ h F) (n : Nat) (hP : Stable endRules.sched P) :
    Triple ρ (fun s => P s ∧ F s) (Step.finishTicket h n) (fun _ s => P s ∧ F s) := by
  refine change_quiet hE (fun s => ⟨(World.HandleMove.unhold s _).trans (.releaseTicket _ (by rfl) n), ?_⟩) hP
  refine ⟨((World.SameLife.refl s).unhold _).trans ((s.unhold _).sameLife_modifyHandle h fun _ => rfl), ?_⟩
  simp [World.releaseTicket, World.modifyHandle]

/-- A step on `h` alone that ends an open transaction `h` and keeps every handle ends it, and
keeps `F`. -/
theorem modifyGet_ends (hE : AllowsRollback ρ h F) {f : World → α × World}
    (hmove : ∀ s, World.HandleMove (· = h) s (f s).2)
    (hsize : ∀ s, (f s).2.handles.size = s.handles.size)
    (hend : ∀ s, (s.handle h).state = .open → h < s.handles.size →
      s.Evolves (f s).2 ∧ ((f s).2.handle h).state ≠ .open) :
    Triple ρ (fun s => ((s.handle h).state = .open ∧ h < s.handles.size) ∧ F s)
      (MonadStateOf.modifyGet f : Step α) (fun _ s => Closed h s ∧ F s) := by
  have hstep : ∀ s, ((s.handle h).state = .open ∧ h < s.handles.size) ∧ F s → ρ.guar s (f s).2 :=
    fun s hs => hE.guar _ _ (hmove s) ⟨(hend s hs.1.1 hs.1.2).1, Nat.le_of_eq (hsize s).symm⟩
  refine (Triple.modifyGet hstep).post fun _ s' hq => ?_
  obtain ⟨s, hs, _, hr⟩ := hq
  have hlt : h < (f s).2.handles.size := by
    rw [hsize]
    exact hs.1.2
  exact hE.stable_and stable_closed _ _ ⟨⟨(hend s hs.1.1 hs.1.2).2, hlt⟩, hE.moves _ _ (hmove s) hs.2⟩
    (hE.lawful.sched_rely _ _ hr)

/-- Rolling back an open transaction ends it. -/
theorem setState_ends (hE : AllowsRollback ρ h F) :
    Triple ρ (fun s => ((s.handle h).state = .open ∧ h < s.handles.size) ∧ F s)
      (setState h .rolledBack) (fun _ s => Closed h s ∧ F s) :=
  modifyGet_ends hE (fun s => World.HandleMove.modifyHandle s (by rfl) fun _ => ⟨rfl, rfl, rfl⟩)
    (fun s => by simp [World.modifyHandle]) fun s hopen hlt =>
      ⟨s.evolves_modifyHandle h (Handle.Evolves.of_open hopen _), by
        rw [World.handle_modifyHandle_self s hlt]
        exact TxState.noConfusion⟩

/-- Ending a driver session in rollback ends its transaction in the same step. -/
theorem finishSession_ends (hE : AllowsRollback ρ h F) (m : Nat) :
    Triple ρ (fun s => ((s.handle h).state = .open ∧ h < s.handles.size) ∧ F s)
      (finishSession h m false) (fun _ s => Closed h s ∧ F s) :=
  modifyGet_ends hE (fun s => ((World.HandleMove.note s _).trans (.modifyPeer _ _ _)).trans
      (.modifyHandle _ (by rfl) fun _ => ⟨rfl, rfl, rfl⟩))
    (fun s => s.size_finishSession h m false) fun s hopen hlt =>
      ⟨(s.endSession m false).2.evolves_modifyHandle h (Handle.Evolves.of_open hopen _), by
        rw [s.state_finishSession hlt]
        simp⟩

theorem send_quiet (hE : AllowsRollback ρ h F) (m : Http.Method) (uri : String) (body : Option Json)
    (hP : Stable endRules.sched P) :
    Triple ρ (fun s => P s ∧ F s) (send h m uri body) (fun _ s => P s ∧ F s) :=
  modifyGet_quiet hE (fun s => ⟨(World.HandleMove.note s _).trans (.modifyPeer _ _ _),
    quiet_of_handles rfl⟩) hP

/-- What a rollback reads of its transaction holds until its next step, and so does `F`. -/
theorem read_holds (hE : AllowsRollback ρ h F) {w s : World}
    (hs : (h < w.handles.size ∧ F w) ∧ ρ.sched w s) :
    ((s.handle h).state = (w.handle h).state ∧ h < s.handles.size) ∧ F s :=
  ⟨⟨(hE.sched _ _ hs.2).1.sameState h, (hE.sched _ _ hs.2).2 ▸ hs.1.1⟩,
    hE.stable _ _ hs.1.2 (hE.lawful.sched_rely _ _ hs.2)⟩

/-- A rollback that found its transaction open may go on as if it still is. -/
theorem openAt_of_read (hE : AllowsRollback ρ h F) {w s : World}
    (hok : (w.handle h).state.ensureOpen = .ok ()) (hs : (h < w.handles.size ∧ F w) ∧ ρ.sched w s) :
    ((s.handle h).state = .open ∧ h < s.handles.size) ∧ F s :=
  ⟨⟨(read_holds hE hs).1.1.trans ((TxState.ensureOpen_ok_iff _).1 hok), (read_holds hE hs).1.2⟩,
    (read_holds hE hs).2⟩

/-- A rollback that refuses because its transaction is not open leaves it ended. -/
theorem closed_of_refused (hE : AllowsRollback ρ h F) {w s : World} {e : TxError}
    (herr : (w.handle h).state.ensureOpen = .error e) (hs : (h < w.handles.size ∧ F w) ∧ ρ.sched w s) :
    Closed h s ∧ F s := by
  obtain ⟨⟨hstate, hlt⟩, hF⟩ := read_holds hE hs
  refine ⟨⟨fun hopen => ?_, hlt⟩, hF⟩
  rw [hstate] at hopen
  rw [hopen] at herr
  cases herr

/-- A transaction the server rolled back with a statement failure has ended. -/
theorem state_of_rollbackCause {hd : Handle} (h : (rollbackCause hd).isSome = true) :
    hd.state = .rolledBack := by
  unfold rollbackCause at h
  split at h
  · assumption
  · cases h

/-- An operation that takes a ticket of transaction `h` and runs once its turn comes ends the
transaction if its body does: taking the ticket and giving it back change no life. -/
theorem ticketed_ends {α : Type} (hE : AllowsRollback ρ h F) {x : Tx α}
    (hx : Triple ρ (fun s => h < s.handles.size ∧ F s) x.run (fun _ s => Closed h s ∧ F s)) :
    Triple ρ (fun s => h < s.handles.size ∧ F s)
      (do let n ← Step.issue h; Step.waitTurn h n; Tx.andThen x (Step.finishTicket h n) : Tx α).run
      (fun _ s => Closed h s ∧ F s) := by
  refine Triple.run_liftM_bind (issue_quiet hE stable_exists.of_endRely) fun n => ?_
  refine Triple.run_liftM_bind ((Triple.await _).post fun _ _ hs =>
    After.of_stable (hE.stable_and stable_exists) hs.1) fun _ => ?_
  exact Triple.run_andThen (fun _ s => Closed h s ∧ F s) hx fun _ =>
    finishTicket_quiet hE n stable_closed.of_endRely

/-- Rolling back over HTTP ends the transaction, whatever the server answers: the handle is
marked rolled back before the answer is looked at. -/
theorem httpRollback_ends (hE : AllowsRollback ρ h F) :
    Triple ρ (fun s => h < s.handles.size ∧ F s) (httpRollback h).run
      (fun _ s => Closed h s ∧ F s) := by
  unfold httpRollback
  refine ticketed_ends hE ?_
  refine Triple.run_get_bind hE.lawful fun w _ => ?_
  dsimp only
  split
  · rename_i hcause
    refine Triple.run_pure fun s hs => ⟨⟨?_, (read_holds hE hs).1.2⟩, (read_holds hE hs).2⟩
    rw [(read_holds hE hs).1.1, state_of_rollbackCause hcause]
    exact TxState.noConfusion
  refine Triple.run_ofExcept_bind (fun _ hok => ?_) fun _ herr s hs => closed_of_refused hE herr hs
  split
  · exact Triple.run_liftM ((setState_ends hE).pre fun _ hs => openAt_of_read hE hok hs)
  · refine Triple.run_liftM_bind ((send_quiet hE _ _ _ stable_openAt).pre
      fun _ hs => openAt_of_read hE hok hs) fun r => ?_
    refine Triple.run_liftM_bind (setState_ends hE) fun _ => ?_
    split
    · exact Triple.run_pure fun _ hs => hs
    · exact Triple.run_pure fun _ hs => hs
    · exact Triple.run_throw fun _ hs => hs

/-- Rolling back a driver session ends the transaction, whatever the driver answers. -/
theorem sessionRollback_ends (hE : AllowsRollback ρ h F) :
    Triple ρ (fun s => h < s.handles.size ∧ F s) (sessionRollback h).run
      (fun _ s => Closed h s ∧ F s) := by
  unfold sessionRollback
  refine ticketed_ends hE ?_
  refine Triple.run_get_bind hE.lawful fun w _ => ?_
  dsimp only
  refine Triple.run_ofExcept_bind (fun _ hok => ?_) fun _ herr s hs => closed_of_refused hE herr hs
  refine Triple.run_liftM_bind ((finishSession_ends hE _).pre fun _ hs => openAt_of_read hE hok hs)
    fun r => ?_
  split
  · exact Triple.run_pure fun _ hs => hs
  · split
    · exact Triple.run_pure fun _ hs => hs
    · split
      · exact Triple.run_pure fun _ hs => hs
      · exact Triple.run_throw fun _ hs => hs

/-- A rollback ends the transaction, over either transport, under any rules that allow it. -/
theorem rollback_ends (hE : AllowsRollback ρ h F) :
    Triple ρ (fun s => h < s.handles.size ∧ F s) (rollback h).run (fun _ s => Closed h s ∧ F s) := by
  unfold rollback
  refine Triple.run_get_bind hE.lawful fun w _ => ?_
  split
  · exact (httpRollback_ends hE).pre fun _ hs => ⟨(read_holds hE hs).1.2, (read_holds hE hs).2⟩
  · exact (sessionRollback_ends hE).pre fun _ hs => ⟨(read_holds hE hs).1.2, (read_holds hE hs).2⟩

/-- A scope whose transaction has ended reports it closed. -/
theorem scopeIsOpen_of_closed {s : World} (he : Closed h s) {r : Nat}
    (hr : (s.record r).handle = some h) : scopeIsOpen s r = false := by
  unfold scopeIsOpen
  rw [hr]
  simpa [Handle.isOpen] using he.1

/-- Rolling back through any scope, owning or joined, ends the transaction it shares: every
scope on that transaction then reports it closed. -/
theorem scopeRollback_ends (r h : Nat) :
    Triple endRules (fun s => (s.record r).handle = some h ∧ h < s.handles.size)
      (scopeRollback r).run
      (fun _ s => ∀ r', (s.record r').handle = some h → scopeIsOpen s r' = false) := by
  unfold scopeRollback
  refine Triple.run_bind _ ((activeHandle_spec endRules_lawful stable_exists.of_endRely r
    "roll back" (some h)).pre fun _ hs => ⟨hs.2, hs.1⟩) (fun h' => ?_) fun _ _ hs => by
      cases hs.2.1 h rfl
  refine Triple.of_pre_fact (fun _ hs => hs.2.1 h rfl) fun hh => ?_
  cases hh
  exact (rollback_ends (endRules_allowsRollback h)).conseq (fun _ hs => ⟨hs.1, trivial⟩)
    fun _ _ he _ => scopeIsOpen_of_closed he.1

end Ends

/-! ## A scope beside another -/

/-- A step that leaves transaction `h`, where it exists, as it was. -/
def Spares (h : Nat) (s s' : World) : Prop :=
  h < s.handles.size → (s'.handle h).state = (s.handle h).state ∧ h < s'.handles.size

section Spares

variable {h : Nat}

theorem spares_refl (s : World) : Spares h s s := fun hs => ⟨rfl, hs⟩

theorem Spares.trans {a b c : World} (h₁ : Spares h a b) (h₂ : Spares h b c) : Spares h a c :=
  fun ha => ⟨(h₂ (h₁ ha).2).1.trans (h₁ ha).1, (h₂ (h₁ ha).2).2⟩

theorem spares_of_handles {s s' : World} (hh : s'.handles = s.handles) : Spares h s s' :=
  fun hs => ⟨(World.SameLife.of_handles hh).sameState h, hh ▸ hs⟩

/-- The code of another handle spares `h`: it changes only its own handle and adds handles
after the last. -/
theorem HandleMove.spares {h' : Nat} (hne : h' ≠ h) {s s' : World}
    (hm : World.HandleMove (· = h') s s') : Spares h s s' := by
  induction hm with
  | refl s => exact spares_refl s
  | trans _ _ ih₁ ih₂ => exact ih₁.trans ih₂
  | @handle s i g hi _ =>
    intro hs
    have hout : ¬(i = h ∧ h < s.handles.size) := fun he => hne (hi ▸ he.1)
    rw [World.handle_modifyHandle, if_neg hout]
    exact ⟨rfl, by simpa [World.modifyHandle] using hs⟩
  | add s hd =>
    intro hs
    refine ⟨?_, by simp only [Array.size_push]; omega⟩
    simp only [World.handle, Array.getElem?_push, Nat.ne_of_lt hs, if_false]
  | holds s _ => exact spares_of_handles rfl
  | wakes s _ => exact spares_of_handles rfl
  | peers s _ => exact spares_of_handles rfl
  | log s _ => exact spares_of_handles rfl

theorem spares_lawful : (calmRules (Spares h)).Lawful := calmRules_lawful spares_refl

/-- The code of another handle, whatever it does, spares `h`, as do the tasks it starts. -/
theorem spares_of_frame {α : Type} {h' : Nat} (hne : h' ≠ h) {x : Step α}
    (hx : KeepsFrame (World.HandleMove (· = h')) x) {P : World → Prop} :
    Triple (calmRules (Spares h)) P x (fun _ _ => True) :=
  (hx.triple spares_lawful (fun _ _ hm => HandleMove.spares hne hm) (P := fun _ => True)
    fun _ _ _ _ => trivial).pre fun _ _ => trivial

/-- A scope action on another handle spares `h`. -/
theorem activeHandle_bind_spares {β : Type} (r : Nat) (action : String) {h' : Nat} (hne : h' ≠ h)
    {f : Nat → Tx β} (hf : KeepsFrame (World.HandleMove (· = h')) (f h').run) :
    Triple (calmRules (Spares h)) (fun s => (s.record r).handle = some h')
      (activeHandle r action >>= f).run (fun _ _ => True) := by
  have hP : ∀ s s', True → World.Calm s s' → True := fun _ _ _ _ => trivial
  refine Triple.run_bind _ ((activeHandle_spec spares_lawful hP r action (some h')).pre
    fun _ hs => ⟨trivial, hs⟩) (fun h'' => ?_) fun _ _ _ => trivial
  refine Triple.of_pre_fact (fun _ hs => hs.2.1 h' rfl) fun hh => ?_
  cases hh
  exact spares_of_frame hne hf

theorem scopeCommit_spares (r : Nat) {h' : Nat} (hne : h' ≠ h) :
    Triple (calmRules (Spares h)) (fun s => (s.record r).handle = some h') (scopeCommit r).run
      (fun _ _ => True) := by
  refine activeHandle_bind_spares r "commit" hne ?_
  refine KeepsFrame.run_liftM_bind KeepsFrame.read fun w => ?_
  split
  · exact commit_frame h'
  · exact KeepsFrame.run_ofExcept _

theorem scopeRollback_spares (r : Nat) {h' : Nat} (hne : h' ≠ h) :
    Triple (calmRules (Spares h)) (fun s => (s.record r).handle = some h') (scopeRollback r).run
      (fun _ _ => True) :=
  activeHandle_bind_spares r "roll back" hne (rollback_frame h')

theorem scopeKeepAlive_spares (r : Nat) {h' : Nat} (hne : h' ≠ h) :
    Triple (calmRules (Spares h)) (fun s => (s.record r).handle = some h') (scopeKeepAlive r).run
      (fun _ _ => True) :=
  activeHandle_bind_spares r "keep alive" hne (keepAlive_frame h')

/-- Ending a scope on another handle spares `h`: taking it off its stack touches no handle,
and what follows is the code of its own handle. -/
theorem finishScope_spares (ctx r : Nat) {h' : Nat} (hne : h' ≠ h) :
    Triple (calmRules (Spares h)) (fun s => (s.record r).handle = some h') (finishScope ctx r).run
      (fun _ _ => True) := by
  unfold finishScope
  refine Triple.run_liftM_bind (retire_claims (fun _ _ hh _ => spares_of_handles hh) ctx r
    fun x _ => x = some h') fun b => ?_
  split
  · exact Triple.run_pure fun _ _ => trivial
  refine Triple.run_get_bind spares_lawful fun w hw => ?_
  dsimp only
  rw [hw]
  refine spares_of_frame hne ?_
  refine KeepsFrame.run_liftM_bind KeepsFrame.read fun w' => ?_
  split
  · refine KeepsFrame.run_liftM_bind (abandonLocally_frame h') fun b => ?_
    split
    · exact KeepsFrame.run_pure _
    · exact rollback_frame h'
  · exact KeepsFrame.run_pure _

/-- Dropping a scope on another handle spares `h`, and so does the rollback it leaves to a
task of its own. -/
theorem dropScope_spares (ctx r : Nat) {h' : Nat} (hne : h' ≠ h) :
    Triple (calmRules (Spares h)) (fun s => (s.record r).handle = some h') (dropScope ctx r)
      (fun _ _ => True) := by
  unfold dropScope
  refine Triple.bind (retire_claims (fun _ _ hh _ => spares_of_handles hh) ctx r
    fun x _ => x = some h') fun b => ?_
  split
  · exact Triple.pure_of fun _ _ => trivial
  refine Triple.bind (Triple.get spares_lawful) fun w => Triple.of_fact fun hw => ?_
  dsimp only
  rw [hw]
  refine spares_of_frame hne ?_
  refine KeepsFrame.bind KeepsFrame.read fun w' => ?_
  split
  · exact KeepsFrame.pure _
  refine KeepsFrame.bind (abandonLocally_frame h') fun b => ?_
  split
  · exact KeepsFrame.pure _
  refine KeepsFrame.bind (KeepsFrame.spawn (KeepsFrame.toFiber ?_)) fun _ => KeepsFrame.pure _
  exact KeepsFrame.bind (rollback_frame h') fun _ => KeepsFrame.pure _

end Spares

end TxnCoord
