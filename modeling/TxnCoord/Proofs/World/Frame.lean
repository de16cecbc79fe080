import TxnCoord.Proofs.World.Steps
/-!
# Code that leaves part of the world alone

Most of the coordinator's code touches a small part of the world. The code of a handle
changes that handle, keeping its identity, database and link, and besides it only adds
handles and changes what owners hold, the tasks to wake, the peers and the log
(`World.HandleMove`). The code of units of work, enlistments and stores adds to that the
locks, the units, the stores, the enlistments and new stacks (`World.Move`), and never
touches a scope record or a stack (`World.Move.sameScopes`). Each kind of change is one
constructor, so a relation that every constructor keeps is kept by all that code.

`KeepsFrame F x` says that every step of `x`, and of every task it starts, is a change that
`F` allows, in a form that any rules can use: under rules whose fiber steps allow every
change that `F` allows, and whose `rely` takes it too, `x` keeps every fact that the rules'
`rely` keeps. The rules need only the laws of `Rules.Local`, so they may be rules for one
fiber, which allow it what they forbid the others. It follows the shape of the code
(`KeepsFrame.bind`, `KeepsFrame.modifyGet`, `KeepsFrame.run_andThen`, …), so a proof under new
rules cites it instead of going through the code again.

    KeepsFrame F x → ρ.Lawful → (∀ s s', F s s' → ρ.guar s s') → Stable ρ.rely P →
      Triple ρ P x (fun _ => P)                                       (KeepsFrame.triple)
-/

namespace TxnCoord

variable {σ κ α β : Type}

/-- Every step of `x`, and of every task it starts, is a change that `F` allows: under any
rules whose fiber steps allow such changes, and that rely on them, `x` keeps whatever the
rules' `rely` keeps. -/
def KeepsFrame (F : σ → σ → Prop) (x : Async σ κ α) : Prop :=
  ∀ ρ : Rules σ κ, ρ.Local → (∀ s s', F s s' → ρ.guar s s' ∧ ρ.rely s s') →
    ∀ P : σ → Prop, Stable ρ.rely P → Triple ρ P x fun _ => P

/-- Every step of a fiber is a change that `F` allows. -/
def FiberKeepsFrame (F : σ → σ → Prop) (f : Fiber σ κ) : Prop :=
  ∀ ρ : Rules σ κ, ρ.Local → (∀ s s', F s s' → ρ.guar s s' ∧ ρ.rely s s') →
    ∀ P : σ → Prop, Stable ρ.rely P → Safe ρ P f

namespace KeepsFrame

variable {F F' : σ → σ → Prop}

theorem mono {x : Async σ κ α} (h : KeepsFrame F x) (hF : ∀ s s', F s s' → F' s s') :
    KeepsFrame F' x :=
  fun ρ hρ hG => h ρ hρ fun s s' hs => hG s s' (hF s s' hs)

theorem pure (a : α) : KeepsFrame F (Pure.pure a : Async σ κ α) :=
  fun _ _ _ _ _ => Triple.pure a

theorem bind {x : Async σ κ α} {f : α → Async σ κ β} (hx : KeepsFrame F x)
    (hf : ∀ a, KeepsFrame F (f a)) : KeepsFrame F (x >>= f) :=
  fun ρ hρ hG P hP => Triple.bind (hx ρ hρ hG P hP) fun a => hf a ρ hρ hG P hP

theorem get : KeepsFrame F (MonadStateOf.get : Async σ κ σ) :=
  fun _ hρ _ _ hP => (Triple.get_of_refl hρ.guar_refl).post fun _ _ h =>
    hP _ _ h.1 (hρ.sched_rely _ _ h.2)

theorem modifyGet {f : σ → α × σ} (hf : ∀ s, F s (f s).2) :
    KeepsFrame F (MonadStateOf.modifyGet f : Async σ κ α) := by
  intro ρ hρ hG P hP
  refine (Triple.modifyGet fun s _ => (hG _ _ (hf s)).1).post ?_
  rintro _ s' ⟨s, hs, -, hsched⟩
  -- the step is one the rules rely on, so it keeps what they keep
  have hstep : P (f s).2 := hP _ _ hs (hG _ _ (hf s)).2
  exact hP _ _ hstep (hρ.sched_rely _ _ hsched)

theorem modify {f : σ → σ} (hf : ∀ s, F s (f s)) : KeepsFrame F (modify f : Async σ κ Unit) :=
  modifyGet (f := fun s => ((), f s)) hf

theorem await (w : Await κ) : KeepsFrame F (Async.await w : Async σ κ Unit) :=
  fun _ _ _ _ hP => (Triple.await w).post fun _ _ h => After.of_stable hP h.1

theorem spawn {child : Fiber σ κ} (hc : FiberKeepsFrame F child) :
    KeepsFrame F (Async.spawn child) :=
  fun ρ hρ hG _ hP => (Triple.spawn (hc ρ hρ hG _ (After.stable hρ.rely_trans))).post
    fun _ _ h => After.of_stable hP (After.widen hρ.sched_rely h)

theorem forEach {xs : List β} {f : β → Async σ κ Unit} (hf : ∀ b ∈ xs, KeepsFrame F (f b)) :
    KeepsFrame F (Async.forEach xs f) :=
  fun ρ hρ hG P hP => Triple.forEach fun b hb => hf b hb ρ hρ hG P hP

/-- Code run for its effect alone, as a task of its own. -/
theorem toFiber {x : Async σ κ Unit} (h : KeepsFrame F x) : FiberKeepsFrame F (Async.toFiber x) :=
  fun ρ hρ hG P hP => h ρ hρ hG P hP _ fun _ => .done

/-- Under lawful rules the fiber's steps are changes that it relies on, so it is enough that
they allow what `F` allows. -/
theorem triple {x : Async σ κ α} (h : KeepsFrame F x) {ρ : Rules σ κ} (hρ : ρ.Lawful)
    (hG : ∀ s s', F s s' → ρ.guar s s') {P : σ → Prop} (hP : Stable ρ.rely P) :
    Triple ρ P x fun _ => P :=
  h ρ hρ.toLocal (fun s s' hs => ⟨hG s s' hs, hρ.guar_rely _ _ (hG s s' hs)⟩) P hP

/-- The same for a fiber. -/
theorem fiber_safe {f : Fiber σ κ} (h : FiberKeepsFrame F f) {ρ : Rules σ κ} (hρ : ρ.Lawful)
    (hG : ∀ s s', F s s' → ρ.guar s s') {P : σ → Prop} (hP : Stable ρ.rely P) : Safe ρ P f :=
  h ρ hρ.toLocal (fun s s' hs => ⟨hG s s' hs, hρ.guar_rely _ _ (hG s s' hs)⟩) P hP

end KeepsFrame

/-! ## Code of the coordinator -/

namespace KeepsFrame

variable {F : World → World → Prop}

theorem change {f : World → World} (hf : ∀ s, F s (f s)) : KeepsFrame F (Step.change f) :=
  modify hf

theorem read : KeepsFrame F Step.read := get

theorem run_bind {x : Tx α} {f : α → Tx β} (hx : KeepsFrame F x.run)
    (hf : ∀ a, KeepsFrame F (f a).run) : KeepsFrame F (x >>= f).run :=
  fun ρ hρ hG P hP => Triple.run_bind (fun _ => P) (hx ρ hρ hG P hP) (fun a => hf a ρ hρ hG P hP)
    fun _ _ h => h

theorem run_liftM_bind {x : Step α} {f : α → Tx β} (hx : KeepsFrame F x)
    (hf : ∀ a, KeepsFrame F (f a).run) : KeepsFrame F ((liftM x : Tx α) >>= f).run :=
  fun ρ hρ hG P hP => Triple.run_liftM_bind (hx ρ hρ hG P hP) fun a => hf a ρ hρ hG P hP

theorem run_liftM {x : Step α} (hx : KeepsFrame F x) : KeepsFrame F (liftM x : Tx α).run :=
  fun ρ hρ hG P hP => Triple.run_liftM (hx ρ hρ hG P hP)

theorem run_pure (a : α) : KeepsFrame F (Pure.pure a : Tx α).run :=
  fun _ _ _ _ _ => Triple.run_pure fun _ h => h

theorem run_pure_bind {a : α} {f : α → Tx β} (hf : KeepsFrame F (f a).run) :
    KeepsFrame F (Pure.pure a >>= f).run :=
  fun ρ hρ hG P hP => Triple.run_pure_bind (hf ρ hρ hG P hP)

theorem run_throw (e : TxError) : KeepsFrame F (throw e : Tx α).run :=
  fun _ _ _ _ _ => Triple.run_throw fun _ h => h

theorem run_throw_bind {e : TxError} {f : α → Tx β} : KeepsFrame F (throw e >>= f).run :=
  fun _ _ _ _ _ => Triple.run_throw_bind fun _ h => h

theorem run_ofExcept (e : Except TxError α) : KeepsFrame F (Tx.ofExcept e).run :=
  fun _ _ _ _ _ => Triple.run_ofExcept fun _ h => h

theorem run_ofExcept_bind {e : Except TxError α} {f : α → Tx β}
    (hf : ∀ a, e = .ok a → KeepsFrame F (f a).run) : KeepsFrame F (Tx.ofExcept e >>= f).run :=
  fun ρ hρ hG P hP => Triple.run_ofExcept_bind (fun a ha => hf a ha ρ hρ hG P hP)
    fun _ _ _ h => h

theorem run_andThen {x : Tx α} {after : Step Unit} (hx : KeepsFrame F x.run)
    (ha : KeepsFrame F after) : KeepsFrame F (Tx.andThen x after).run :=
  fun ρ hρ hG P hP => Triple.run_andThen (fun _ => P) (hx ρ hρ hG P hP)
    fun _ => ha ρ hρ hG P hP

theorem run_attempt_bind {x : Tx α} {f : Except TxError α → Tx β} (hx : KeepsFrame F x.run)
    (hf : ∀ r, KeepsFrame F (f r).run) : KeepsFrame F (Tx.attempt x >>= f).run :=
  fun ρ hρ hG P hP => Triple.run_attempt_bind (hx ρ hρ hG P hP) fun r => hf r ρ hρ hG P hP

end KeepsFrame

namespace World

/-- What a handle keeps for its whole life: its identity, its database and its link. -/
structure Kept (hd hd' : Handle) : Prop where
  id : hd'.id = hd.id
  database : hd'.database = hd.database
  link : hd'.link = hd.link

theorem Kept.refl (hd : Handle) : Kept hd hd := ⟨rfl, rfl, rfl⟩

theorem Kept.trans {a b c : Handle} (h₁ : Kept a b) (h₂ : Kept b c) : Kept a c :=
  ⟨h₂.id.trans h₁.id, h₂.database.trans h₁.database, h₂.link.trans h₁.link⟩

/-- The changes the code of handles makes, one by one: a handle among `H` changes, keeping
what it keeps for life; a handle is added; what owners hold, the tasks to wake, the peers and
the log change. -/
inductive HandleMove (H : Nat → Prop) : World → World → Prop
  | refl (s : World) : HandleMove H s s
  | trans {a b c : World} : HandleMove H a b → HandleMove H b c → HandleMove H a c
  | handle (s : World) {i : Nat} (g : Handle → Handle) : H i → (∀ hd, Kept hd (g hd)) →
      HandleMove H s (s.modifyHandle i g)
  | add (s : World) (hd : Handle) : HandleMove H s { s with handles := s.handles.push hd }
  | holds (s : World) (hl : List (Nat × Hold)) : HandleMove H s { s with holds := hl }
  | wakes (s : World) (wk : List Nat) : HandleMove H s { s with wakes := wk }
  | peers (s : World) (pr : Array Peer) : HandleMove H s { s with peers := pr }
  | log (s : World) (lg : Array Json) : HandleMove H s { s with log := lg }

namespace HandleMove

variable {H : Nat → Prop}

theorem mono {H' : Nat → Prop} (hH : ∀ i, H i → H' i) {s s' : World} (h : HandleMove H s s') :
    HandleMove H' s s' := by
  induction h with
  | refl s => exact .refl s
  | trans _ _ ih₁ ih₂ => exact .trans ih₁ ih₂
  | handle s g hi hg => exact .handle s g (hH _ hi) hg
  | add s hd => exact .add s hd
  | holds s hl => exact .holds s hl
  | wakes s wk => exact .wakes s wk
  | peers s pr => exact .peers s pr
  | log s lg => exact .log s lg

/-- A change of one handle among `H` that keeps what it keeps for life; the two facts are
asked for last, once the change is known. -/
theorem modifyHandle (s : World) {i : Nat} {g : Handle → Handle} (hi : H i)
    (hg : ∀ hd, Kept hd (g hd)) : HandleMove H s (s.modifyHandle i g) :=
  .handle s g hi hg

theorem hold (s : World) (x : Hold) : HandleMove H s (s.hold x) := .holds _ _

theorem unhold (s : World) (x : Hold) : HandleMove H s (s.unhold x) := by
  unfold World.unhold
  split
  · exact .holds _ _
  · split
    · exact .holds _ _
    · exact .refl s

theorem note (s : World) (e : Json) : HandleMove H s (s.note e) := .log _ _

theorem modifyPeer (s : World) (m : Nat) (f : Peer → Peer) : HandleMove H s (s.modifyPeer m f) :=
  .peers _ _

theorem releaseTicket (s : World) {h : Nat} (hh : H h) (n : Nat) :
    HandleMove H s (s.releaseTicket h n) :=
  .trans (.handle s (fun hd => { hd with tickets := hd.tickets.release n, watchers := [] }) hh
    fun _ => ⟨rfl, rfl, rfl⟩) (.wakes _ _)

/-- Moving handles leaves every enlistment as it was. -/
theorem adapters {s s' : World} (h : HandleMove H s s') : s'.adapters = s.adapters := by
  induction h with
  | trans _ _ ih₁ ih₂ => exact ih₂.trans ih₁
  | _ => rfl

end HandleMove

/-- The changes all of the coordinator's code makes, scope records and stacks apart: those of
handles, on any handle; the locks, the units of work and the stores; the stacks each task
uses and the enlistments of a manager; a new enlistment, and the promotion of one; a new,
empty stack. -/
inductive Move : World → World → Prop
  | handles {s s' : World} : HandleMove (fun _ => True) s s' → Move s s'
  | trans {a b c : World} : Move a b → Move b c → Move a c
  | locks (s : World) (lk : Array Lock) : Move s { s with locks := lk }
  | units (s : World) (us : Array LocalUnit) : Move s { s with units := us }
  | manualUnits (s : World) (us : Array ManualUnit) : Move s { s with manualUnits := us }
  | ledger (s : World) (l : Recovery.Ledger) : Move s { s with ledger := l }
  | sharedLedger (s : World) (l : Recovery.Ledger) : Move s { s with sharedLedger := l }
  | manager (s : World) (i : Nat) (g : Manager → Manager) :
      (∀ mg, { g mg with byTask := mg.byTask, enlistments := mg.enlistments } = mg) →
      Move s (s.modifyManager i g)
  | addAdapter (s : World) (ad : Adapter) : Move s { s with adapters := s.adapters.push ad }
  | promote (s : World) (a : Nat) :
      Move s (s.modifyAdapter a fun ad => { ad with promoted := true })
  | context (s : World) : Move s s.newContext.2

namespace Move

theorem refl (s : World) : Move s s := .handles (.refl s)

theorem ofHandle {H : Nat → Prop} {s s' : World} (h : HandleMove H s s') : Move s s' :=
  .handles (h.mono fun _ _ => trivial)

theorem modifyLock (s : World) (m : Nat) (f : Lock → Lock) : Move s (s.modifyLock m f) :=
  .locks _ _

theorem modifyUnit (s : World) (i : Nat) (f : LocalUnit → LocalUnit) :
    Move s (s.modifyUnit i f) :=
  .units _ _

theorem modifyManualUnit (s : World) (i : Nat) (f : ManualUnit → ManualUnit) :
    Move s (s.modifyManualUnit i f) :=
  .manualUnits _ _

/-- Handing a lock on changes the lock, the tasks to wake and what owners hold at once. -/
theorem unlock (s : World) (m : Nat) : Move s (s.unlock m) := by
  unfold World.unlock
  split
  · rename_i t o rest _
    have hlock := Move.modifyLock s m fun _ => { holder := some o, queue := rest }
    exact hlock.trans (.handles ((HandleMove.wakes _ (s.wakes ++ [t])).trans
      (.holds _ (s.holds ++ [(o, .lock m)]))))
  · exact .locks _ _

theorem letGoUnit (s : World) (u : UnitRef) : Move s (s.letGoUnit u) := by
  cases u with
  | «local» i => exact modifyUnit _ _ _
  | manual i => exact modifyManualUnit _ _ _

/-- Giving a resource back lowers a count on a handle, finishes a ticket, hands a lock on or
lets go of a unit. -/
theorem give (s : World) (x : Hold) : Move s (s.give x) := by
  cases x with
  | pending h => exact .handles (HandleMove.modifyHandle s trivial fun _ => ⟨rfl, rfl, rfl⟩)
  | ticket h n => exact .handles (HandleMove.releaseTicket s trivial n)
  | lock m => exact unlock s m
  | unitRef u => exact letGoUnit s u

theorem releaseOwner (s : World) (o : Nat) : Move s (s.releaseOwner o) :=
  World.rel_releaseOwner Move (fun w hs => .handles (.holds w hs)) (fun _ _ _ => .trans) give s o

end Move

/-- The scope records are as they were, and so is every stack. -/
structure SameScopes (s s' : World) : Prop where
  records : s'.records = s.records
  context : ∀ ctx, s'.context ctx = s.context ctx

namespace SameScopes

theorem refl (s : World) : SameScopes s s := ⟨rfl, fun _ => rfl⟩

theorem trans {a b c : World} (h₁ : SameScopes a b) (h₂ : SameScopes b c) : SameScopes a c :=
  ⟨h₂.records.trans h₁.records, fun ctx => (h₂.context ctx).trans (h₁.context ctx)⟩

/-- A new stack is empty, as every number that names no stack reads. -/
theorem newContext (s : World) : SameScopes s s.newContext.2 := by
  refine ⟨rfl, fun ctx => ?_⟩
  simp only [World.newContext, World.context, Array.getElem?_push]
  split
  · rename_i h
    subst h
    simp only [Array.getElem?_eq_none (Nat.le_refl _), Option.getD_none, Option.getD_some]
    rfl
  · rfl

end SameScopes

/-- No code but that of scopes themselves touches a scope record or a stack. -/
theorem Move.sameScopes {s s' : World} (h : Move s s') : SameScopes s s' := by
  induction h with
  | handles h =>
    induction h with
    | refl s => exact .refl s
    | trans _ _ ih₁ ih₂ => exact ih₁.trans ih₂
    | handle s g _ _ => exact ⟨rfl, fun _ => rfl⟩
    | add s hd => exact ⟨rfl, fun _ => rfl⟩
    | holds s hl => exact ⟨rfl, fun _ => rfl⟩
    | wakes s wk => exact ⟨rfl, fun _ => rfl⟩
    | peers s pr => exact ⟨rfl, fun _ => rfl⟩
    | log s lg => exact ⟨rfl, fun _ => rfl⟩
  | trans _ _ ih₁ ih₂ => exact ih₁.trans ih₂
  | locks s lk => exact ⟨rfl, fun _ => rfl⟩
  | units s us => exact ⟨rfl, fun _ => rfl⟩
  | manualUnits s us => exact ⟨rfl, fun _ => rfl⟩
  | ledger s l => exact ⟨rfl, fun _ => rfl⟩
  | sharedLedger s l => exact ⟨rfl, fun _ => rfl⟩
  | manager s i g _ => exact ⟨rfl, fun _ => rfl⟩
  | addAdapter s ad => exact ⟨rfl, fun _ => rfl⟩
  | promote s a => exact ⟨rfl, fun _ => rfl⟩
  | context s => exact SameScopes.newContext s

end World

/-! ## Requests of `Step` -/

namespace KeepsFrame

open World (HandleMove)

/-- A change of handle `h` alone that keeps what the handle keeps for life. -/
theorem changeHandle {h : Nat} {g : Handle → Handle} (hg : ∀ hd, World.Kept hd (g hd)) :
    KeepsFrame (HandleMove (· = h)) (Step.change fun w => w.modifyHandle h g) :=
  change fun s => HandleMove.modifyHandle s rfl hg

end KeepsFrame

namespace Step

open World (HandleMove Move)

theorem issue_frame (h : Nat) : KeepsFrame (HandleMove (· = h)) (issue h) :=
  KeepsFrame.modifyGet fun s =>
    (HandleMove.modifyHandle s (by rfl) (by intro; exact ⟨rfl, rfl, rfl⟩)).trans
      (HandleMove.hold _ _)

theorem finishTicket_frame (h n : Nat) : KeepsFrame (HandleMove (· = h)) (finishTicket h n) :=
  KeepsFrame.change fun s => (HandleMove.unhold s _).trans (HandleMove.releaseTicket _ (by rfl) n)

theorem beginPending_frame (h : Nat) : KeepsFrame (HandleMove (· = h)) (beginPending h) :=
  KeepsFrame.change fun s =>
    (HandleMove.modifyHandle s (by rfl) (by intro; exact ⟨rfl, rfl, rfl⟩)).trans
      (HandleMove.hold _ _)

theorem endPending_frame (h : Nat) : KeepsFrame (HandleMove (· = h)) (endPending h) :=
  KeepsFrame.change fun s =>
    (HandleMove.unhold s _).trans (HandleMove.modifyHandle _ (by rfl) (by intro; exact ⟨rfl, rfl, rfl⟩))

theorem acquire_frame (m : Nat) : KeepsFrame Move (acquire m) := by
  unfold acquire
  refine KeepsFrame.bind KeepsFrame.read fun w => ?_
  dsimp only
  split
  · exact KeepsFrame.change fun s => (Move.modifyLock s m _).trans (.handles (HandleMove.hold _ _))
  · exact KeepsFrame.await _

theorem unlock_frame (m : Nat) : KeepsFrame Move (unlock m) :=
  KeepsFrame.change fun s => (Move.handles (HandleMove.unhold s _)).trans
    (Move.unlock _ m)

theorem holdUnit_frame (u : UnitRef) : KeepsFrame Move (holdUnit u) :=
  KeepsFrame.change fun s => by
    cases u with
    | «local» i => exact (Move.modifyUnit s i _).trans (.handles (HandleMove.hold _ _))
    | manual i => exact (Move.modifyManualUnit s i _).trans (.handles (HandleMove.hold _ _))

theorem letGoUnit_frame (u : UnitRef) : KeepsFrame Move (letGoUnit u) :=
  KeepsFrame.change fun s => (Move.handles (HandleMove.unhold s _)).trans
    (Move.letGoUnit _ u)

end Step

end TxnCoord
